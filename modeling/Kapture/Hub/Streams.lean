import Kapture.Hub.Isolation
import Kapture.Lib.Steps

/-!
# Directive streams

A gRPC server with the handlers of its streams and the calls that queue directives. Both
hold an entry that they looked up, and work on it without the lock of the registry. A
handler first receives a directive from the channel of its entry and then sends it. In
between it has the only copy.

If the context of a stream is done when there is a directive in the channel, `select` may
choose either, so a handler may take a directive for a stream that is broken already.
-/

namespace Kapture.Hub

open Go Storage

namespace Server

theorem spokes_writeEntry {ρ : Type} (s : Server) (peer : Peer) (id : Str)
    (check : Except StatusError Unit) (f : SpokeEntry → SpokeEntry) (resp : ρ) :
    (s.writeEntry peer id check f resp).2.spokes = s.spokes := by
  unfold writeEntry
  repeat' split
  all_goals rfl

theorem quiet_writeEntry {ρ : Type} (s : Server) (peer : Peer) (id : Str)
    (check : Except StatusError Unit) {f : SpokeEntry → SpokeEntry} (resp : ρ)
    (hf : ∀ entry, (f entry).directives = entry.directives) :
    Quiet s (s.writeEntry peer id check f resp).2 := by
  unfold writeEntry
  split
  · exact .refl s
  · split
    · exact .refl s
    · split
      · exact .refl s
      · exact quiet_modify s _ hf

/-- No call queues or takes a directive. -/
theorem quiet_serve (s : Server) (peer : Peer) (now : Time) (call : Call) :
    Quiet s (s.serve peer now call).2 := by
  cases call with
  | registerSpoke req =>
      rw [serve, reply, registerSpoke]
      split
      · exact .refl s
      · exact (quiet_retire s _).trans (quiet_enter _ _ rfl)
  | deregisterSpoke id =>
      rw [serve, reply, deregisterSpoke]
      split
      · exact .refl s
      · split
        · exact .refl s
        · exact (quiet_retire s _).trans (quiet_drop _ _)
  | heartbeat req =>
      rw [serve, reply, heartbeat]
      refine quiet_writeEntry s peer _ _ _ ?_
      exact fun _ => rfl
  | reportCaptureStatus id statuses =>
      rw [serve, reply, reportCaptureStatus]
      refine quiet_writeEntry s peer _ _ _ ?_
      exact fun _ => rfl
  | reportReplayStatus id statuses =>
      rw [serve, reply, reportReplayStatus]
      refine quiet_writeEntry s peer _ _ _ ?_
      exact fun _ => rfl
  | _ => exact .refl s

/-- Which entry an ID has after a call. -/
theorem lookup_serve (s : Server) (peer : Peer) (now : Time) (call : Call) (id : Str) :
    (s.serve peer now call).2.spokes.lookup id = s.spokes.lookup id
      ∨ (∃ req, call = .registerSpoke req ∧ req.spokeID = id
          ∧ (s.serve peer now call).2.spokes.lookup id = some s.entries.length
          ∧ s.entries.length < (s.serve peer now call).2.entries.length)
      ∨ call = .deregisterSpoke id := by
  cases call with
  | registerSpoke req =>
      rw [serve, reply, registerSpoke]
      split
      · exact .inl rfl
      · have hlen : (s.retire req.spokeID).entries.length = s.entries.length := by
          unfold retire
          split
          · rfl
          · exact List.length_modify _ s.entries _
        by_cases hid : req.spokeID = id
        · refine .inr (.inl ⟨req, rfl, hid, ?_, ?_⟩)
          · rw [← hid, ← hlen]
            exact AList.lookup_insert ..
          · rw [← hlen]
            change _ < ((s.retire req.spokeID).entries ++ [_]).length
            rw [List.length_append, List.length_singleton]
            exact Nat.lt_succ_self _
        · refine .inl ?_
          rw [← spokes_retire s req.spokeID]
          exact AList.lookup_insert_ne (Ne.symm hid)
  | deregisterSpoke id' =>
      by_cases hid : id' = id
      · exact .inr (.inr (hid ▸ rfl))
      · refine .inl ?_
        rw [serve, reply, deregisterSpoke]
        split
        · rfl
        · split
          · rfl
          · rw [← spokes_retire s id']
            exact AList.lookup_erase_ne (Ne.symm hid)
  | heartbeat req =>
      rw [serve, reply, heartbeat]
      exact .inl (congrArg (·.lookup id) (spokes_writeEntry s peer _ _ _ _))
  | reportCaptureStatus id' statuses =>
      rw [serve, reply, reportCaptureStatus]
      exact .inl (congrArg (·.lookup id) (spokes_writeEntry s peer _ _ _ _))
  | reportReplayStatus id' statuses =>
      rw [serve, reply, reportReplayStatus]
      exact .inl (congrArg (·.lookup id) (spokes_writeEntry s peer _ _ _ _))
  | _ => exact .inl rfl

end Server

/-- A call of `queueDirective` that has found its entry. -/
structure Queueing where
  spokeID : Str
  entry : Nat
  d : WatchDirectivesResponse
deriving DecidableEq, Repr

/-- A handler of `WatchDirectives`, with its stream. -/
structure Watch where
  spokeID : Str
  entry : Nat
  /-- The directive it has received and not yet sent. -/
  held : Option WatchDirectivesResponse
  /-- Whether the stream is broken. -/
  broken : Bool
  /-- What the handler has returned. -/
  returned : Option StatusError
deriving DecidableEq, Repr

/-- Whether a stream is open. -/
def Watch.isOpen (w : Watch) : Bool := !w.broken && w.returned.isNone

structure Streams where
  server : Server
  queueing : List Queueing
  watches : List Watch
  /-- For which directives `queueDirective` has returned nil, by spoke ID, oldest first. -/
  accepted : List (Str × WatchDirectivesResponse)
  /-- What has been sent without error, by the number of the stream and the spoke ID,
  oldest first. -/
  sent : List (Nat × Str × WatchDirectivesResponse)

inductive StreamAct where
  | call (peer : Peer) (now : Time) (call : Call)
  /-- A call of `queueDirective` looks its spoke up. -/
  | find (spokeID : Str) (d : WatchDirectivesResponse)
  /-- It offers the directive. -/
  | offer (i : Nat)
  /-- A handler receives from the channel. -/
  | take (i : Nat)
  /-- It sends what it has received. -/
  | send (i : Nat)
  /-- A stream breaks. -/
  | sever (i : Nat)
  /-- A handler returns: its stream is broken, its entry retired or the server stopped. -/
  | leave (i : Nat) (err : StatusError)
  | clearReplayStatuses (key : Key)
  | setActiveLoadTests (keys : List Key) (complete : Bool)
  | stop
deriving DecidableEq, Repr

namespace Streams

def start (server : Server) : Streams := ⟨server, [], [], [], []⟩

/-- The handler that a call starts, if it is a `WatchDirectives`. -/
def watchOf (call : Call) : Except StatusError Reply → List Watch
  | .ok (.stream e) => [⟨call.actsFor.getD [], e, none, false, none⟩]
  | _ => []

/-- Answers a call. -/
def serve (s : Streams) (peer : Peer) (now : Time) (call : Call) : Streams :=
  { s with
    server := (s.server.serve peer now call).2
    watches := s.watches ++ watchOf call (s.server.serve peer now call).1 }

/-- Offers a directive to an entry. -/
def offer (s : Streams) (q : Queueing) : Bool × Streams :=
  match s.server.offer q.entry q.d with
  | (true, server) =>
      (true, { s with server := server, accepted := s.accepted ++ [(q.spokeID, q.d)] })
  | (false, server) => (false, { s with server := server })

/-- A handler at work. -/
def watching (s : Streams) (i : Nat) : Option Watch := (s.watches[i]?).filter (·.returned.isNone)

def take (s : Streams) (i : Nat) : Option Streams :=
  match s.watching i with
  | some w =>
      if w.held.isNone then
        (s.server.takeDirective w.entry).map fun x =>
          { s with
            server := x.2
            watches := s.watches.modify i ({ · with held := some x.1 }) }
      else none
  | none => none

/-- `stream.Send`, which fails on a broken stream. -/
def send (s : Streams) (i : Nat) : Option Streams :=
  match s.watching i with
  | some w =>
      match w.held with
      | some d =>
          if w.broken then
            some { s with
              watches := s.watches.modify i ({ · with held := none, returned := some .canceled }) }
          else
            some { s with
              watches := s.watches.modify i ({ · with held := none })
              sent := s.sent ++ [(i, w.spokeID, d)] }
      | none => none
  | none => none

/-- What a handler without a directive may return. -/
def leaving (s : Streams) (w : Watch) : List StatusError :=
  (if w.broken then [.canceled] else []) ++ (if s.server.shutdown then [.shuttingDown] else [])
    ++ if (s.server.entries[w.entry]?).any (·.done) then [.deregistered w.spokeID] else []

def leave (s : Streams) (i : Nat) (err : StatusError) : Option Streams :=
  match s.watching i with
  | some w =>
      if w.held.isNone ∧ err ∈ s.leaving w then
        some { s with watches := s.watches.modify i ({ · with returned := some err }) }
      else none
  | none => none

def act : StreamAct → Streams → Option Streams
  | .call peer now call, s => some (s.serve peer now call)
  | .find spokeID d, s =>
      match s.server.findSpoke spokeID with
      | .error _ => some s
      | .ok e => some { s with queueing := s.queueing ++ [⟨spokeID, e, d⟩] }
  | .offer i, s => (s.queueing[i]?).map fun q =>
      { (s.offer q).2 with queueing := s.queueing.eraseIdx i }
  | .take i, s => s.take i
  | .send i, s => s.send i
  | .sever i, s => some { s with watches := s.watches.modify i ({ · with broken := true }) }
  | .leave i err, s => s.leave i err
  | .clearReplayStatuses key, s => some { s with server := s.server.clearReplayStatuses key }
  | .setActiveLoadTests keys complete, s =>
      some { s with server := s.server.setActiveLoadTests keys complete }
  | .stop, s => some { s with server := s.server.stop }

/-- The buffered directives of a spoke. -/
def buffer (s : Streams) (id : Str) : List WatchDirectivesResponse :=
  ((s.server.entry id).map (·.directives)).getD []

/-- The accepted directives of a spoke. -/
def acceptedFor (s : Streams) (id : Str) : List WatchDirectivesResponse :=
  (s.accepted.filter (·.1 = id)).map (·.2)

/-- The directives that were sent to a spoke. -/
def sentTo (s : Streams) (id : Str) : List WatchDirectivesResponse :=
  (s.sent.filter (·.2.1 = id)).map (·.2.2)

/-- What the handlers of a spoke hold. -/
def heldFor (s : Streams) (id : Str) : List WatchDirectivesResponse :=
  s.watches.filterMap fun w => if w.spokeID = id then w.held else none

/-! ## What a step does -/

section Steps

variable {s s' : Streams} {i : Nat}

/-- The handler that a call starts is one of `WatchDirectives`. -/
theorem mem_watchOf {peer : Peer} {now : Time} {call : Call} {w : Watch}
    (h : w ∈ watchOf call (s.server.serve peer now call).1) :
    ∃ spokeID e, call = .watchDirectives spokeID ∧ w = ⟨spokeID, e, none, false, none⟩
      ∧ s.server.spokes.lookup spokeID = some e := by
  unfold watchOf at h
  split at h
  · rename_i e he
    obtain ⟨spokeID, rfl, -, hlookup⟩ := Server.serve_stream he
    exact ⟨spokeID, e, rfl, List.mem_singleton.mp h, hlookup⟩
  · cases h

theorem mem_serve {peer : Peer} {now : Time} {call : Call} {w : Watch}
    (h : w ∈ (s.serve peer now call).watches) :
    w ∈ s.watches ∨ w ∈ watchOf call (s.server.serve peer now call).1 :=
  List.mem_append.mp h

end Steps

end Streams

end Kapture.Hub
