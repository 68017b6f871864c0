import Kapture.Hub.Registry

/-!
# Spokes are kept apart

A client whose certificate was verified may act for the spoke IDs that the certificate
names, and for no others. Six calls act for a spoke; each of them checks the caller before
it looks at the registry. The queries check nobody, though two of them take a spoke ID to
filter by, and they write nothing.

So whatever is called over one connection, and whatever its streams deliver, **the entries
of all other IDs stay as they are**, buffers included. What a stream has to be kept from is
the entry of another ID: it goes on with the number it found when it was opened.
-/

namespace Kapture.Hub

open Go Storage

/-! ## The calls -/

/-- The calls of `HubService`. -/
inductive Call where
  | registerSpoke (req : RegisterSpokeRequest)
  | heartbeat (req : HeartbeatRequest)
  | deregisterSpoke (spokeID : Str)
  | watchDirectives (spokeID : Str)
  | reportCaptureStatus (spokeID : Str) (statuses : List CaptureStatusSummary)
  | reportReplayStatus (spokeID : Str) (statuses : List ReplayStatusSummary)
  | listCaptures (spokeID ns cell : Str)
  | getCaptureStatus (name ns spokeID : Str)
  | listSpokes (cell : Str)
  | listCells
  | listReplays (loadTestName loadTestNamespace cell : Str)
deriving DecidableEq, Repr

/-- The answers to them. -/
inductive Reply where
  | registered (resp : RegisterSpokeResponse)
  | beat (resp : HeartbeatResponse)
  | acknowledged
  /-- A stream of the directives of an entry. -/
  | stream (entry : Nat)
  | captures (infos : List Server.CaptureInfo)
  | capture (info : Server.CaptureInfo)
  | spokes (infos : List SpokeInfo)
  | cells (infos : List Server.CellInfo)
  | replays (infos : List ReplayStatusSnapshot)
deriving DecidableEq, Repr

/-- The spoke ID that a call acts for. -/
def Call.actsFor : Call → Option Str
  | .registerSpoke req => some req.spokeID
  | .heartbeat req => some req.spokeID
  | .deregisterSpoke id => some id
  | .watchDirectives id => some id
  | .reportCaptureStatus id _ => some id
  | .reportReplayStatus id _ => some id
  | _ => none

/-- The spoke ID that a call names, to act for it or to ask for it. -/
def Call.names : Call → Option Str
  | .listCaptures id .. => if id = [] then none else some id
  | .getCaptureStatus _ _ id => if id = [] then none else some id
  | call => call.actsFor

def reply {α : Type} (f : α → Reply) (r : Except StatusError α × Server) :
    Except StatusError Reply × Server :=
  (r.1.map f, r.2)

/-- Answers a call. -/
def Server.serve (s : Server) (peer : Peer) (now : Time) :
    Call → Except StatusError Reply × Server
  | .registerSpoke req => reply .registered (s.registerSpoke peer now req)
  | .heartbeat req => reply .beat (s.heartbeat peer now req)
  | .deregisterSpoke id => reply (fun _ => .acknowledged) (s.deregisterSpoke peer id)
  | .watchDirectives id => ((s.watchDirectives peer id).map .stream, s)
  | .reportCaptureStatus id statuses =>
      reply (fun _ => .acknowledged) (s.reportCaptureStatus peer id statuses)
  | .reportReplayStatus id statuses =>
      reply (fun _ => .acknowledged) (s.reportReplayStatus peer id statuses)
  | .listCaptures id ns cell => (.ok (.captures (s.listCaptures id ns cell)), s)
  | .getCaptureStatus name ns id => ((s.getCaptureStatus name ns id).map .capture, s)
  | .listSpokes cell => (.ok (.spokes (s.listSpokes cell now)), s)
  | .listCells => (.ok (.cells (s.listCells now)), s)
  | .listReplays name ns cell => (.ok (.replays (s.listReplays name ns cell)), s)

/-! ## A connection -/

/-- A server and what is going on over one connection to it. -/
structure Session where
  server : Server
  /-- The entries of its open streams. -/
  streams : List Nat
  /-- The directives that came over it, with the entries they were buffered in. -/
  received : List (Nat × WatchDirectivesResponse)

inductive SessionStep where
  | call (now : Time) (call : Call)
  /-- A stream takes a directive, and sends it or fails to. -/
  | deliver (stream : Nat) (sent : Bool)
  /-- A stream ends: its context is done, its entry retired or the server stopped. -/
  | close (stream : Nat)
deriving DecidableEq, Repr

namespace Session

/-- A call may open a stream. -/
def opened (streams : List Nat) : Except StatusError Reply → List Nat
  | .ok (.stream e) => streams ++ [e]
  | _ => streams

def step (peer : Peer) (s : Session) : SessionStep → Session
  | .call now call =>
      { s with
        server := (s.server.serve peer now call).2
        streams := opened s.streams (s.server.serve peer now call).1 }
  | .deliver i sent =>
      match (s.streams[i]?).bind fun e => (s.server.takeDirective e).map fun x => (e, x) with
      | none => s
      | some (e, d, server) =>
          { server := server
            streams := if sent then s.streams else s.streams.eraseIdx i
            received := if sent then (e, d) :: s.received else s.received }
  | .close i => { s with streams := s.streams.eraseIdx i }

def run (peer : Peer) (s : Server) (steps : List SessionStep) : Session :=
  steps.foldl (step peer) ⟨s, [], []⟩

end Session

/-! ## One call -/

variable {peer : Peer} {I : List Str} {s : Server} {id : Str}

/-- **Who passes the check is named by the certificate.** -/
theorem mem_of_checkCaller (hI : peerCertIdentities peer = some I)
    (h : checkCaller peer id = .ok ()) : id ∈ I := by
  unfold checkCaller verifySpokeIdentity at h
  rw [hI] at h
  split at h
  · cases h
  · simp only at h
    split at h
    · assumption
    · cases h

theorem checkCaller_foreign (hI : peerCertIdentities peer = some I) (h : id ∉ I) :
    ∃ err, checkCaller peer id = .error err := by
  cases hc : checkCaller peer id with
  | error err => exact ⟨err, rfl⟩
  | ok u => exact absurd (mem_of_checkCaller hI hc) h

namespace Server

theorem same_writeEntry {ρ : Type} (s : Server) {id' : Str} (check : Except StatusError Unit)
    (f : SpokeEntry → SpokeEntry) (resp : ρ) (h : checkCaller peer id' = .ok () → id ≠ id') :
    Same s (s.writeEntry peer id' check f resp).2 id := by
  unfold writeEntry
  split
  · exact .refl s id
  · rename_i hc
    split
    · exact .refl s id
    · split
      · exact .refl s id
      · rename_i e he
        exact same_modify_of_ne s f he (h hc)

theorem same_registerSpoke (s : Server) (now : Time) (req : RegisterSpokeRequest)
    (h : checkCaller peer req.spokeID = .ok () → id ≠ req.spokeID) :
    Same s (s.registerSpoke peer now req).2 id := by
  unfold registerSpoke
  split
  · exact .refl s id
  · rename_i hc
    exact (same_retire s (h hc)).trans (same_enter _ _ (h hc))

theorem same_deregisterSpoke (s : Server) {id' : Str}
    (h : checkCaller peer id' = .ok () → id ≠ id') :
    Same s (s.deregisterSpoke peer id').2 id := by
  unfold deregisterSpoke
  split
  · exact .refl s id
  · rename_i hc
    split
    · exact .refl s id
    · exact (same_retire s (h hc)).trans (same_drop _ (h hc))

/-- A call over a connection does nothing to the IDs it may not act for. -/
theorem same_serve (hI : peerCertIdentities peer = some I) (s : Server) (now : Time) (call : Call)
    (hid : id ∉ I) : Same s (s.serve peer now call).2 id := by
  have hne : ∀ id', checkCaller peer id' = .ok () → id ≠ id' := by
    rintro id' hc rfl
    exact hid (mem_of_checkCaller hI hc)
  cases call with
  | registerSpoke req => exact same_registerSpoke s now req (hne _)
  | heartbeat req =>
      rw [serve, reply, heartbeat]
      exact same_writeEntry s _ _ _ (hne _)
  | deregisterSpoke id' => exact same_deregisterSpoke s (hne _)
  | reportCaptureStatus id' statuses =>
      rw [serve, reply, reportCaptureStatus]
      exact same_writeEntry s _ _ _ (hne _)
  | reportReplayStatus id' statuses =>
      rw [serve, reply, reportReplayStatus]
      exact same_writeEntry s _ _ _ (hne _)
  | _ => exact .refl s id

variable {call : Call}

/-- A call that acts for a foreign ID is rejected, and nothing is written. -/
theorem serve_foreign (hI : peerCertIdentities peer = some I) (s : Server) (now : Time)
    (hcall : call.actsFor = some id) (hid : id ∉ I) :
    ∃ err, s.serve peer now call = (.error err, s) := by
  obtain ⟨err, herr⟩ := checkCaller_foreign hI hid
  refine ⟨err, ?_⟩
  cases call with
  | registerSpoke req | heartbeat req | deregisterSpoke id' | watchDirectives id'
  | reportCaptureStatus id' statuses | reportReplayStatus id' statuses =>
      cases hcall
      simp only [serve, registerSpoke, heartbeat, deregisterSpoke, watchDirectives,
        reportCaptureStatus, reportReplayStatus, writeEntry, herr]
      rfl
  | _ => cases hcall

/-- A query writes nothing. -/
theorem serve_query (s : Server) (peer : Peer) (now : Time) (hcall : call.actsFor = none) :
    (s.serve peer now call).2 = s := by
  cases call with
  | registerSpoke req | heartbeat req | deregisterSpoke id' | watchDirectives id'
  | reportCaptureStatus id' statuses | reportReplayStatus id' statuses => cases hcall
  | _ => rfl

theorem map_ne_stream {α : Type} {f : α → Reply} {r : Except StatusError α} {e : Nat}
    (hf : ∀ a, f a ≠ .stream e) : r.map f ≠ .ok (.stream e) := by
  intro h
  cases r with
  | error err => cases h
  | ok a => exact hf a (Except.ok.inj h)

/-- The entry of a stream is that of the ID it was opened for. -/
theorem serve_stream {now : Time} {e : Nat} (h : (s.serve peer now call).1 = .ok (.stream e)) :
    ∃ id', call = .watchDirectives id' ∧ checkCaller peer id' = .ok () ∧
      s.spokes.lookup id' = some e := by
  cases call with
  | watchDirectives id' =>
      refine ⟨id', rfl, ?_⟩
      simp only [serve, watchDirectives] at h
      split at h
      · cases h
      · rename_i hc
        split at h
        · cases h
        · rename_i e' he
          cases h
          exact ⟨hc, he⟩
  | registerSpoke req | heartbeat req | deregisterSpoke id'
  | reportCaptureStatus id' statuses | reportReplayStatus id' statuses
  | getCaptureStatus name ns id' => exact absurd h (map_ne_stream nofun)
  | _ => cases h

theorem same_takeDirective {e : Nat} {d : WatchDirectivesResponse} {s' : Server}
    (h : s.takeDirective e = some (d, s')) (hid : s.spokes.lookup id ≠ some e) : Same s s' id := by
  unfold takeDirective at h
  split at h
  · cases h
    exact same_modify s _ hid
  · cases h

end Server

/-! ## A whole session -/

/-- What has been done over a connection is apart from the foreign IDs. -/
structure Apart (I : List Str) (s₀ : Server) (s : Session) : Prop where
  same : ∀ id ∉ I, s₀.Same s.server id
  streams : ∀ e ∈ s.streams, ∀ id ∉ I, s₀.spokes.lookup id ≠ some e
  received : ∀ x ∈ s.received, ∀ id ∉ I, s₀.spokes.lookup id ≠ some x.1

theorem Apart.call {s₀ : Server} {s : Session} (hI : peerCertIdentities peer = some I)
    (h : Apart I s₀ s) (now : Time) (call : Call) : Apart I s₀ (s.step peer (.call now call)) := by
  refine ⟨fun id hid => (h.same id hid).trans (Server.same_serve hI _ now call hid), ?_, h.received⟩
  intro e he id hid
  simp only [Session.step] at he
  unfold Session.opened at he
  split at he
  · rename_i e' hstream
    rcases List.mem_append.mp he with he | he
    · exact h.streams e he id hid
    · -- the new stream is for one of the caller's own IDs
      cases List.mem_singleton.mp he
      obtain ⟨id', -, hc, hid'⟩ := Server.serve_stream hstream
      intro hfound
      rw [← (h.same id hid).lookup] at hfound
      exact hid (s.server.distinct hfound hid' ▸ mem_of_checkCaller hI hc)
  · exact h.streams e he id hid

theorem Apart.deliver {s₀ : Server} {s : Session} (h : Apart I s₀ s) (i : Nat) (sent : Bool) :
    Apart I s₀ (s.step peer (.deliver i sent)) := by
  simp only [Session.step]
  split
  · exact h
  · rename_i e d server htake
    obtain ⟨e', hi, htake⟩ := Option.bind_eq_some_iff.mp htake
    obtain ⟨x, htake, hx⟩ := Option.map_eq_some_iff.mp htake
    cases hx
    have hown := h.streams e (List.mem_of_getElem? hi)
    refine ⟨fun id hid => ?_, fun e' he' => ?_, fun x hx => ?_⟩
    · have hl := (h.same id hid).lookup
      exact (h.same id hid).trans (Server.same_takeDirective htake (hl ▸ hown id hid))
    · split at he'
      · exact h.streams e' he'
      · exact h.streams e' (List.mem_of_mem_eraseIdx he')
    · split at hx
      · rcases List.mem_cons.mp hx with rfl | hx
        · exact hown
        · exact h.received x hx
      · exact h.received x hx

theorem apart_run (hI : peerCertIdentities peer = some I) (s₀ : Server)
    (steps : List SessionStep) : Apart I s₀ (Session.run peer s₀ steps) := by
  have key : ∀ s, Apart I s₀ s → Apart I s₀ (steps.foldl (Session.step peer) s) := by
    induction steps with
    | nil => exact fun s h => h
    | cons st rest ih =>
        intro s h
        refine ih _ ?_
        cases st with
        | call now call => exact h.call hI now call
        | deliver i sent => exact h.deliver i sent
        | close i =>
            exact ⟨h.same, fun e he => h.streams e (List.mem_of_mem_eraseIdx he), h.received⟩
  exact key _ ⟨fun id _ => .refl s₀ id, fun e he => absurd he List.not_mem_nil,
    fun x hx => absurd hx List.not_mem_nil⟩

/-- **Spokes are kept apart.** Over a connection whose certificate names `I`, a call that acts
for another ID is rejected and writes nothing, a query writes nothing, and after any calls and
deliveries the entries of all other IDs are what they were. No directive that came over the
connection was in the buffer of one of them. -/
theorem spoke_identity_isolated (peer : Peer) (I : List Str)
    (hI : peerCertIdentities peer = some I) :
    (∀ (s : Server) (now : Time) (call : Call),
      (∀ id ∈ call.actsFor, id ∉ I → ∃ err, s.serve peer now call = (.error err, s))
        ∧ (call.actsFor = none → (s.serve peer now call).2 = s))
    ∧ ∀ (s : Server) (steps : List SessionStep), ∀ id ∉ I,
        s.Same (Session.run peer s steps).server id
          ∧ ∀ x ∈ (Session.run peer s steps).received, s.spokes.lookup id ≠ some x.1 := by
  refine ⟨fun s now call => ⟨fun id hcall hid => ?_, ?_⟩, fun s steps id hid => ?_⟩
  · exact Server.serve_foreign hI s now hcall hid
  · exact Server.serve_query s peer now
  · have h := apart_run hI s steps
    exact ⟨h.same id hid, fun x hx => h.received x hx id hid⟩

/-! ## A connection of one spoke -/

/-- A connection with the certificate of the spoke `west`. -/
def westPeer : Peer := some (some (.tls [[⟨lit "west", [lit "west.spokes.internal"]⟩]]))

/-- A registry with the spoke `east`, which captures. -/
def eastServer : Server :=
  ((Server.new.registerSpoke none 0 ⟨lit "east", lit "eu-1", [], lit "blue"⟩).2.reportCaptureStatus
    none (lit "east") [⟨lit "cart", lit "shop", .active, 7, 700, 1, 1⟩]).2

/-- The certificate of `west` keeps a connection away from `east`. -/
theorem spoke_identity_isolated_west : peerCertIdentities westPeer
      = some [lit "west", lit "west.spokes.internal"]
    ∧ ∀ steps, eastServer.Same (Session.run westPeer eastServer steps).server (lit "east") :=
  ⟨rfl, fun steps =>
    ((spoke_identity_isolated westPeer [lit "west", lit "west.spokes.internal"] rfl).2 eastServer
      steps (lit "east") (by decide)).1⟩

/-- A query of `west` that names `east` is not rejected: it is told what `east` captures. -/
theorem foreign_query_answered :
    ¬ ∀ (peer : Peer) (I : List Str) (s : Server) (now : Time) (call : Call) (id : Str),
      peerCertIdentities peer = some I → call.names = some id → id ∉ I →
        ∃ err, s.serve peer now call = (.error err, s) := by
  intro h
  obtain ⟨err, herr⟩ := h westPeer _ eastServer 5 (.listCaptures (lit "east") [] []) (lit "east")
    rfl rfl (by decide)
  have hanswer : (eastServer.serve westPeer 5 (.listCaptures (lit "east") [] [])).1
      = .ok (.captures [⟨lit "cart", lit "shop", lit "east", .active, 7, 700⟩]) := by
    decide +kernel
  rw [herr] at hanswer
  cases hanswer

end Kapture.Hub
