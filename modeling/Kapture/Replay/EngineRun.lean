import Kapture.Lib.Chan
import Kapture.Lib.Slots
import Kapture.Lib.Steps
import Kapture.Replay.Engine

/-!
# The goroutines of a replay

`Engine.Run` starts one goroutine that reads and paces, and some that send; a bounded channel is
between them. Each of them looks at the context for itself: the reader before every read and while
it waits or hands over, a sender when it has received a request. But only the reader's verdict is
returned. When the context is cancelled after its last look, the senders drop what is still in the
channel, and `Run` returns nil.

In every run each request that the reader found due is in one place: in its hands, buffered, held
by a sender, or passed on (`Flow`). **If no sender finds the context cancelled in a run whose reader
returns nil, then nothing was dropped**, and the replay is complete.

The reader, the sender and the result handler are whatever they are: `Next` and `Send` may return
anything at any time, and `X` is what can happen in a `Send`.
-/

namespace Kapture.Replay

open Go Storage

/-- `replay.Result`, without what only times it and without the headers. -/
structure ReplayResult where
  requestID : Str
  statusCode : Int64
  responseBody : Str
  error : Option Error
deriving DecidableEq, Repr

/-- What `Send` returns. -/
abbrev SendReturn := Option ReplayResult × Option Error

/-- What `sendLoop` passes to the result handler. -/
def handedResult (req : CapturedRequest) : SendReturn → Option ReplayResult
  | (none, some err) => some ⟨req.id, 0, [], some err⟩
  | (result, _) => result

/-- Where `readLoop` is. -/
inductive ReadState where
  /-- At the top of its loop. -/
  | looking
  /-- In `reader.Next`. -/
  | reading
  /-- It waits for a tick or a delay. -/
  | waiting (current : CapturedRequest)
  | handing (current : CapturedRequest)
  /-- It has returned, perhaps with a request that it did not hand over. -/
  | returned (err : Option Error) (left : Option CapturedRequest)
deriving DecidableEq, Repr

/-- What the reader has in its hands. -/
def ReadState.hand : ReadState → List CapturedRequest
  | .waiting current | .handing current => [current]
  | .returned _ left => left.toList
  | _ => []

/-- Where a `sendLoop` is. -/
inductive SendState (X : Type) where
  | receiving
  /-- It has received a request, and has not looked at the context yet. -/
  | holding (req : CapturedRequest)
  /-- In `sender.Send`. -/
  | sending (req : CapturedRequest)
  /-- In `resultHandler.HandleResult`. -/
  | handling (req : CapturedRequest) (x : X)
  /-- It has returned, perhaps with a request that it dropped. -/
  | exited (dropped : Option CapturedRequest)
deriving DecidableEq, Repr

namespace SendState

variable {X : Type}

/-- What was received and not passed to the sender. -/
def held : SendState X → List CapturedRequest
  | .holding req => [req]
  | .exited dropped => dropped.toList
  | _ => []

/-- What was passed to the sender and not yet to the handler. -/
def called : SendState X → List CapturedRequest
  | .sending req | .handling req _ => [req]
  | _ => []

/-- What was counted and not yet passed to the handler. -/
def counted : SendState X → List (CapturedRequest × X)
  | .handling req x => [(req, x)]
  | _ => []

def isExited : SendState X → Bool
  | .exited _ => true
  | _ => false

end SendState

structure EngineRun (X : Type) where
  /-- The context is done. -/
  cancelled : Bool
  /-- What `Next` has returned. -/
  produced : List CapturedRequest
  prevTimestamp : Time
  loop : ReadState
  reqCh : Chan CapturedRequest
  senders : List (SendState X)
  filtered : Nat
  shardSkipped : Nat
  sent : Nat
  errors : Nat
  /-- What was passed to `Send`, and what was passed to the handler with what happened to it. -/
  calls : List CapturedRequest
  results : List (CapturedRequest × X)
  /-- What `Run` has returned, if it has. -/
  result : Option (Option Error)
deriving DecidableEq

inductive EngineAct (X : Type) where
  | look
  /-- `Next` returns. -/
  | next (r : Except Error CapturedRequest)
  /-- The wait is over. -/
  | tick
  | hand
  /-- The reader finds the context done while it waits or hands over. -/
  | quit
  | close
  | receive (i : Nat)
  /-- A sender looks at the context. -/
  | check (i : Nat)
  /-- `Send` returns. -/
  | sent (i : Nat) (x : X)
  | handled (i : Nat)
  | finish
  | cancel
deriving DecidableEq, Repr

namespace EngineRun

variable {X : Type}

/-- `Run`, when the reader is open. -/
def start (e : Engine) : EngineRun X where
  cancelled := false
  produced := []
  prevTimestamp := 0
  loop := .looking
  reqCh := .make _ (2 * e.concurrency.toNatClampNeg)
  senders := List.replicate e.concurrency.toNatClampNeg .receiving
  filtered := 0
  shardSkipped := 0
  sent := 0
  errors := 0
  calls := []
  results := []
  result := none

/-- The reader has a request. -/
def take (e : Engine) (req : CapturedRequest) (s : EngineRun X) : EngineRun X :=
  if e.skips req then
    { s with produced := s.produced ++ [req], loop := .looking, shardSkipped := s.shardSkipped + 1 }
  else
    match applyTransformers e.transformers req with
    | none =>
        { s with produced := s.produced ++ [req], loop := .looking, filtered := s.filtered + 1 }
    | some current => { s with
        produced := s.produced ++ [req]
        prevTimestamp := e.pacing.advance s.prevTimestamp req
        loop := if (e.pacing.wait s.prevTimestamp req).isSome then .waiting current
          else .handing current }

def next (e : Engine) (r : Except Error CapturedRequest) (s : EngineRun X) : Option (EngineRun X) :=
  if s.loop = .reading then
    match r with
    | .ok req => some (s.take e req)
    | .error err =>
        some { s with loop := .returned (if err.is .readerDone then none else some err) none }
  else none

def hand (s : EngineRun X) : Option (EngineRun X) :=
  match s.loop with
  | .handing current => (s.reqCh.send current).map fun c => { s with reqCh := c, loop := .looking }
  | _ => none

def quit (s : EngineRun X) : Option (EngineRun X) :=
  match s.loop with
  | .waiting current | .handing current =>
      if s.cancelled then some { s with loop := .returned (some canceled) (some current) } else none
  | _ => none

def close (s : EngineRun X) : Option (EngineRun X) :=
  match s.loop with
  | .returned _ _ => some { s with reqCh := s.reqCh.close }
  | _ => none

def setSender (s : EngineRun X) (i : Nat) (w : SendState X) : EngineRun X :=
  { s with senders := s.senders.set i w }

def receive (i : Nat) (s : EngineRun X) : Option (EngineRun X) :=
  match s.senders[i]? with
  | some .receiving =>
      match s.reqCh.recv with
      | some (req, c) => some { s.setSender i (.holding req) with reqCh := c }
      | none => if s.reqCh.closed then some (s.setSender i (.exited none)) else none
  | _ => none

def check (i : Nat) (s : EngineRun X) : Option (EngineRun X) :=
  match s.senders[i]? with
  | some (.holding req) =>
      if s.cancelled then some (s.setSender i (.exited (some req)))
      else some { s.setSender i (.sending req) with calls := s.calls ++ [req] }
  | _ => none

/-- `Send` returns, and is counted by its error. -/
def sendReturns (send : CapturedRequest → X → SendReturn) (i : Nat) (x : X) (s : EngineRun X) :
    Option (EngineRun X) :=
  match s.senders[i]? with
  | some (.sending req) =>
      if (send req x).2.isNone then some { s.setSender i (.handling req x) with sent := s.sent + 1 }
      else some { s.setSender i (.handling req x) with errors := s.errors + 1 }
  | _ => none

def handled (i : Nat) (s : EngineRun X) : Option (EngineRun X) :=
  match s.senders[i]? with
  | some (.handling req x) =>
      some { s.setSender i .receiving with results := s.results ++ [(req, x)] }
  | _ => none

/-- All senders have returned, and the reader's verdict is there. -/
def finish (s : EngineRun X) : Option (EngineRun X) :=
  match s.loop with
  | .returned err _ =>
      if s.senders.all SendState.isExited ∧ s.result = none then
        some { s with result := some (err.map (Err.wrap "reader")) }
      else none
  | _ => none

/-- One step of whoever takes one. -/
def act (e : Engine) (send : CapturedRequest → X → SendReturn) (a : EngineAct X) (s : EngineRun X) :
    Option (EngineRun X) :=
  match a with
  | .look =>
      if s.loop = .looking then
        if s.cancelled then some { s with loop := .returned (some canceled) none }
        else some { s with loop := .reading }
      else none
  | .next r => s.next e r
  | .tick =>
      match s.loop with
      | .waiting current => some { s with loop := .handing current }
      | _ => none
  | .hand => s.hand
  | .quit => s.quit
  | .close => s.close
  | .receive i => s.receive i
  | .check i => s.check i
  | .sent i x => s.sendReturns send i x
  | .handled i => s.handled i
  | .finish => s.finish
  | .cancel => some { s with cancelled := true }

end EngineRun

/-- The requests that are due: those of the shard that no transformer drops, as they are sent. -/
def dueRequests (e : Engine) (reqs : List CapturedRequest) : List CapturedRequest :=
  (reqs.filter fun req => !e.skips req).filterMap (applyTransformers e.transformers)

/-! ## Where the requests are -/

namespace EngineRun

variable {X : Type} {e : Engine} {send : CapturedRequest → X → SendReturn} {s s' : EngineRun X}
  {i : Nat}
  {old : SendState X} {a : EngineAct X}

/-- **Every request that is due is in one place**, in every run. -/
structure Flow (e : Engine) (send : CapturedRequest → X → SendReturn) (s : EngineRun X) : Prop where
  due : dueRequests e s.produced = s.reqCh.sent ++ s.loop.hand
  received : (s.senders.flatMap SendState.held ++ s.calls).Perm s.reqCh.received
  called : (s.senders.flatMap SendState.called ++ s.results.map Prod.fst).Perm s.calls
  /-- The counters go by the error that `Send` returned. -/
  sentCount : s.sent = ((s.senders.flatMap SendState.counted ++ s.results).filter
    fun x => (send x.1 x.2).2.isNone).length
  errorCount : s.errors = ((s.senders.flatMap SendState.counted ++ s.results).filter
    fun x => (send x.1 x.2).2.isSome).length
  /-- Nil is returned only at the end of the input. -/
  succeeded : ∀ left, s.loop = .returned none left → left = none
  closed : s.reqCh.closed = true → ∃ err left, s.loop = .returned err left
  exited : .exited none ∈ s.senders → s.reqCh.closed = true ∧ s.reqCh.buf = []
  dropped : ∀ req, .exited (some req) ∈ s.senders → s.cancelled = true
  result : ∀ r, s.result = some r → ∃ err left, s.loop = .returned err left ∧
    r = err.map (Err.wrap "reader") ∧ s.senders.all SendState.isExited = true

theorem flatMap_start {β : Type} {g : SendState X → List β} (hg : g .receiving = []) (n : Nat) :
    (List.replicate n SendState.receiving).flatMap g = [] :=
  List.flatMap_eq_nil_iff.mpr fun w hw => by rw [List.eq_of_mem_replicate hw, hg]

theorem flow_start (e : Engine)
    (send : CapturedRequest → X → SendReturn) : (start e).Flow e send where
  due := rfl
  received := by
    rw [start, flatMap_start rfl]
    exact .refl _
  called := by
    rw [start, flatMap_start rfl]
    exact .refl _
  sentCount := by
    rw [start, flatMap_start rfl]
    rfl
  errorCount := by
    rw [start, flatMap_start rfl]
    rfl
  succeeded _ h := by cases h
  closed h := by cases h
  exited h := by cases List.eq_of_mem_replicate h
  dropped _ h := by cases List.eq_of_mem_replicate h
  result _ h := by cases h

/-! ### The reader -/

/-- The reader moves on, before it has returned. -/
theorem Flow.moveReader (h : s.Flow e send) (hrun : ∀ err left, s.loop ≠ .returned err left)
    {produced : List CapturedRequest} {prev : Time} {l : ReadState} {filtered skipped : Nat}
    (hdue : dueRequests e produced = s.reqCh.sent ++ l.hand)
    (hsucc : ∀ left, l = .returned none left → left = none) :
    ({ s with
      produced := produced
      prevTimestamp := prev
      loop := l
      filtered := filtered
      shardSkipped := skipped } : EngineRun X).Flow e send :=
  { h with
    due := hdue
    succeeded := hsucc
    closed := by
      intro hc
      obtain ⟨err, left, hloop⟩ := h.closed hc
      exact absurd hloop (hrun err left)
    result := by
      intro r hr
      obtain ⟨err, left, hloop, _⟩ := h.result r hr
      exact absurd hloop (hrun err left) }

theorem Flow.take (h : s.Flow e send) (hloop : s.loop = .reading) (req : CapturedRequest) :
    (s.take e req).Flow e send := by
  have hrun : ∀ err left, s.loop ≠ .returned err left := fun err left hr => by
    rw [hloop] at hr
    cases hr
  have hdue : dueRequests e s.produced = s.reqCh.sent := by
    have := h.due
    rw [hloop] at this
    exact this.trans (List.append_nil _)
  have happ : dueRequests e (s.produced ++ [req]) = s.reqCh.sent ++ dueRequests e [req] := by
    rw [dueRequests, List.filter_append, List.filterMap_append]
    exact congrArg (· ++ _) hdue
  unfold EngineRun.take
  split
  · rename_i hskip
    refine h.moveReader hrun ?_ nofun
    rw [happ, dueRequests, List.filter_cons_of_neg (by simp [hskip])]
    rfl
  · rename_i hskip
    have hone : dueRequests e [req] = (applyTransformers e.transformers req).toList := by
      rw [dueRequests, List.filter_cons_of_pos (by simpa using hskip), List.filter_nil,
        List.filterMap_cons]
      cases applyTransformers e.transformers req with
      | none => rfl
      | some current => rfl
    rw [hone] at happ
    split
    · rename_i ht
      rw [ht] at happ
      exact h.moveReader hrun happ nofun
    · rename_i current ht
      rw [ht] at happ
      refine h.moveReader hrun ?_ ?_
      · rw [happ]
        split
        · rfl
        · rfl
      · intro left hr
        split at hr
        · cases hr
        · cases hr

theorem Flow.next (h : s.Flow e send) {r : Except Error CapturedRequest}
    (hs : s.next e r = some s') : s'.Flow e send := by
  unfold EngineRun.next at hs
  split at hs
  · rename_i hloop
    have hrun : ∀ err left, s.loop ≠ .returned err left := fun err left hr => by
      rw [hloop] at hr
      cases hr
    cases r with
    | ok req =>
        cases hs
        exact h.take hloop req
    | error err =>
        cases hs
        refine h.moveReader hrun ?_ ?_
        · have := h.due
          rwa [hloop] at this
        · exact fun left hr => (ReadState.returned.inj hr).2.symm
  · cases hs

theorem Flow.hand (h : s.Flow e send) (hs : s.hand = some s') : s'.Flow e send := by
  unfold EngineRun.hand at hs
  split at hs
  · rename_i current hloop
    obtain ⟨c, hsend, rfl⟩ := Option.map_eq_some_iff.mp hs
    obtain ⟨hsent, hrec, -, hclosed, -⟩ := Chan.send_some hsend
    -- while the reader hands over, the channel is open and `Run` has not returned
    have hrun : ∀ err left, s.loop ≠ .returned err left := fun err left hr => by
      rw [hloop] at hr
      cases hr
    have hopen : ¬ s.reqCh.closed = true := by
      intro hc
      obtain ⟨err, left, hr⟩ := h.closed hc
      exact hrun err left hr
    refine { h with
      due := ?_, received := ?_, succeeded := ?_, closed := ?_, exited := ?_, result := ?_ }
    · have := h.due
      rw [hloop] at this
      show dueRequests e s.produced = c.sent ++ []
      rw [this, hsent, List.append_nil]
      rfl
    · show List.Perm _ c.received
      rw [hrec]
      exact h.received
    · exact nofun
    · exact fun hc => absurd (hclosed ▸ hc) hopen
    · exact fun hx => absurd (h.exited hx).1 hopen
    · intro r hr
      obtain ⟨err, left, hl, _⟩ := h.result r hr
      exact absurd hl (hrun err left)
  · cases hs

theorem Flow.quit (h : s.Flow e send) (hs : s.quit = some s') : s'.Flow e send := by
  have hstep : ∀ current, s.loop.hand = [current] → (∀ err left, s.loop ≠ .returned err left) →
      ({ s with loop := .returned (some canceled) (some current) } : EngineRun X).Flow e send := by
    intro current hhand hrun
    refine h.moveReader hrun ?_ nofun
    have := h.due
    rwa [hhand] at this
  unfold EngineRun.quit at hs
  split at hs
  · rename_i current hloop
    obtain ⟨-, rfl⟩ := Option.ite_some_none_eq_some.mp hs
    exact hstep current (by rw [hloop]; rfl) fun err left hr => by rw [hloop] at hr; cases hr
  · rename_i current hloop
    obtain ⟨-, rfl⟩ := Option.ite_some_none_eq_some.mp hs
    exact hstep current (by rw [hloop]; rfl) fun err left hr => by rw [hloop] at hr; cases hr
  · cases hs

theorem Flow.close (h : s.Flow e send) (hs : s.close = some s') : s'.Flow e send := by
  unfold EngineRun.close at hs
  split at hs
  · rename_i err left hloop
    cases hs
    exact { h with
      closed := fun _ => ⟨err, left, hloop⟩
      exited := fun hx => ⟨rfl, (h.exited hx).2⟩ }
  · cases hs

/-! ### A sender -/

/-- While a sender is at work, `Run` has not returned. -/
theorem Flow.unfinished (h : s.Flow e send) (hi : s.senders[i]? = some old)
    (hold : old.isExited = false) : s.result = none := by
  cases hr : s.result with
  | none => rfl
  | some r =>
      obtain ⟨_, _, _, _, hall⟩ := h.result r hr
      have := List.all_eq_true.mp hall old (List.mem_of_getElem? hi)
      rw [hold] at this
      cases this

variable {c : Chan CapturedRequest}

/-- What a sender's step has to keep. -/
theorem Flow.moveSender (h : s.Flow e send) (new : SendState X) (hi : s.senders[i]? = some old)
    (hold : old.isExited = false) {calls : List CapturedRequest}
    {results : List (CapturedRequest × X)} {sent errors : Nat} (hsent : c.sent = s.reqCh.sent)
    (hclosed : c.closed = s.reqCh.closed) (hbuf : s.reqCh.buf = [] → c.buf = [])
    (hreceived : ((s.senders.set i new).flatMap SendState.held ++ calls).Perm c.received)
    (hcalled : ((s.senders.set i new).flatMap SendState.called ++ results.map Prod.fst).Perm calls)
    (hsentCount : sent = (((s.senders.set i new).flatMap SendState.counted ++ results).filter
      fun x => (send x.1 x.2).2.isNone).length)
    (herrorCount : errors = (((s.senders.set i new).flatMap SendState.counted ++ results).filter
      fun x => (send x.1 x.2).2.isSome).length)
    (hexited : new = .exited none → s.reqCh.closed = true ∧ c.buf = [])
    (hdropped : ∀ req, new = .exited (some req) → s.cancelled = true) :
    ({ s.setSender i new with
      reqCh := c
      calls := calls
      results := results
      sent := sent
      errors := errors } : EngineRun X).Flow e send where
  due := by
    rw [hsent]
    exact h.due
  received := hreceived
  called := hcalled
  sentCount := hsentCount
  errorCount := herrorCount
  succeeded := h.succeeded
  closed := fun hc => h.closed (hclosed ▸ hc)
  exited := by
    intro hx
    rcases List.mem_or_eq_of_mem_set hx with hx | hx
    · obtain ⟨hcl, hb⟩ := h.exited hx
      exact ⟨hclosed.trans hcl, hbuf hb⟩
    · obtain ⟨hcl, hb⟩ := hexited hx.symm
      exact ⟨hclosed.trans hcl, hb⟩
  dropped := by
    intro req hx
    rcases List.mem_or_eq_of_mem_set hx with hx | hx
    · exact h.dropped req hx
    · exact hdropped req hx.symm
  result := by
    intro r hr
    have hnone : s.result = some r := hr
    rw [h.unfinished hi hold] at hnone
    cases hnone

/-- A sender moves and has what it had. -/
theorem perm_of_same {β : Type} {g : SendState X → List β} {new : SendState X} {pile all : List β}
    (hi : s.senders[i]? = some old) (hg : g new = g old)
    (h : (s.senders.flatMap g ++ pile).Perm all) :
    ((s.senders.set i new).flatMap g ++ pile).Perm all :=
  ((Slots.flatMap_set_of_eq hi hg).append_right pile).trans h

/-- The counters, when what was counted is in another order. -/
theorem length_filter_perm {α : Type} {l l' : List α} (h : l.Perm l') (p : α → Bool) :
    (l.filter p).length = (l'.filter p).length :=
  (h.filter p).length_eq

/-- A sender moves, and what was passed to `Send` and counted stays the same. -/
theorem Flow.moveHeld (h : s.Flow e send) (new : SendState X) (hi : s.senders[i]? = some old)
    (hold : old.isExited = false) (hcalled : new.called = old.called)
    (hcounted : new.counted = old.counted) (hsent : c.sent = s.reqCh.sent)
    (hclosed : c.closed = s.reqCh.closed) (hbuf : s.reqCh.buf = [] → c.buf = [])
    (hreceived : ((s.senders.set i new).flatMap SendState.held ++ s.calls).Perm c.received)
    (hexited : new = .exited none → s.reqCh.closed = true ∧ c.buf = [])
    (hdropped : ∀ req, new = .exited (some req) → s.cancelled = true) :
    ({ s.setSender i new with reqCh := c } : EngineRun X).Flow e send := by
  have hsame := (Slots.flatMap_set_of_eq hi hcounted).append_right s.results
  refine h.moveSender new hi hold hsent hclosed hbuf hreceived ?_ ?_ ?_ hexited hdropped
  · exact perm_of_same hi hcalled h.called
  · exact h.sentCount.trans (length_filter_perm hsame.symm _)
  · exact h.errorCount.trans (length_filter_perm hsame.symm _)

theorem Flow.receive (h : s.Flow e send) (hs : s.receive i = some s') : s'.Flow e send := by
  unfold EngineRun.receive at hs
  split at hs
  · rename_i hi
    split at hs
    · rename_i req c hrecv
      cases hs
      obtain ⟨hsent, hrec, hbuf, hclosed, -⟩ := Chan.recv_some hrecv
      refine h.moveHeld (.holding req) hi rfl rfl rfl hsent hclosed ?_ ?_ nofun nofun
      · exact fun hb => by rw [hb] at hbuf; cases hbuf
      · have hheld : ((s.senders.set i (.holding req)).flatMap SendState.held).Perm
            (s.senders.flatMap SendState.held ++ [req]) := Slots.flatMap_set_of_append hi rfl
        rw [hrec]
        refine (hheld.append_right s.calls).trans
          (List.Perm.trans ?_ (h.received.append_right [req]))
        rw [List.append_assoc, List.append_assoc]
        exact List.perm_append_comm.append_left _
    · rename_i hrecv
      have hempty := Chan.buf_of_recv_none hrecv
      obtain ⟨hclosed, rfl⟩ := Option.ite_some_none_eq_some.mp hs
      refine h.moveHeld (.exited none) hi rfl rfl rfl rfl rfl id ?_
        (fun _ => ⟨hclosed, hempty⟩) nofun
      exact perm_of_same hi rfl h.received
  · cases hs

theorem Flow.check (h : s.Flow e send) (hs : s.check i = some s') : s'.Flow e send := by
  unfold EngineRun.check at hs
  split at hs
  · rename_i req hi
    split at hs
    · rename_i hcancelled
      cases hs
      refine h.moveHeld (.exited (some req)) hi rfl rfl rfl rfl rfl id ?_ nofun fun _ _ =>
        hcancelled
      exact perm_of_same hi rfl h.received
    · cases hs
      have hsame : ((s.senders.set i (.sending req)).flatMap SendState.counted ++ s.results).Perm
          (s.senders.flatMap SendState.counted ++ s.results) := perm_of_same hi rfl (.refl _)
      refine h.moveSender (.sending req) hi rfl rfl rfl id ?_ ?_ ?_ ?_ nofun nofun
      · exact (Slots.flatMap_set_of_give hi rfl s.calls).trans h.received
      · have hcalled : ((s.senders.set i (.sending req)).flatMap SendState.called).Perm
            (s.senders.flatMap SendState.called ++ [req]) := Slots.flatMap_set_of_append hi rfl
        refine (hcalled.append_right _).trans (List.Perm.trans ?_ (h.called.append_right [req]))
        rw [List.append_assoc, List.append_assoc]
        exact List.perm_append_comm.append_left _
      · exact h.sentCount.trans (length_filter_perm hsame.symm _)
      · exact h.errorCount.trans (length_filter_perm hsame.symm _)
  · cases hs

theorem Flow.sendReturns (h : s.Flow e send) {x : X} (hs : s.sendReturns send i x = some s') :
    s'.Flow e send := by
  unfold EngineRun.sendReturns at hs
  split at hs
  · rename_i req hi
    -- one more is counted, by what `Send` returned
    have hone : ((s.senders.set i (.handling req x)).flatMap SendState.counted ++ s.results).Perm
        ((req, x) :: (s.senders.flatMap SendState.counted ++ s.results)) := by
      have hcounted : ((s.senders.set i (.handling req x)).flatMap SendState.counted).Perm
          (s.senders.flatMap SendState.counted ++ [(req, x)]) := Slots.flatMap_set_of_append hi rfl
      refine (hcounted.append_right _).trans ?_
      rw [List.append_assoc]
      exact List.perm_middle
    have hmove : ∀ sent errors,
        sent = (((req, x) :: (s.senders.flatMap SendState.counted ++ s.results)).filter
          fun x => (send x.1 x.2).2.isNone).length →
        errors = (((req, x) :: (s.senders.flatMap SendState.counted ++ s.results)).filter
          fun x => (send x.1 x.2).2.isSome).length →
        ({ s.setSender i (.handling req x) with sent := sent, errors := errors } : EngineRun X).Flow
          e send := by
      intro sent errors hsent herrors
      refine h.moveSender (.handling req x) hi rfl rfl rfl id ?_ ?_ ?_ ?_ nofun nofun
      · exact perm_of_same hi rfl h.received
      · exact perm_of_same hi rfl h.called
      · exact hsent.trans (length_filter_perm hone.symm _)
      · exact herrors.trans (length_filter_perm hone.symm _)
    split at hs
    · rename_i hnone
      cases hs
      have hsome : (send req x).2.isSome = false := by rw [Option.isNone_iff_eq_none.mp hnone]; rfl
      refine hmove _ _ ?_ ?_
      · rw [List.filter_cons, if_pos hnone, List.length_cons, ← h.sentCount]
      · rw [List.filter_cons, if_neg (by rw [hsome]; decide), ← h.errorCount]
        rfl
    · rename_i hnone
      cases hs
      have hsome : (send req x).2.isSome = true :=
        Option.isSome_iff_ne_none.mpr fun h => hnone (by rw [h]; rfl)
      refine hmove _ _ ?_ ?_
      · rw [List.filter_cons, if_neg hnone, ← h.sentCount]
        rfl
      · rw [List.filter_cons, if_pos hsome, List.length_cons, ← h.errorCount]
  · cases hs

theorem Flow.handled (h : s.Flow e send) (hs : s.handled i = some s') : s'.Flow e send := by
  unfold EngineRun.handled at hs
  split at hs
  · rename_i req x hi
    cases hs
    have hsame :
        ((s.senders.set i .receiving).flatMap SendState.counted ++ (s.results ++ [(req, x)])).Perm
        (s.senders.flatMap SendState.counted ++ s.results) := Slots.flatMap_set_of_give hi rfl
          s.results
    refine h.moveSender .receiving hi rfl rfl rfl id ?_ ?_ ?_ ?_ nofun nofun
    · exact perm_of_same hi rfl h.received
    · rw [List.map_append]
      exact (Slots.flatMap_set_of_give hi rfl _).trans h.called
    · exact h.sentCount.trans (length_filter_perm hsame.symm _)
    · exact h.errorCount.trans (length_filter_perm hsame.symm _)
  · cases hs

theorem Flow.finish (h : s.Flow e send) (hs : s.finish = some s') : s'.Flow e send := by
  unfold EngineRun.finish at hs
  split at hs
  · rename_i err left hloop
    obtain ⟨hall, rfl⟩ := Option.ite_some_none_eq_some.mp hs
    refine { h with result := ?_ }
    rintro r ⟨⟩
    exact ⟨err, left, hloop, rfl, hall.1⟩
  · cases hs

theorem Flow.act (h : s.Flow e send) (hs : s.act e send a = some s') : s'.Flow e send := by
  cases a with
  | look =>
      simp only [EngineRun.act] at hs
      split at hs
      · rename_i hloop
        have hrun : ∀ err left, s.loop ≠ .returned err left := fun err left hr => by
          rw [hloop] at hr
          cases hr
        have hdue : dueRequests e s.produced = s.reqCh.sent ++ [] := by
          have := h.due
          rwa [hloop] at this
        split at hs
        · cases hs
          exact h.moveReader hrun hdue nofun
        · cases hs
          exact h.moveReader hrun hdue nofun
      · cases hs
  | next r => exact h.next hs
  | tick =>
      simp only [EngineRun.act] at hs
      split at hs
      · rename_i current hloop
        cases hs
        refine h.moveReader (fun err left hr => by rw [hloop] at hr; cases hr) ?_ nofun
        have := h.due
        rwa [hloop] at this
      · cases hs
  | hand => exact h.hand hs
  | quit => exact h.quit hs
  | close => exact h.close hs
  | receive i => exact h.receive hs
  | check i => exact h.check hs
  | sent i x => exact h.sendReturns hs
  | handled i => exact h.handled hs
  | finish => exact h.finish hs
  | cancel =>
      cases hs
      exact { h with dropped := fun _ _ => rfl }

theorem flow_of_reach {ok : EngineAct X → EngineRun X → Prop}
    (h : Steps.Reach (act e send) ok (start e) s) : s.Flow e send :=
  h.holds (flow_start e send) fun _ _ _ _ hact hflow => hflow.act hact

/-- When `Run` has returned, every sender has. -/
theorem Flow.ended (h : s.Flow e send) {r : Option Error} (hr : s.result = some r) {β : Type}
    {g : SendState X → List β} (hg : ∀ dropped, g (.exited dropped) = []) :
    s.senders.flatMap g = [] := by
  obtain ⟨_, _, -, -, hall⟩ := h.result r hr
  refine List.flatMap_eq_nil_iff.mpr fun w hw => ?_
  cases w with
  | exited dropped => exact hg dropped
  | _ => cases List.all_eq_true.mp hall _ hw

/-! ## A replay that succeeds -/

/-- **Every request that is due was passed to the sender once, and its result to the handler.** -/
def Complete (e : Engine) (s : EngineRun X) : Prop :=
  s.calls.Perm (dueRequests e s.produced) ∧ (s.results.map Prod.fst).Perm (dueRequests e s.produced)

/-- No sender finds the context done after the reader has returned nil, and the reader does not
return nil after a sender has. -/
def Heeded : EngineAct X → EngineRun X → Prop
  | .check _, s => s.cancelled = true → s.loop ≠ .returned none none
  | .next (.error err), s => err.is .readerDone = true → ∀ w ∈ s.senders, w.isExited = false
  | _, _ => True

instance (a : EngineAct X) (s : EngineRun X) : Decidable (Heeded a s) := by
  unfold Heeded
  split <;> infer_instance

theorem take_loop (req : CapturedRequest) (s : EngineRun X) (err : Option Error)
    (left : Option CapturedRequest) : (s.take e req).loop ≠ .returned err left := by
  unfold take
  split
  · nofun
  · split
    · nofun
    · dsimp only
      split
      · nofun
      · nofun

theorem take_senders (req : CapturedRequest) (s : EngineRun X) :
    (s.take e req).senders = s.senders := by
  unfold take
  split
  · rfl
  · split <;> rfl

/-- **What a step can do**: the senders stay as they are, and the reader returns nil only when it
has read the end; or a sender moves, and drops a request only when it finds the context done. -/
theorem act_cases (hs : s.act e send a = some s') :
    s'.senders = s.senders ∧ (s'.loop = .returned none none →
      s.loop = .returned none none ∨ ∃ err, a = .next (.error err) ∧ err.is .readerDone = true)
    ∨ s'.loop = s.loop ∧ ∃ i w, s'.senders = s.senders.set i w ∧
      ∀ req, w = .exited (some req) → a = .check i ∧ s.cancelled = true := by
  cases a with
  | look =>
      simp only [act] at hs
      split at hs
      · split at hs <;> (cases hs; exact Or.inl ⟨rfl, fun h => by cases h⟩)
      · cases hs
  | next r =>
      simp only [act, next] at hs
      split at hs
      · cases r with
        | ok req =>
            cases hs
            exact Or.inl ⟨take_senders req s, fun h => absurd h (take_loop req s none none)⟩
        | error err =>
            cases hs
            refine Or.inl ⟨rfl, fun h => Or.inr ⟨err, rfl, ?_⟩⟩
            by_contra hdone
            have := (ReadState.returned.inj h).1
            rw [if_neg hdone] at this
            cases this
      · cases hs
  | tick =>
      simp only [act] at hs
      split at hs
      · cases hs
        exact Or.inl ⟨rfl, fun h => by cases h⟩
      · cases hs
  | hand =>
      simp only [act, hand] at hs
      split at hs
      · obtain ⟨c, -, rfl⟩ := Option.map_eq_some_iff.mp hs
        exact Or.inl ⟨rfl, fun h => by cases h⟩
      · cases hs
  | quit =>
      simp only [act, quit] at hs
      split at hs
      · split at hs <;> cases hs
        exact Or.inl ⟨rfl, fun h => by cases h⟩
      · split at hs <;> cases hs
        exact Or.inl ⟨rfl, fun h => by cases h⟩
      · cases hs
  | close =>
      simp only [act, close] at hs
      split at hs
      · cases hs
        exact Or.inl ⟨rfl, Or.inl⟩
      · cases hs
  | receive i =>
      simp only [act, receive] at hs
      split at hs
      · split at hs
        · cases hs
          exact Or.inr ⟨rfl, i, _, rfl, fun _ h => by cases h⟩
        · split at hs <;> cases hs
          exact Or.inr ⟨rfl, i, _, rfl, fun _ h => by cases h⟩
      · cases hs
  | check i =>
      simp only [act, check] at hs
      split at hs
      · split at hs
        · rename_i hcancelled
          cases hs
          exact Or.inr ⟨rfl, i, _, rfl, fun _ _ => ⟨rfl, hcancelled⟩⟩
        · cases hs
          exact Or.inr ⟨rfl, i, _, rfl, fun _ h => by cases h⟩
      · cases hs
  | sent i x =>
      simp only [act, sendReturns] at hs
      split at hs
      · split at hs <;> (cases hs; exact Or.inr ⟨rfl, i, _, rfl, fun _ h => by cases h⟩)
      · cases hs
  | handled i =>
      simp only [act, handled] at hs
      split at hs
      · cases hs
        exact Or.inr ⟨rfl, i, _, rfl, fun _ h => by cases h⟩
      · cases hs
  | finish =>
      simp only [act, finish] at hs
      split at hs
      · split at hs <;> cases hs
        exact Or.inl ⟨rfl, Or.inl⟩
      · cases hs
  | cancel =>
      cases hs
      exact Or.inl ⟨rfl, Or.inl⟩

/-- There are senders, and none has dropped a request when the reader has returned nil. -/
structure Kept (s : EngineRun X) : Prop where
  staffed : s.senders ≠ []
  kept : s.loop = .returned none none → ∀ req, .exited (some req) ∉ s.senders

theorem Kept.act (h : s.Kept) (hok : Heeded a s) (hs : s.act e send a = some s') : s'.Kept := by
  rcases act_cases hs with ⟨hsame, hloop⟩ | ⟨hloop, i, w, hset, hw⟩
  · refine ⟨hsame ▸ h.staffed, fun hr req hx => ?_⟩
    rw [hsame] at hx
    rcases hloop hr with hr | ⟨err, rfl, hdone⟩
    · exact h.kept hr req hx
    · cases hok hdone _ hx
  · refine ⟨?_, fun hr req hx => ?_⟩
    · rw [hset]
      exact fun hnil => h.staffed (by simpa using hnil)
    · rw [hloop] at hr
      rw [hset] at hx
      rcases List.mem_or_eq_of_mem_set hx with hx | hx
      · exact h.kept hr req hx
      · obtain ⟨rfl, hcancelled⟩ := hw req hx.symm
        exact hok hcancelled hr

theorem kept_start (hc : 0 < e.concurrency) : (start (X := X) e).Kept where
  staffed := by
    intro h
    have hlen : e.concurrency.toNatClampNeg = 0 := by simpa [start] using h
    rw [Int64.lt_iff_toInt_lt, Int64.toInt_zero] at hc
    rw [Int64.toNatClampNeg] at hlen
    omega
  kept h := by cases h

/-- When `Run` has returned nil, nobody has anything left. -/
theorem Flow.complete (h : s.Flow e send) (hkept : s.Kept) (hr : s.result = some none) :
    s.Complete e := by
  obtain ⟨err, left, hloop, herr, hall⟩ := h.result none hr
  have hnil : err = none := Option.map_eq_none_iff.mp herr.symm
  subst hnil
  have hleft := h.succeeded left hloop
  subst hleft
  have hnone : ∀ w ∈ s.senders, w = .exited none := by
    intro w hw
    cases w with
    | exited dropped =>
        cases dropped with
        | none => rfl
        | some req => exact absurd hw (hkept.kept hloop req)
    | _ => cases List.all_eq_true.mp hall _ hw
  have hheld : s.senders.flatMap SendState.held = [] :=
    List.flatMap_eq_nil_iff.mpr fun w hw => by rw [hnone w hw]; rfl
  obtain ⟨w, hw⟩ := List.exists_mem_of_ne_nil _ hkept.staffed
  have hbuf := (h.exited (hnone w hw ▸ hw)).2
  have hdue := h.due
  have hreceived := h.received
  have hcalled := h.called
  rw [hloop, Chan.sent_of_buf_nil hbuf, show (ReadState.returned none none).hand = [] from rfl,
    List.append_nil] at hdue
  rw [hheld, List.nil_append, ← hdue] at hreceived
  rw [h.ended hr fun _ => rfl, List.nil_append] at hcalled
  exact ⟨hreceived, hcalled.trans hreceived⟩

/-- **A successful replay is a complete one, in every run in which nobody drops a request while the
reader succeeds.** -/
theorem success_is_complete (hc : 0 < e.concurrency)
    (h : Steps.Reach (act e send) Heeded (start e) s) (hr : s.result = some none) :
    s.Complete e := by
  have hkept := h.holds (kept_start hc) fun _ _ _ hok hact hkept => hkept.act hok hact
  exact (flow_of_reach h).complete hkept hr

/-- An engine with one sender that keeps every request. -/
def plainEngine : Engine := ⟨[], .all [], ⟨.unlimited, 0, 1⟩, 1, 0, 1⟩

/-- A sender whose requests are all answered. -/
def answering (req : CapturedRequest) (_ : Unit) : SendReturn :=
  (some ⟨req.id, 200, [], none⟩, none)

def firstRequest : CapturedRequest := ⟨lit "a", 0, lit "GET", lit "/", [], [], 0, lit "HTTP", []⟩

/-- An engine with two senders that keeps the timing and drops what deletes. -/
def pacedEngine : Engine :=
  ⟨[fun req => .ok (if req.method = lit "DELETE" then none else some req)], .all [],
    ⟨.originalTiming, 0, 1⟩, 2, 0, 1⟩

/-- A sender that reaches its target or does not. -/
def reaching (req : CapturedRequest) (reached : Bool) : SendReturn :=
  if reached then answering req () else (none, some (.new "connection refused"))

/-- A request of that method, a second after the one before it. -/
def timedRequest (i : Int) (method : String) : CapturedRequest :=
  ⟨lit "a", i * 1000000000, lit method, lit "/", [], [], 0, lit "HTTP", []⟩

/-- Two senders at once, a request that is filtered and one that fails; the replay is stopped when
everything was sent. -/
theorem success_is_complete_of_two :
    ∃ s, Steps.Reach (act pacedEngine reaching) Heeded (start pacedEngine) s ∧ s.result = some none
      ∧ s.results = [(timedRequest 3 "PUT", false), (timedRequest 1 "GET", true)] ∧ s.filtered = 1
      ∧ s.cancelled = true ∧ s.Complete pacedEngine := by
  obtain ⟨s, hreach, hr, hrest⟩ :=
    Steps.exists_run (act pacedEngine reaching) Heeded (start pacedEngine)
      [.look, .next (.ok (timedRequest 1 "GET")), .hand, .receive 0, .look,
        .next (.ok (timedRequest 2 "DELETE")), .check 0, .look, .next (.ok (timedRequest 3 "PUT")),
        .tick, .hand, .receive 1, .look, .check 1, .sent 1 false, .handled 1,
        .next (.error errReaderDone), .cancel, .sent 0 true, .close, .receive 1, .handled 0,
        .receive 0, .finish]
      (fun s => s.result = some none
        ∧ s.results = [(timedRequest 3 "PUT", false), (timedRequest 1 "GET", true)] ∧ s.filtered = 1
        ∧ s.cancelled = true) (by decide +kernel)
  exact ⟨s, hreach, hr, hrest.1, hrest.2.1, hrest.2.2, success_is_complete (by decide) hreach hr⟩

/-- **The replay is stopped when its only request waits for a sender, and `Run` returns nil.** -/
theorem success_without_sending :
    ∃ s, Steps.Reach (act plainEngine answering) (fun _ _ => True) (start plainEngine) s
    ∧ s.result = some none ∧ dueRequests plainEngine s.produced = [firstRequest] ∧ s.calls = []
    ∧ ¬ s.Complete plainEngine := by
  obtain ⟨s, hreach, hr, hdue, hcalls⟩ :=
    Steps.exists_run (act plainEngine answering) (fun _ _ => True)
      (start plainEngine)
      [.look, .next (.ok firstRequest), .hand, .look, .next (.error errReaderDone), .cancel,
        .receive 0, .check 0, .close, .finish]
      (fun s => s.result = some none ∧ dueRequests plainEngine s.produced = [firstRequest]
        ∧ s.calls = [])
      (by decide +kernel)
  refine ⟨s, hreach, hr, hdue, hcalls, fun hcomplete => ?_⟩
  have hperm := hcomplete.1
  rw [hdue, hcalls] at hperm
  cases hperm.symm.eq_nil

/-! ## A replay that is stopped -/

/-- **No run sends a request that is not due, or one twice**, whenever it is stopped; and when `Run`
has returned, with an error or not, every call of `Send` has its result and is counted once. -/
theorem sends_at_most_once {ok : EngineAct X → EngineRun X → Prop}
    (h : Steps.Reach (act e send) ok (start e) s) :
    s.calls.Subperm (dueRequests e s.produced)
      ∧ ∀ r, s.result = some r → (s.results.map Prod.fst).Perm s.calls
      ∧ s.sent + s.errors = s.calls.length := by
  have hflow := flow_of_reach h
  refine ⟨?_, fun r hr => ?_⟩
  · have hcalls : s.calls.Subperm s.reqCh.received :=
      (List.sublist_append_right _ _).subperm.trans hflow.received.subperm
    rw [hflow.due]
    exact hcalls.trans
      (s.reqCh.received_prefix.sublist.trans (List.sublist_append_left _ _)).subperm
  · have hcalled := hflow.called
    rw [hflow.ended hr fun _ => rfl, List.nil_append] at hcalled
    have hsplit :=
      List.length_eq_length_filter_add (l := s.results) fun x => (send x.1 x.2).2.isNone
    simp only [Option.not_isNone] at hsplit
    refine ⟨hcalled, ?_⟩
    rw [hflow.sentCount, hflow.errorCount, hflow.ended hr fun _ => rfl, List.nil_append,
      ← hcalled.length_eq, List.length_map]
    exact hsplit.symm

/-- The replay is stopped with one of its two requests sent. -/
theorem sends_at_most_once_stopped :
    ∃ s, Steps.Reach (act plainEngine answering) (fun _ _ => True) (start plainEngine) s
    ∧ s.result = some (some (canceled.wrap "reader")) ∧ s.sent + s.errors = s.calls.length
    ∧ s.calls = [firstRequest] := by
  obtain ⟨s, hreach, hr, hcalls⟩ :=
    Steps.exists_run (act plainEngine answering) (fun _ _ => True) (start plainEngine)
      [.look, .next (.ok firstRequest), .hand, .receive 0, .check 0, .look,
        .next (.ok firstRequest), .cancel, .quit, .sent 0 (), .handled 0, .close, .receive 0,
        .finish]
      (fun s => s.result = some (some (canceled.wrap "reader")) ∧ s.calls = [firstRequest])
      (by decide +kernel)
  exact ⟨s, hreach, hr, ((sends_at_most_once hreach).2 _ hr).2, hcalls⟩

end EngineRun

end Kapture.Replay
