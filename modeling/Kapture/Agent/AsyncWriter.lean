import Kapture.Lib.Chan
import Kapture.Lib.Steps
import Kapture.Storage.Request

/-!
# The asynchronous writer

`AsyncWriter.Write` puts a request into a bounded queue, and one goroutine takes them out and
writes them. Any number of calls are under way at once. A call of `Write` looks at the flag first
and sends to the queue later; `Close` sets the flag, closes the queue, waits for the goroutine and
closes the inner writer; `Flush` looks at the length of the queue and flushes the inner writer
later. Each of these is a step, and others come in between.

What goes through the queue is not lost, repeated or reordered (`Flow`), in every run. Two things
do go wrong. A `Write` that has looked at the flag can find the queue closed, and sending to a
closed channel panics: **`Close` must not close the queue while a `Write` is between its two
steps** (`shutdown_safe`). And a queue of length zero does not mean that everything was written,
since the goroutine may have taken a request and not yet written it: **`Flush` is a barrier only
for what the goroutine does not hold** (`flush_barrier`).
-/

namespace Kapture.Agent

open Go Storage

/-! ## The steps -/

inductive WriteError where
  | closed
  | queueFull
deriving DecidableEq, Repr

inductive WriteState where
  | called
  /-- The flag was not set. -/
  | checked
  | returned (err : Option WriteError)
deriving DecidableEq, Repr

/-- A call of `Write`. -/
structure WriteCall where
  req : CapturedRequest
  state : WriteState
deriving DecidableEq, Repr

/-- The request of a call that returned nil. -/
def WriteCall.accepted (c : WriteCall) : Option CapturedRequest :=
  if c.state = .returned none then some c.req else none

/-- The goroutine that drains the queue. -/
inductive Draining where
  | receiving
  /-- It has taken a request and is in `inner.Write`. -/
  | writing (req : CapturedRequest)
  | exited
deriving DecidableEq, Repr

/-- What the goroutine has taken and not yet written. -/
def Draining.hand : Draining → List CapturedRequest
  | .writing req => [req]
  | _ => []

/-- How far `Close` has come. -/
inductive Closing where
  | idle
  | flagged
  | queueClosed
  | drained
  | innerClosed
deriving DecidableEq, Repr

inductive FlushState where
  | waiting
  /-- It found the queue empty. -/
  | passed
  | returned (ok : Bool)
deriving DecidableEq, Repr

/-- A call of `Flush`, with what was in its way when it was called and what `inner.Flush` found
written. -/
structure FlushCall where
  before : List CapturedRequest
  state : FlushState
  covered : List CapturedRequest
deriving DecidableEq, Repr

structure AsyncWriter where
  queue : Chan CapturedRequest
  closed : Bool
  enqueued : Nat
  dropped : Nat
  writeErrors : Nat
  writes : List WriteCall
  flushes : List FlushCall
  drain : Draining
  closing : Closing
  /-- For which requests `inner.Write` has returned, in order. -/
  handed : List CapturedRequest
  panicked : Bool
deriving DecidableEq

def defaultWriteQueueSize : Nat := 4096

inductive WriterAct where
  | write (req : CapturedRequest)
  /-- A `Write` looks at the flag. -/
  | check (i : Nat)
  /-- It sends to the queue, or finds it full. -/
  | enqueue (i : Nat)
  /-- The goroutine receives. -/
  | receive
  /-- `inner.Write` returns. -/
  | written (ok : Bool)
  /-- The goroutine finds the queue closed and empty. -/
  | exit
  | flush
  /-- A `Flush` looks at the length of the queue. -/
  | poll (i : Nat) (cancelled : Bool)
  | innerFlush (i : Nat) (ok : Bool)
  | storeFlag
  | closeQueue
  | awaitDrain
  | innerClose
deriving DecidableEq, Repr

namespace AsyncWriter

def new (queueSize : Int) : AsyncWriter where
  queue := .make _ (if queueSize ≤ 0 then defaultWriteQueueSize else queueSize.toNat)
  closed := false
  enqueued := 0
  dropped := 0
  writeErrors := 0
  writes := []
  flushes := []
  drain := .receiving
  closing := .idle
  handed := []
  panicked := false

def setWrite (w : AsyncWriter) (i : Nat) (c : WriteCall) : AsyncWriter :=
  { w with writes := w.writes.set i c }

def setFlush (w : AsyncWriter) (i : Nat) (f : FlushCall) : AsyncWriter :=
  { w with flushes := w.flushes.set i f }

def check (w : AsyncWriter) (i : Nat) : Option AsyncWriter :=
  match w.writes[i]? with
  | some ⟨req, .called⟩ =>
      if w.closed then some (w.setWrite i ⟨req, .returned (some .closed)⟩)
      else some (w.setWrite i ⟨req, .checked⟩)
  | _ => none

/-- Sending to a closed channel panics, also in a `select` with a default. -/
def enqueue (w : AsyncWriter) (i : Nat) : Option AsyncWriter :=
  match w.writes[i]? with
  | some ⟨req, .checked⟩ =>
      if w.queue.closed then some { w with panicked := true }
      else
        match w.queue.send req with
        | some q =>
            some { w.setWrite i ⟨req, .returned none⟩ with queue := q, enqueued := w.enqueued + 1 }
        | none =>
            some { w.setWrite i ⟨req, .returned (some .queueFull)⟩ with dropped := w.dropped + 1 }
  | _ => none

def receive (w : AsyncWriter) : Option AsyncWriter :=
  if w.drain = .receiving then w.queue.recv.map fun x => { w with
    queue := x.2, drain := .writing x.1 } else none

def written (w : AsyncWriter) (ok : Bool) : Option AsyncWriter :=
  match w.drain with
  | .writing req => some { w with
      drain := .receiving
      handed := w.handed ++ [req]
      writeErrors := if ok then w.writeErrors else w.writeErrors + 1 }
  | _ => none

def exit (w : AsyncWriter) : Option AsyncWriter :=
  if w.drain = .receiving ∧ w.queue.closed = true ∧ w.queue.buf = [] then some { w with
    drain := .exited } else none

/-- While the queue is not empty, `Flush` goes round its loop until the context is done. -/
def poll (w : AsyncWriter) (i : Nat) (cancelled : Bool) : Option AsyncWriter :=
  match w.flushes[i]? with
  | some ⟨before, .waiting, covered⟩ =>
      if w.queue.buf = [] then some (w.setFlush i ⟨before, .passed, covered⟩)
      else if cancelled then some (w.setFlush i ⟨before, .returned false, covered⟩)
      else some w
  | _ => none

def innerFlush (w : AsyncWriter) (i : Nat) (ok : Bool) : Option AsyncWriter :=
  match w.flushes[i]? with
  | some ⟨before, .passed, _⟩ => some (w.setFlush i ⟨before, .returned ok, w.handed⟩)
  | _ => none

def storeFlag (w : AsyncWriter) : Option AsyncWriter :=
  if w.closing = .idle then some { w with closed := true, closing := .flagged } else none

def closeQueue (w : AsyncWriter) : Option AsyncWriter :=
  if w.closing = .flagged then some { w with queue := w.queue.close, closing := .queueClosed }
  else none

def awaitDrain (w : AsyncWriter) : Option AsyncWriter :=
  if w.closing = .queueClosed ∧ w.drain = .exited then some { w with closing := .drained } else none

def innerClose (w : AsyncWriter) : Option AsyncWriter :=
  if w.closing = .drained then some { w with closing := .innerClosed } else none

/-- One step of whoever takes one. Nobody does after a panic. -/
def act (a : WriterAct) (w : AsyncWriter) : Option AsyncWriter :=
  if w.panicked then none
  else
    match a with
    | .write req => some { w with writes := w.writes ++ [⟨req, .called⟩] }
    | .check i => w.check i
    | .enqueue i => w.enqueue i
    | .receive => w.receive
    | .written ok => w.written ok
    | .exit => w.exit
    | .flush => some { w with flushes := w.flushes ++ [⟨w.queue.sent, .waiting, []⟩] }
    | .poll i cancelled => w.poll i cancelled
    | .innerFlush i ok => w.innerFlush i ok
    | .storeFlag => w.storeFlag
    | .closeQueue => w.closeQueue
    | .awaitDrain => w.awaitDrain
    | .innerClose => w.innerClose

/-- The requests whose `Write` returned nil. -/
def accepted (w : AsyncWriter) : List CapturedRequest := w.writes.filterMap WriteCall.accepted

variable {w w' : AsyncWriter} {i : Nat} {a : WriterAct}

/-! ## What a step can do -/

/-- Every step, with what it finds. -/
inductive Moves (w : AsyncWriter) : WriterAct → AsyncWriter → Prop where
  | write (req : CapturedRequest) :
      Moves w (.write req) { w with writes := w.writes ++ [⟨req, .called⟩] }
  | refused {i req} (hi : w.writes[i]? = some ⟨req, .called⟩) :
      Moves w (.check i) (w.setWrite i ⟨req, .returned (some .closed)⟩)
  | checked {i req} (hi : w.writes[i]? = some ⟨req, .called⟩) (hopen : ¬ w.closed = true) :
      Moves w (.check i) (w.setWrite i ⟨req, .checked⟩)
  | panics {i req} (hi : w.writes[i]? = some ⟨req, .checked⟩) (hclosed : w.queue.closed = true) :
      Moves w (.enqueue i) { w with panicked := true }
  | enqueued {i req q} (hi : w.writes[i]? = some ⟨req, .checked⟩)
      (hopen : ¬ w.queue.closed = true) (hq : w.queue.send req = some q) :
      Moves w (.enqueue i)
        { w.setWrite i ⟨req, .returned none⟩ with queue := q, enqueued := w.enqueued + 1 }
  | full {i req} (hi : w.writes[i]? = some ⟨req, .checked⟩) (hopen : ¬ w.queue.closed = true) :
      Moves w (.enqueue i)
        { w.setWrite i ⟨req, .returned (some .queueFull)⟩ with dropped := w.dropped + 1 }
  | receive {req q} (hd : w.drain = .receiving) (hq : w.queue.recv = some (req, q)) :
      Moves w .receive { w with queue := q, drain := .writing req }
  | written {ok req n} (hd : w.drain = .writing req) :
      Moves w (.written ok)
        { w with drain := .receiving, handed := w.handed ++ [req], writeErrors := n }
  | exit (hd : w.drain = .receiving) (hclosed : w.queue.closed = true)
      (hempty : w.queue.buf = []) : Moves w .exit { w with drain := .exited }
  | flush : Moves w .flush { w with flushes := w.flushes ++ [⟨w.queue.sent, .waiting, []⟩] }
  | passed {i c before covered} (hi : w.flushes[i]? = some ⟨before, .waiting, covered⟩)
      (hempty : w.queue.buf = []) : Moves w (.poll i c) (w.setFlush i ⟨before, .passed, covered⟩)
  | gaveUp {i c before covered} :
      Moves w (.poll i c) (w.setFlush i ⟨before, .returned false, covered⟩)
  | waits {i c} : Moves w (.poll i c) w
  | innerFlush {i ok before covered} (hi : w.flushes[i]? = some ⟨before, .passed, covered⟩) :
      Moves w (.innerFlush i ok) (w.setFlush i ⟨before, .returned ok, w.handed⟩)
  | storeFlag : Moves w .storeFlag { w with closed := true, closing := .flagged }
  | closeQueue (hc : w.closing = .flagged) :
      Moves w .closeQueue { w with queue := w.queue.close, closing := .queueClosed }
  | awaitDrain (hc : w.closing = .queueClosed) (hd : w.drain = .exited) :
      Moves w .awaitDrain { w with closing := .drained }
  | innerClose (hc : w.closing = .drained) :
      Moves w .innerClose { w with closing := .innerClosed }

theorem moves_check (hw : w.check i = some w') : w.Moves (.check i) w' := by
  unfold AsyncWriter.check at hw
  split at hw
  · rename_i req hi
    split at hw
    · cases hw
      exact .refused hi
    · rename_i hopen
      cases hw
      exact .checked hi hopen
  · cases hw

theorem moves_enqueue (hw : w.enqueue i = some w') : w.Moves (.enqueue i) w' := by
  unfold AsyncWriter.enqueue at hw
  split at hw
  · rename_i req hi
    split at hw
    · rename_i hclosed
      cases hw
      exact .panics hi hclosed
    · rename_i hopen
      split at hw
      · rename_i q hq
        cases hw
        exact .enqueued hi hopen hq
      · cases hw
        exact .full hi hopen
  · cases hw

theorem moves_poll {c : Bool} (hw : w.poll i c = some w') : w.Moves (.poll i c) w' := by
  unfold AsyncWriter.poll at hw
  split at hw
  · rename_i before covered hi
    split at hw
    · rename_i hempty
      cases hw
      exact .passed hi hempty
    · split at hw
      · cases hw
        exact .gaveUp
      · cases hw
        exact .waits
  · cases hw

/-- **There are no other steps.** -/
theorem moves_act (hw : w.act a = some w') : w.Moves a w' := by
  unfold AsyncWriter.act at hw
  split at hw
  · cases hw
  · cases a with
    | write req =>
        cases hw
        exact .write req
    | check i => exact moves_check hw
    | enqueue i => exact moves_enqueue hw
    | receive =>
        obtain ⟨hd, hw⟩ := Option.ite_none_right_eq_some.mp hw
        obtain ⟨⟨req, q⟩, hq, rfl⟩ := Option.map_eq_some_iff.mp hw
        exact .receive hd hq
    | written ok =>
        dsimp only [AsyncWriter.written] at hw
        split at hw
        · rename_i req hd
          cases hw
          exact .written hd
        · cases hw
    | exit =>
        obtain ⟨⟨hd, hclosed, hempty⟩, rfl⟩ := Option.ite_some_none_eq_some.mp hw
        exact .exit hd hclosed hempty
    | flush =>
        cases hw
        exact .flush
    | poll i c => exact moves_poll hw
    | innerFlush i ok =>
        dsimp only [AsyncWriter.innerFlush] at hw
        split at hw
        · rename_i before covered hi
          cases hw
          exact .innerFlush hi
        · cases hw
    | storeFlag =>
        obtain ⟨-, rfl⟩ := Option.ite_some_none_eq_some.mp hw
        exact .storeFlag
    | closeQueue =>
        obtain ⟨hc, rfl⟩ := Option.ite_some_none_eq_some.mp hw
        exact .closeQueue hc
    | awaitDrain =>
        obtain ⟨⟨hc, hd⟩, rfl⟩ := Option.ite_some_none_eq_some.mp hw
        exact .awaitDrain hc hd
    | innerClose =>
        obtain ⟨hc, rfl⟩ := Option.ite_some_none_eq_some.mp hw
        exact .innerClose hc

/-! ## What a step does to the queue -/

/-- What is between a `Write` that returned nil and the inner writer, in every run. -/
structure Flow (w : AsyncWriter) : Prop where
  /-- The inner writer was given what was received, but for what the goroutine holds. -/
  handed : w.queue.received = w.handed ++ w.drain.hand
  accepted : w.accepted.Perm w.queue.sent
  flagged : w.closing ≠ .idle → w.closed = true
  queueClosed : w.queue.closed = true → w.closing ≠ .idle
  exited : w.drain = .exited → w.queue.closed = true ∧ w.queue.buf = []
  drained : w.closing = .drained ∨ w.closing = .innerClosed → w.drain = .exited
  waiting : ∀ f ∈ w.flushes, f.state = .waiting → f.before <+: w.queue.sent
  passed : ∀ f ∈ w.flushes, f.state = .passed → f.before <+: w.queue.received

theorem flow_new (queueSize : Int) : (new queueSize).Flow where
  handed := rfl
  accepted := .refl _
  flagged h := absurd rfl h
  queueClosed h := by cases h
  exited h := by cases h
  drained h := by rcases h with h | h <;> cases h
  waiting f hf := absurd hf List.not_mem_nil
  passed f hf := absurd hf List.not_mem_nil

/-- A call that changes its state without being accepted. -/
theorem accepted_set {l : List WriteCall} {old c : WriteCall} (h : l[i]? = some old)
    (hold : old.accepted = none) (hc : c.accepted = none) :
    (l.set i c).filterMap WriteCall.accepted = l.filterMap WriteCall.accepted := by
  induction l generalizing i with
  | nil => rfl
  | cons x l ih =>
      cases i with
      | zero =>
          cases h
          rw [List.set_cons_zero, List.filterMap_cons_none hc, List.filterMap_cons_none hold]
      | succ i =>
          rw [List.set_cons_succ, List.filterMap_cons, List.filterMap_cons, ih h]

/-- A call that is accepted. -/
theorem accepted_set_some {l : List WriteCall} {old c : WriteCall} {req : CapturedRequest}
    (h : l[i]? = some old) (hold : old.accepted = none) (hc : c.accepted = some req) :
    ((l.set i c).filterMap WriteCall.accepted).Perm (l.filterMap WriteCall.accepted ++ [req]) := by
  induction l generalizing i with
  | nil => cases h
  | cons x l ih =>
      cases i with
      | zero =>
          cases h
          rw [List.set_cons_zero, List.filterMap_cons_some hc, List.filterMap_cons_none hold]
          exact (List.perm_append_singleton _ _).symm
      | succ i =>
          rw [List.set_cons_succ, List.filterMap_cons, List.filterMap_cons]
          cases x.accepted with
          | none => exact ih h
          | some r => exact (ih h).cons r

/-- A `Write` changes its state without being accepted. -/
theorem Flow.setWrite (h : w.Flow) {old c : WriteCall} (hi : w.writes[i]? = some old)
    (hold : old.accepted = none) (hc : c.accepted = none) : (w.setWrite i c).Flow := by
  refine { h with accepted := ?_ }
  change ((w.writes.set i c).filterMap WriteCall.accepted).Perm w.queue.sent
  rw [accepted_set hi hold hc]
  exact h.accepted

theorem Flow.enqueued {req : CapturedRequest} {q : Chan CapturedRequest} (h : w.Flow)
    (hi : w.writes[i]? = some ⟨req, .checked⟩) (hopen : ¬ w.queue.closed = true)
    (hq : w.queue.send req = some q) :
    ({ w.setWrite i ⟨req, .returned none⟩ with
      queue := q, enqueued := w.enqueued + 1 } : AsyncWriter).Flow := by
  obtain ⟨hsent, hrec, -, hclosed, -⟩ := Chan.send_some hq
  refine { h with
    handed := ?_, accepted := ?_, queueClosed := ?_, exited := ?_, waiting := ?_, passed := ?_ }
  · exact hrec.trans h.handed
  · change (w.writes.set i _ |>.filterMap _).Perm q.sent
    rw [hsent]
    exact (accepted_set_some hi rfl rfl).trans (h.accepted.append_right _)
  · exact fun hq => h.queueClosed (hclosed ▸ hq)
  · exact fun hx => absurd (h.exited hx).1 hopen
  · intro f hf hst
    rw [hsent]
    exact (h.waiting f hf hst).trans (List.prefix_append _ _)
  · intro f hf hst
    rw [hrec]
    exact h.passed f hf hst

theorem Flow.receive {req : CapturedRequest} {q : Chan CapturedRequest} (h : w.Flow)
    (hd : w.drain = .receiving) (hq : w.queue.recv = some (req, q)) :
    ({ w with queue := q, drain := .writing req } : AsyncWriter).Flow := by
  obtain ⟨hsent, hrec, -, hclosed, -⟩ := Chan.recv_some hq
  have hhand : w.queue.received = w.handed := by
    rw [h.handed, hd]
    exact List.append_nil _
  refine { h with
    handed := ?_, accepted := ?_, queueClosed := ?_, exited := nofun, drained := ?_,
    waiting := ?_, passed := ?_ }
  · change q.received = w.handed ++ [req]
    rw [hrec, hhand]
  · exact hsent.symm ▸ h.accepted
  · exact fun hq => h.queueClosed (hclosed ▸ hq)
  · intro hc
    rw [h.drained hc] at hd
    cases hd
  · intro f hf hst
    rw [hsent]
    exact h.waiting f hf hst
  · intro f hf hst
    rw [hrec]
    exact (h.passed f hf hst).trans (List.prefix_append _ _)

/-- A `Flush` changes its state. -/
theorem Flow.setFlush (h : w.Flow) {f : FlushCall}
    (hwait : f.state = .waiting → f.before <+: w.queue.sent)
    (hpass : f.state = .passed → f.before <+: w.queue.received) : (w.setFlush i f).Flow := by
  refine { h with waiting := ?_, passed := ?_ }
  · intro g hg hst
    rcases List.mem_or_eq_of_mem_set hg with hg | rfl
    · exact h.waiting g hg hst
    · exact hwait hst
  · intro g hg hst
    rcases List.mem_or_eq_of_mem_set hg with hg | rfl
    · exact h.passed g hg hst
    · exact hpass hst

/-- **Every step keeps the flow.** -/
theorem Flow.act (h : w.Flow) (hw : w.act a = some w') : w'.Flow := by
  cases moves_act hw with
  | write req =>
      refine { h with accepted := ?_ }
      change ((w.writes ++ [_]).filterMap WriteCall.accepted).Perm w.queue.sent
      rw [List.filterMap_append]
      exact (List.append_nil _).symm ▸ h.accepted
  | refused hi => exact h.setWrite hi rfl rfl
  | checked hi _ => exact h.setWrite hi rfl rfl
  | panics _ _ => exact { h with }
  | enqueued hi hopen hq => exact h.enqueued hi hopen hq
  | @full i req hi _ =>
      have hset := h.setWrite (c := ⟨req, .returned (some .queueFull)⟩) hi rfl rfl
      exact { hset with }
  | receive hd hq => exact h.receive hd hq
  | written hd =>
      refine { h with handed := ?_, exited := nofun, drained := ?_ }
      · change w.queue.received = w.handed ++ [_] ++ []
        rw [h.handed, hd, List.append_nil]
        rfl
      · intro hc
        rw [h.drained hc] at hd
        cases hd
  | exit hd hclosed hempty =>
      refine { h with handed := ?_, exited := fun _ => ⟨hclosed, hempty⟩, drained := fun _ => rfl }
      rw [h.handed, hd]
      rfl
  | flush =>
      refine { h with waiting := ?_, passed := ?_ }
      · intro f hf hst
        rcases List.mem_append.mp hf with hf | hf
        · exact h.waiting f hf hst
        · obtain rfl := List.mem_singleton.mp hf
          exact List.prefix_rfl
      · intro f hf hst
        rcases List.mem_append.mp hf with hf | hf
        · exact h.passed f hf hst
        · rw [List.mem_singleton.mp hf] at hst
          cases hst
  | passed hi hempty =>
      -- everything that was sent has been received
      have hwait := h.waiting _ (List.mem_of_getElem? hi) rfl
      rw [Chan.sent_of_buf_nil hempty] at hwait
      exact h.setFlush nofun fun _ => hwait
  | gaveUp => exact h.setFlush nofun nofun
  | waits => exact h
  | innerFlush _ => exact h.setFlush nofun nofun
  | storeFlag =>
      exact { h with flagged := fun _ => rfl, queueClosed := fun _ => nofun, drained := nofun }
  | closeQueue hc =>
      refine { h with flagged := ?_, queueClosed := fun _ => nofun, exited := ?_, drained := nofun }
      · exact fun _ => h.flagged (by rw [hc]; nofun)
      · exact fun hx => ⟨rfl, (h.exited hx).2⟩
  | awaitDrain hc hd =>
      refine { h with flagged := ?_, queueClosed := fun _ => nofun, drained := fun _ => hd }
      exact fun _ => h.flagged (by rw [hc]; nofun)
  | innerClose hc =>
      refine { h with flagged := ?_, queueClosed := fun _ => nofun, drained := fun _ => ?_ }
      · exact fun _ => h.flagged (by rw [hc]; nofun)
      · exact h.drained (Or.inl hc)

/-! ## Shutdown -/

/-- The queue is closed only when no `Write` is between its look at the flag and its send. -/
def Quiesced (a : WriterAct) (w : AsyncWriter) : Prop :=
  a = .closeQueue → ∀ c ∈ w.writes, c.state ≠ .checked

instance (a : WriterAct) (w : AsyncWriter) : Decidable (Quiesced a w) :=
  inferInstanceAs (Decidable (_ → _))

/-- **What a shutdown must keep**: nobody panics, the requests whose `Write` returned nil go to the
inner writer in the order of the queue and no request does twice, and all of them have when the
inner writer is closed. -/
structure ShutdownSafe (w : AsyncWriter) : Prop where
  calm : w.panicked = false
  accepted : w.accepted.Perm w.queue.sent
  order : w.handed <+: w.queue.sent
  all : w.closing = .innerClosed → w.handed = w.queue.sent

/-- No `Write` can find the queue closed. -/
structure Calm (w : AsyncWriter) : Prop where
  flow : w.Flow
  calm : w.panicked = false
  quiet : w.queue.closed = true → ∀ c ∈ w.writes, c.state ≠ .checked

theorem Calm.act (h : w.Calm) (hok : Quiesced a w) (hw : w.act a = some w') : w'.Calm := by
  have hflow := h.flow.act hw
  cases moves_act hw with
  | write req =>
      refine ⟨hflow, h.calm, fun hq c hc => ?_⟩
      rcases List.mem_append.mp hc with hc | hc
      · exact h.quiet hq c hc
      · rw [List.mem_singleton.mp hc]
        nofun
  | refused _ =>
      refine ⟨hflow, h.calm, fun hq c hc => ?_⟩
      rcases List.mem_or_eq_of_mem_set hc with hc | rfl
      · exact h.quiet hq c hc
      · nofun
  | checked _ hopen =>
      -- the flag is set before the queue is closed
      exact ⟨hflow, h.calm, fun hq => absurd (h.flow.flagged (h.flow.queueClosed hq)) hopen⟩
  | panics hi hclosed => exact absurd rfl (h.quiet hclosed _ (List.mem_of_getElem? hi))
  | enqueued _ hopen hq =>
      exact ⟨hflow, h.calm, fun hc => absurd ((Chan.send_some hq).2.2.2.1 ▸ hc) hopen⟩
  | full _ hopen => exact ⟨hflow, h.calm, fun hc => absurd hc hopen⟩
  | receive _ hq => exact ⟨hflow, h.calm, fun hc => h.quiet ((Chan.recv_some hq).2.2.2.1 ▸ hc)⟩
  | closeQueue _ => exact ⟨hflow, h.calm, fun _ => hok rfl⟩
  | _ => exact ⟨hflow, h.calm, h.quiet⟩

theorem Flow.order (h : w.Flow) : w.handed <+: w.queue.sent := by
  have hrec : w.handed <+: w.queue.received := by
    rw [h.handed]
    exact List.prefix_append _ _
  exact hrec.trans w.queue.received_prefix

/-- **Shutdown is safe in every run in which the queue is closed only when no `Write` is between
its two steps**: with any number of calls, any size of the queue and any outcomes. -/
theorem shutdown_safe {queueSize : Int} (h : Steps.Reach act Quiesced (new queueSize) w) :
    w.ShutdownSafe := by
  have hcalm : w.Calm := h.holds ⟨flow_new queueSize, rfl, nofun⟩
    fun a s s' hok hact hs => hs.act hok hact
  refine ⟨hcalm.calm, hcalm.flow.accepted, hcalm.flow.order, fun hclosed => ?_⟩
  have hexited := hcalm.flow.drained (Or.inr hclosed)
  rw [Chan.sent_of_buf_nil (hcalm.flow.exited hexited).2, hcalm.flow.handed, hexited]
  exact (List.append_nil _).symm

def getOf (id : String) : CapturedRequest :=
  ⟨lit id, 0, lit "GET", lit "/", [], [], 0, lit "HTTP", []⟩

/-- Four calls of `Write` at once: two are accepted, the other way round; the third finds the queue
full and the fourth the flag set, while the goroutine still writes. -/
theorem shutdown_safe_after_writes : ∃ w, Steps.Reach act Quiesced (new 1) w
    ∧ (w.closing = .innerClosed ∧ w.handed = [getOf "b", getOf "a"] ∧ w.dropped = 1
      ∧ w.writeErrors = 1
      ∧ (⟨getOf "d", .returned (some .closed)⟩ : WriteCall) ∈ w.writes) ∧ w.ShutdownSafe := by
  obtain ⟨w, hreach, hw⟩ := Steps.exists_run act Quiesced (new 1)
    [.write (getOf "a"), .write (getOf "b"), .write (getOf "c"), .write (getOf "d"), .check 0,
      .check 1, .enqueue 1, .receive, .enqueue 0, .check 2, .enqueue 2, .storeFlag, .check 3,
      .closeQueue,
      .written false, .receive, .written true, .exit, .awaitDrain, .innerClose]
    (fun w => w.closing = .innerClosed ∧ w.handed = [getOf "b", getOf "a"] ∧ w.dropped = 1
      ∧ w.writeErrors = 1 ∧ (⟨getOf "d", .returned (some .closed)⟩ : WriteCall) ∈ w.writes)
    (by decide +kernel)
  exact ⟨w, hreach, hw, shutdown_safe hreach⟩

/-- **A `Write` that has seen the flag unset panics on the closed queue.** -/
theorem write_panics : ∃ w, Steps.Reach act (fun _ _ => True) (new 1) w ∧ w.panicked = true :=
  Steps.exists_run act (fun _ _ => True) (new 1) [.write (getOf "a"), .check 0, .storeFlag,
    .closeQueue, .enqueue 0]
    (fun w => w.panicked = true) (by decide +kernel)

/-! ## Flush -/

/-- `inner.Flush` is not called while the goroutine holds a request that was in the way when the
`Flush` was called. -/
def HandIsLater : WriterAct → AsyncWriter → Prop
  | .innerFlush i _, w => ∀ f, w.flushes[i]? = some f →
      w.drain.hand = [] ∨ f.before.length < w.queue.received.length
  | _, _ => True

/-- **A `Flush` that returned nil covers what was in its way**: what had been accepted when it was
called was written when the inner writer was flushed. -/
def Barrier (w : AsyncWriter) : Prop :=
  ∀ f ∈ w.flushes, f.state = .returned true → f.before <+: f.covered ∧ f.covered <+: w.handed

/-- What a `Flush` finds written when its turn comes. -/
theorem before_prefix_handed (h : w.Flow) {f : FlushCall} (hf : f ∈ w.flushes)
    (hst : f.state = .passed)
    (hlater : w.drain.hand = [] ∨ f.before.length < w.queue.received.length) :
    f.before <+: w.handed := by
  have hpass := h.passed f hf hst
  have hlen : f.before.length ≤ w.handed.length := by
    have hhand := congrArg List.length h.handed
    rw [List.length_append] at hhand
    have hone : w.drain.hand.length ≤ 1 := by
      cases w.drain with
      | writing req => exact le_refl _
      | receiving => exact Nat.zero_le _
      | exited => exact Nat.zero_le _
    rcases hlater with hnil | hlt
    · have hle := hpass.length_le
      rw [hnil, List.length_nil] at hhand
      omega
    · omega
  rw [h.handed] at hpass
  exact List.prefix_of_prefix_length_le hpass (List.prefix_append _ _) hlen

/-- A `Flush` that has not returned nil changes its state. -/
theorem Barrier.setFlush (h : w.Barrier) {g : FlushCall}
    (hg : g.state = .returned true → g.before <+: g.covered ∧ g.covered <+: w.handed) :
    (w.setFlush i g).Barrier := by
  intro f hf hst
  rcases List.mem_or_eq_of_mem_set hf with hf | rfl
  · exact h f hf hst
  · exact hg hst

theorem Barrier.act (h : w.Barrier) (hflow : w.Flow) (hok : HandIsLater a w)
    (hw : w.act a = some w') : w'.Barrier := by
  cases moves_act hw with
  | written _ =>
      exact fun f hf hst => ⟨(h f hf hst).1, (h f hf hst).2.trans (List.prefix_append _ _)⟩
  | flush =>
      intro f hf hst
      rcases List.mem_append.mp hf with hf | hf
      · exact h f hf hst
      · rw [List.mem_singleton.mp hf] at hst
        cases hst
  | passed _ _ => exact h.setFlush nofun
  | gaveUp => exact h.setFlush nofun
  | innerFlush hi =>
      have hbefore := before_prefix_handed hflow (List.mem_of_getElem? hi) rfl (hok _ hi)
      exact h.setFlush fun _ => ⟨hbefore, List.prefix_rfl⟩
  | _ => exact h

/-- **`Flush` is a barrier in every run in which the inner writer is not flushed while the
goroutine holds a request that was in the way.** -/
theorem flush_barrier {queueSize : Int} (h : Steps.Reach act HandIsLater (new queueSize) w) :
    w.Barrier := by
  suffices hboth : w.Flow ∧ w.Barrier from hboth.2
  have hstart : (new queueSize).Flow ∧ (new queueSize).Barrier :=
    ⟨flow_new queueSize, fun f hf => absurd hf List.not_mem_nil⟩
  exact h.holds (I := fun w => w.Flow ∧ w.Barrier) hstart fun a s s' hok hact hs =>
    ⟨hs.1.act hact, hs.2.act hs.1 hok hact⟩

instance decidableHandIsLater : (a : WriterAct) → (w : AsyncWriter) → Decidable (HandIsLater a w)
  | .innerFlush i _, w =>
      decidable_of_iff (∀ f ∈ (w.flushes[i]?).toList, w.drain.hand = []
        ∨ f.before.length < w.queue.received.length)
        (by simp only [Option.mem_toList, HandIsLater])
  | .write _, _ | .check _, _ | .enqueue _, _ | .receive, _ | .written _, _ | .exit, _ | .flush, _
  | .poll _ _, _
  | .storeFlag, _ | .closeQueue, _ | .awaitDrain, _ | .innerClose, _ => .isTrue trivial

/-- The goroutine has written what it took. -/
theorem flush_barrier_after_write : ∃ w, Steps.Reach act HandIsLater (new 1) w
    ∧ w.flushes = [⟨[getOf "a"], .returned true, [getOf "a"]⟩] ∧ w.Barrier := by
  obtain ⟨w, hreach, hw⟩ := Steps.exists_run act HandIsLater (new 1)
    [.write (getOf "a"), .check 0, .enqueue 0, .flush, .receive, .poll 0 false, .written true,
      .innerFlush 0 true]
    (fun w => w.flushes = [⟨[getOf "a"], .returned true, [getOf "a"]⟩]) (by decide +kernel)
  exact ⟨w, hreach, hw, flush_barrier hreach⟩

/-- **The queue is empty and the request is not written**: `Flush` returns nil without it. -/
theorem flush_misses_held_request : ∃ w, Steps.Reach act (fun _ _ => True) (new 1) w
    ∧ w.flushes = [⟨[getOf "a"], .returned true, []⟩] ∧ ¬ w.Barrier := by
  obtain ⟨w, hreach, hflushes⟩ := Steps.exists_run act (fun _ _ => True) (new 1)
    [.write (getOf "a"), .check 0, .enqueue 0, .flush, .receive, .poll 0 false, .innerFlush 0 true]
    (fun w => w.flushes = [⟨[getOf "a"], .returned true, []⟩]) (by decide +kernel)
  refine ⟨w, hreach, hflushes, fun h => ?_⟩
  have hmem : (⟨[getOf "a"], .returned true, []⟩ : FlushCall) ∈ w.flushes := by
    rw [hflushes]
    exact List.mem_singleton_self _
  have hle := (h _ hmem rfl).1.length_le
  exact absurd hle (by decide)

end AsyncWriter

end Kapture.Agent
