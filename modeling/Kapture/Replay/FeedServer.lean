import Kapture.Lib.Chan
import Kapture.Lib.Slots
import Kapture.Lib.Steps
import Kapture.Replay.Reader

/-!
# The feed server

A `FeedServer` reads a capture and hands it out over HTTP. One goroutine reads and sends to a
bounded channel; any number of handlers of `/next` and `/batch` receive from it, at once. When the
goroutine returns, for whatever reason, it closes the channel, and a handler that finds the channel
closed and empty answers 410, or 500 if the reader returned an error.

The channel neither loses nor repeats anything, so in every run what was read is in one of four
places: handed out, held by a handler, buffered, or in the hands of the read loop
(`Flow.conserved`). The meaning of 410 is another matter. The read loop also returns when its
context is cancelled or the server is stopped, and then 410 says "replay complete" of a capture
that is not. It is also answered while another handler has not yet put what it holds into its
response. **If the read loop is not cut short, and 410 is answered only when no handler holds
anything, then 410 means that the capture was handed out whole** (`handed_out_once`).

Every request carries its place in the capture, so that two equal requests are told apart.
-/

namespace Kapture.Replay

open Go Storage

/-- A request and its place in the capture. -/
abbrev Occurrence := CapturedRequest × Nat

/-- What a client asks for. -/
inductive Endpoint where
  | next
  /-- `/batch?n=…` -/
  | batch (n : Str)
deriving DecidableEq, Repr

/-- `handleBatch` reads the number of requests that are asked for. -/
def batchLimit (q : Str) : Nat :=
  let n := if q = [] then 100 else (parseInt q).getD 100
  if n ≤ 0 then 1 else if 1000 < n then 1000 else n.toNat

/-- How many requests a response holds at most. -/
def Endpoint.limit : Endpoint → Nat
  | .next => 1
  | .batch n => batchLimit n

inductive FeedResponse where
  | ok (reqs : List Occurrence)
  /-- 410, "replay complete". -/
  | gone
  /-- 500, "reader error". -/
  | readerError (err : Error)
  /-- 408, "client disconnected". -/
  | disconnected
deriving DecidableEq, Repr

inductive Handling where
  /-- It receives, and has these so far. -/
  | receiving (reqs : List Occurrence)
  | received (reqs : List Occurrence)
  /-- It has added them to `served`. -/
  | counted (reqs : List Occurrence)
  | answered (r : FeedResponse)
deriving DecidableEq, Repr

/-- A request to the server. -/
structure FeedHandler where
  endpoint : Endpoint
  state : Handling
deriving DecidableEq, Repr

/-- What is in its response. -/
def FeedHandler.out (h : FeedHandler) : List Occurrence :=
  match h.state with
  | .answered (.ok reqs) => reqs
  | _ => []

/-- What it has received and not yet put into its response. -/
def FeedHandler.held (h : FeedHandler) : List Occurrence :=
  match h.state with
  | .receiving reqs => reqs
  | .received reqs => reqs
  | .counted reqs => reqs
  | .answered _ => []

/-- What it has added to `served`. -/
def FeedHandler.counts (h : FeedHandler) : Nat :=
  match h.state with
  | .counted reqs => reqs.length
  | .answered (.ok reqs) => reqs.length
  | _ => 0

/-- Where the read loop is. -/
inductive Reading where
  /-- At the top of its loop. -/
  | checking
  /-- In `reader.Next`. -/
  | reading
  /-- It has a request, waits for its time and sends it. -/
  | sending (x : Occurrence)
  /-- It has returned, perhaps with a request that it did not send. -/
  | returned (x : Option Occurrence)
deriving DecidableEq, Repr

/-- What the read loop has in its hands. -/
def Reading.hand : Reading → List Occurrence
  | .sending x => [x]
  | .returned x => x.toList
  | _ => []

structure FeedServer where
  reqCh : Chan Occurrence
  readErr : Option Error
  served : Nat
  /-- The context is done. -/
  canceled : Bool
  /-- `done` is closed. -/
  stopped : Bool
  loop : Reading
  handlers : List FeedHandler
  /-- What the reader has returned, and what it has not. -/
  read : List Occurrence
  unread : List Occurrence
  /-- The error with which the reader ended. -/
  ended : Option Error
deriving DecidableEq

inductive FeedAct where
  /-- The read loop looks whether it has to stop. -/
  | check
  /-- `Next` returns a request. -/
  | next
  /-- `Next` returns the error after the last request. -/
  | finish
  /-- `Next` returns an error because the context is done or the reader was closed. -/
  | interrupt (err : Error)
  | send
  /-- The read loop stops while it waits or sends. -/
  | leave
  /-- A request to the server. -/
  | call (e : Endpoint)
  | receive (i : Nat)
  /-- A handler finds the channel empty: closed, or with something in its batch already. -/
  | endBatch (i : Nat)
  /-- The client of `/next` disconnects. -/
  | disconnect (i : Nat)
  | count (i : Nat)
  | respond (i : Nat)
  | cancel
  | stop
deriving DecidableEq, Repr

namespace FeedServer

/-- `NewFeedServer` and `Start`. -/
def start (bufferSize : Int) (reqs : List CapturedRequest) : FeedServer where
  reqCh := .make _ (if bufferSize ≤ 0 then 1000 else bufferSize.toNat)
  readErr := none
  served := 0
  canceled := false
  stopped := false
  loop := .checking
  handlers := []
  read := []
  unread := reqs.zipIdx
  ended := none

/-- The read loop returns, and closes the channel. -/
def exitLoop (s : FeedServer) (x : Option Occurrence) : FeedServer :=
  { s with loop := .returned x, reqCh := s.reqCh.close }

/-- `Next` returned an error. -/
def fail (s : FeedServer) (err : Error) : FeedServer :=
  { s.exitLoop none with
    readErr := if err = errReaderDone then s.readErr else some err
    ended := some err }

def check (s : FeedServer) : Option FeedServer :=
  if s.loop = .checking then
    if s.canceled ∨ s.stopped then some (s.exitLoop none) else some { s with loop := .reading }
  else none

def next (s : FeedServer) : Option FeedServer :=
  match s.loop, s.unread with
  | .reading, x :: rest => some { s with loop := .sending x, read := s.read ++ [x], unread := rest }
  | _, _ => none

def send (s : FeedServer) : Option FeedServer :=
  match s.loop with
  | .sending x => (s.reqCh.send x).map fun c => { s with reqCh := c, loop := .checking }
  | _ => none

def leave (s : FeedServer) : Option FeedServer :=
  match s.loop with
  | .sending x => if s.canceled ∨ s.stopped then some (s.exitLoop (some x)) else none
  | _ => none

def setHandler (s : FeedServer) (i : Nat) (h : FeedHandler) : FeedServer :=
  { s with handlers := s.handlers.set i h }

/-- A handler that has received as many requests as it may receives no more. -/
def receive (s : FeedServer) (i : Nat) : Option FeedServer :=
  match s.handlers[i]? with
  | some ⟨e, .receiving reqs⟩ => s.reqCh.recv.map fun x =>
      let reqs := reqs ++ [x.1]
      { s.setHandler i ⟨e, if e.limit ≤ reqs.length then .received reqs else .receiving reqs⟩ with
        reqCh := x.2 }
  | _ => none

def endBatch (s : FeedServer) (i : Nat) : Option FeedServer :=
  match s.handlers[i]? with
  | some ⟨e, .receiving reqs⟩ =>
      if s.reqCh.buf = [] ∧ (s.reqCh.closed = true ∨ reqs ≠ []) then
        some (s.setHandler i ⟨e, .received reqs⟩)
      else none
  | _ => none

def disconnect (s : FeedServer) (i : Nat) : Option FeedServer :=
  match s.handlers[i]? with
  | some ⟨.next, .receiving []⟩ => some (s.setHandler i ⟨.next, .answered .disconnected⟩)
  | _ => none

def count (s : FeedServer) (i : Nat) : Option FeedServer :=
  match s.handlers[i]? with
  | some ⟨e, .received reqs⟩ =>
      some { s.setHandler i ⟨e, .counted reqs⟩ with served := s.served + reqs.length }
  | _ => none

/-- The answer to a request for which there is nothing. -/
def emptyResponse (s : FeedServer) : FeedResponse :=
  match s.readErr with
  | some err => .readerError err
  | none => .gone

def respond (s : FeedServer) (i : Nat) : Option FeedServer :=
  match s.handlers[i]? with
  | some ⟨e, .counted []⟩ => some (s.setHandler i ⟨e, .answered s.emptyResponse⟩)
  | some ⟨e, .counted (x :: reqs)⟩ => some (s.setHandler i ⟨e, .answered (.ok (x :: reqs))⟩)
  | _ => none

/-- One step, where `last` is the error with which the reader ends. -/
def act (last : Error) (a : FeedAct) (s : FeedServer) : Option FeedServer :=
  match a with
  | .check => s.check
  | .next => s.next
  | .finish => if s.loop = .reading ∧ s.unread = [] then some (s.fail last) else none
  | .interrupt err =>
      if s.loop = .reading ∧ (s.canceled ∨ s.stopped) then some (s.fail err) else none
  | .send => s.send
  | .leave => s.leave
  | .call e => some { s with handlers := s.handlers ++ [⟨e, .receiving []⟩] }
  | .receive i => s.receive i
  | .endBatch i => s.endBatch i
  | .disconnect i => s.disconnect i
  | .count i => s.count i
  | .respond i => s.respond i
  | .cancel => some { s with canceled := true }
  | .stop => some { s with stopped := true, canceled := true }

/-- What is in responses. -/
def handedOut (s : FeedServer) : List Occurrence := s.handlers.flatMap FeedHandler.out

/-- What running handlers hold. -/
def held (s : FeedServer) : List Occurrence := s.handlers.flatMap FeedHandler.held

/-! ## Nothing is lost or repeated -/

/-- What went through the channel, in every run. -/
structure Flow (reqs : List CapturedRequest) (s : FeedServer) : Prop where
  capture : s.read ++ s.unread = reqs.zipIdx
  sent : s.read = s.reqCh.sent ++ s.loop.hand
  received : (s.handlers.flatMap fun h => h.out ++ h.held).Perm s.reqCh.received
  ordered : ∀ h ∈ s.handlers, (h.out ++ h.held).Sublist s.reqCh.received
  served : s.served = (s.handlers.map FeedHandler.counts).sum

variable {reqs : List CapturedRequest} {last : Error} {s s' : FeedServer} {i : Nat}

theorem flow_start (bufferSize : Int) (reqs : List CapturedRequest) :
    (start bufferSize reqs).Flow reqs where
  capture := rfl
  sent := rfl
  received := .refl _
  ordered _ h := absurd h List.not_mem_nil
  served := rfl

theorem counts_of_answered {h : FeedHandler} {r : FeedResponse} (hr : h.state = .answered r) :
    h.counts = h.out.length := by
  unfold FeedHandler.counts FeedHandler.out
  rw [hr]
  cases r with
  | ok reqs => rfl
  | gone => rfl
  | readerError err => rfl
  | disconnected => rfl

/-- A handler moves on with what it has. -/
theorem Flow.setHandler {old new : FeedHandler} (h : s.Flow reqs) (hi : s.handlers[i]? = some old)
    (hsame : new.out ++ new.held = old.out ++ old.held) (hcounts : new.counts = old.counts) :
    (s.setHandler i new).Flow reqs := by
  refine { h with received := ?_, ordered := ?_, served := ?_ }
  · exact (Slots.flatMap_set_of_eq hi hsame).trans h.received
  · refine Slots.forall_set h.ordered ?_
    rw [hsame]
    exact h.ordered old (List.mem_of_getElem? hi)
  · have hsum := Slots.sum_set FeedHandler.counts new hi
    rw [hcounts] at hsum
    exact h.served.trans (Nat.add_right_cancel hsum).symm

theorem receive_some (hs : s.receive i = some s') : ∃ e got x c st,
    s.handlers[i]? = some ⟨e, .receiving got⟩ ∧ s.reqCh.recv = some (x, c)
      ∧ (st = .received (got ++ [x]) ∨ st = .receiving (got ++ [x]))
      ∧ s' = { s.setHandler i ⟨e, st⟩ with reqCh := c } := by
  unfold FeedServer.receive at hs
  split at hs
  · rename_i e got hi
    obtain ⟨⟨x, c⟩, hrecv, rfl⟩ := Option.map_eq_some_iff.mp hs
    exact ⟨e, got, x, c, _, hi, hrecv, ite_eq_or_eq _ _ _, rfl⟩
  · cases hs

theorem endBatch_some (hs : s.endBatch i = some s') : ∃ e got,
    s.handlers[i]? = some ⟨e, .receiving got⟩
      ∧ (s.reqCh.buf = [] ∧ (s.reqCh.closed = true ∨ got ≠ []))
      ∧ s' = s.setHandler i ⟨e, .received got⟩ := by
  unfold FeedServer.endBatch at hs
  split at hs
  · rename_i e got hi
    obtain ⟨hg, rfl⟩ := Option.ite_some_none_eq_some.mp hs
    exact ⟨e, got, hi, hg, rfl⟩
  · cases hs

theorem disconnect_some (hs : s.disconnect i = some s') :
    s.handlers[i]? = some ⟨.next, .receiving []⟩
      ∧ s' = s.setHandler i ⟨.next, .answered .disconnected⟩ := by
  unfold FeedServer.disconnect at hs
  split at hs
  · rename_i hi
    exact ⟨hi, (Option.some.inj hs).symm⟩
  · cases hs

theorem count_some (hs : s.count i = some s') : ∃ e got,
    s.handlers[i]? = some ⟨e, .received got⟩
      ∧ s' = { s.setHandler i ⟨e, .counted got⟩ with served := s.served + got.length } := by
  unfold FeedServer.count at hs
  split at hs
  · rename_i e got hi
    exact ⟨e, got, hi, (Option.some.inj hs).symm⟩
  · cases hs

theorem Flow.receive (h : s.Flow reqs) (hs : s.receive i = some s') : s'.Flow reqs := by
  obtain ⟨e, got, x, c, st, hi, hrecv, hst, rfl⟩ := receive_some hs
  obtain ⟨hsent, hrec, -⟩ := Chan.recv_some hrecv
  have hgot : FeedHandler.out ⟨e, st⟩ ++ FeedHandler.held ⟨e, st⟩ = got ++ [x] := by
    rcases hst with rfl | rfl
    · rfl
    · rfl
  have hcounts : FeedHandler.counts ⟨e, st⟩ = 0 := by
    rcases hst with rfl | rfl
    · rfl
    · rfl
  refine ⟨h.capture, h.sent.trans (by rw [← hsent]; rfl), ?_, ?_, ?_⟩
  · change ((s.handlers.set i ⟨e, st⟩).flatMap _).Perm c.received
    rw [hrec]
    exact (Slots.flatMap_set_of_append hi hgot).trans (h.received.append_right _)
  · change ∀ h ∈ s.handlers.set i ⟨e, st⟩, (h.out ++ h.held).Sublist c.received
    rw [hrec]
    refine Slots.forall_set
      (fun h' hh => (h.ordered h' hh).trans (List.sublist_append_left _ _)) ?_
    rw [hgot]
    exact (h.ordered _ (List.mem_of_getElem? hi)).append (List.Sublist.refl _)
  · have hsum := Slots.sum_set FeedHandler.counts ⟨e, st⟩ hi
    rw [hcounts] at hsum
    exact h.served.trans (Nat.add_right_cancel hsum).symm

theorem Flow.endBatch (h : s.Flow reqs) (hs : s.endBatch i = some s') : s'.Flow reqs := by
  obtain ⟨e, got, hi, -, rfl⟩ := endBatch_some hs
  exact h.setHandler hi rfl rfl

theorem Flow.disconnect (h : s.Flow reqs) (hs : s.disconnect i = some s') : s'.Flow reqs := by
  obtain ⟨hi, rfl⟩ := disconnect_some hs
  exact h.setHandler hi rfl rfl

theorem Flow.count (h : s.Flow reqs) (hs : s.count i = some s') : s'.Flow reqs := by
  obtain ⟨e, got, hi, rfl⟩ := count_some hs
  have hold := h.ordered _ (List.mem_of_getElem? hi)
  refine { h with received := ?_, ordered := Slots.forall_set h.ordered hold, served := ?_ }
  · change ((s.handlers.set i ⟨e, .counted got⟩).flatMap _).Perm s.reqCh.received
    refine List.Perm.trans (Slots.flatMap_set_of_eq hi ?_) h.received
    rfl
  · have hsum := Slots.sum_set FeedHandler.counts ⟨e, .counted got⟩ hi
    have hserved := h.served
    change s.served + got.length = ((s.handlers.set i _).map FeedHandler.counts).sum
    change _ + 0 = _ + got.length at hsum
    omega

theorem Flow.respond (h : s.Flow reqs) (hs : s.respond i = some s') : s'.Flow reqs := by
  unfold FeedServer.respond at hs
  split at hs
  · rename_i e hi
    cases hs
    unfold emptyResponse
    split
    · exact h.setHandler hi rfl rfl
    · exact h.setHandler hi rfl rfl
  · rename_i e x got hi
    cases hs
    refine h.setHandler hi ?_ rfl
    exact List.append_nil _
  · cases hs

theorem Flow.exitLoop {x : Option Occurrence} (h : s.Flow reqs) (hx : x.toList = s.loop.hand) :
    (s.exitLoop x).Flow reqs := by
  refine { h with sent := ?_ }
  change s.read = s.reqCh.sent ++ x.toList
  rw [hx]
  exact h.sent

theorem Flow.fail {err : Error} (h : s.Flow reqs) (hl : s.loop = .reading) :
    (s.fail err).Flow reqs := by
  have hexit : (s.exitLoop none).Flow reqs := h.exitLoop (by rw [hl]; rfl)
  exact { hexit with }

theorem Flow.next (h : s.Flow reqs) (hs : s.next = some s') : s'.Flow reqs := by
  unfold FeedServer.next at hs
  split at hs
  · rename_i x rest hl hu
    cases hs
    refine { h with capture := ?_, sent := ?_ }
    · have hcap := h.capture
      rw [hu] at hcap
      rw [List.append_assoc]
      exact hcap
    · have hsent := h.sent
      rw [hl] at hsent
      rw [hsent]
      exact congrArg (· ++ [x]) (List.append_nil _)
  · cases hs

theorem Flow.send (h : s.Flow reqs) (hs : s.send = some s') : s'.Flow reqs := by
  unfold FeedServer.send at hs
  split at hs
  · rename_i x hl
    obtain ⟨c, hc, rfl⟩ := Option.map_eq_some_iff.mp hs
    obtain ⟨hsent, hrec, -⟩ := Chan.send_some hc
    refine ⟨h.capture, ?_, ?_, ?_, h.served⟩
    · change s.read = c.sent ++ []
      rw [hsent, List.append_nil, h.sent, hl]
      rfl
    · change (s.handlers.flatMap _).Perm c.received
      rw [hrec]
      exact h.received
    · change ∀ h ∈ s.handlers, (h.out ++ h.held).Sublist c.received
      rw [hrec]
      exact h.ordered
  · cases hs

/-- **Every step keeps what was read together.** -/
theorem flow_act {a : FeedAct} (h : s.Flow reqs) (hs : act last a s = some s') : s'.Flow reqs := by
  cases a with
  | check =>
      change s.check = some s' at hs
      unfold FeedServer.check at hs
      split at hs
      · rename_i hl
        have hhand : s.loop.hand = [] := by rw [hl]; rfl
        split at hs
        · cases hs
          exact h.exitLoop hhand.symm
        · cases hs
          refine { h with sent := ?_ }
          rw [h.sent, hhand]
          rfl
      · cases hs
  | next => exact h.next hs
  | finish =>
      obtain ⟨hg, rfl⟩ := Option.ite_some_none_eq_some.mp hs
      exact h.fail hg.1
  | interrupt err =>
      obtain ⟨hg, rfl⟩ := Option.ite_some_none_eq_some.mp hs
      exact h.fail hg.1
  | send => exact h.send hs
  | leave =>
      change s.leave = some s' at hs
      unfold FeedServer.leave at hs
      split at hs
      · rename_i x hl
        obtain ⟨-, rfl⟩ := Option.ite_some_none_eq_some.mp hs
        exact h.exitLoop (by rw [hl]; rfl)
      · cases hs
  | call e =>
      cases hs
      refine { h with received := ?_, ordered := ?_, served := ?_ }
      · change ((s.handlers ++ [_]).flatMap _).Perm _
        rw [List.flatMap_append]
        exact (List.append_nil _).symm ▸ h.received
      · exact Slots.forall_append h.ordered (List.nil_sublist _)
      · change s.served = ((s.handlers ++ [_]).map FeedHandler.counts).sum
        rw [List.map_append, List.sum_append, h.served]
        rfl
  | receive i => exact h.receive hs
  | endBatch i => exact h.endBatch hs
  | disconnect i => exact h.disconnect hs
  | count i => exact h.count hs
  | respond i => exact h.respond hs
  | cancel =>
      cases hs
      exact { h with }
  | stop =>
      cases hs
      exact { h with }

/-- **What was read is handed out, held by a handler, buffered or in the hands of the read
loop.** -/
theorem Flow.conserved (h : s.Flow reqs) :
    (s.handedOut ++ s.held ++ s.reqCh.buf ++ s.loop.hand).Perm s.read := by
  have hgot : (s.handedOut ++ s.held).Perm s.reqCh.received :=
    (List.flatMap_append_perm s.handlers _ _).trans h.received
  rw [h.sent, Chan.sent]
  exact (hgot.append_right _).append_right _

/-! ## What 410 means -/

/-- A handler has received nothing, and is about to answer. -/
def emptyHanded (s : FeedServer) (i : Nat) : Bool :=
  match s.handlers[i]? with
  | some ⟨_, .counted []⟩ => true
  | _ => false

/-- The read loop is not cut short, and 410 is answered only when no handler holds anything. -/
def Orderly (a : FeedAct) (s : FeedServer) : Prop :=
  match a with
  | .check => ¬ (s.canceled = true ∨ s.stopped = true)
  | .leave => False
  | .interrupt err => err = errReaderDone → s.unread = []
  | .respond i => s.emptyHanded i = true → s.readErr = none → s.held = []
  | _ => True

/-- The reader has signalled the end, and all of the capture is in responses. -/
structure Complete (s : FeedServer) : Prop where
  ended : s.ended = some errReaderDone
  unread : s.unread = []
  returned : s.loop = .returned none
  closed : s.reqCh.closed = true
  buf : s.reqCh.buf = []
  held : s.held = []

theorem held_eq_nil : s.held = [] ↔ ∀ h ∈ s.handlers, h.held = [] := List.flatMap_eq_nil_iff

theorem Complete.setHandler {new : FeedHandler} (h : s.Complete) (hnew : new.held = []) :
    (s.setHandler i new).Complete := by
  refine { h with held := held_eq_nil.mpr ?_ }
  exact Slots.forall_set (held_eq_nil.mp h.held) hnew

/-- **What is complete stays so**, whatever happens. -/
theorem complete_act {a : FeedAct} (h : s.Complete) (hs : act last a s = some s') :
    s'.Complete := by
  have hheld : ∀ {i : Nat} {old : FeedHandler}, s.handlers[i]? = some old → old.held = [] :=
    fun hi => held_eq_nil.mp h.held _ (List.mem_of_getElem? hi)
  -- the read loop has returned, so it takes no more steps
  have hl := h.returned
  cases a with
  | check => simp [act, check, hl] at hs
  | next => simp [act, next, hl] at hs
  | finish => simp [act, hl] at hs
  | interrupt err => simp [act, hl] at hs
  | send => simp [act, send, hl] at hs
  | leave => simp [act, leave, hl] at hs
  | call e =>
      cases hs
      refine { h with held := held_eq_nil.mpr ?_ }
      exact Slots.forall_append (held_eq_nil.mp h.held) rfl
  | receive i =>
      obtain ⟨_, _, _, _, _, _, hrecv, -⟩ := receive_some hs
      have hbuf := (Chan.recv_some hrecv).2.2.1
      rw [h.buf] at hbuf
      cases hbuf
  | endBatch i =>
      obtain ⟨e, got, hi, -, rfl⟩ := endBatch_some hs
      have hgot := hheld hi
      exact h.setHandler hgot
  | disconnect i =>
      obtain ⟨-, rfl⟩ := disconnect_some hs
      exact h.setHandler rfl
  | count i =>
      obtain ⟨e, got, hi, rfl⟩ := count_some hs
      have hgot := hheld hi
      have hcounted : (s.setHandler i ⟨e, .counted got⟩).Complete := h.setHandler hgot
      exact { hcounted with }
  | respond i =>
      change s.respond i = some s' at hs
      unfold FeedServer.respond at hs
      split at hs
      · cases hs
        exact h.setHandler rfl
      · cases hs
        exact h.setHandler rfl
      · cases hs
  | cancel =>
      cases hs
      exact { h with }
  | stop =>
      cases hs
      exact { h with }

/-- What a handler may rely on that finds the channel closed, in an orderly run. -/
structure Signals (s : FeedServer) : Prop where
  opened : s.reqCh.closed = false → s.readErr = none
  closed : s.reqCh.closed = true → s.loop = .returned none
  ended : s.reqCh.closed = true → s.readErr = none → s.ended = some errReaderDone ∧ s.unread = []
  empty : ∀ h ∈ s.handlers, h.state = .received [] ∨ h.state = .counted [] →
    s.reqCh.closed = true ∧ s.reqCh.buf = []
  gone : ∀ h ∈ s.handlers, h.state = .answered .gone → s.Complete

theorem signals_start (bufferSize : Int) (reqs : List CapturedRequest) :
    (start bufferSize reqs).Signals where
  opened _ := rfl
  closed h := by cases h
  ended h := by cases h
  empty _ h := absurd h List.not_mem_nil
  gone _ h := absurd h List.not_mem_nil

/-- The channel is open as long as the read loop runs. -/
theorem Signals.running (h : s.Signals) (hl : s.loop ≠ .returned none) :
    s.reqCh.closed = false := by
  by_contra hc
  exact hl (h.closed (Bool.eq_true_of_not_eq_false hc))

/-- As long as the channel is open, nobody answers for want of requests. -/
theorem Signals.busy (h : s.Signals) (hopen : s.reqCh.closed = false) :
    ∀ x ∈ s.handlers, ¬ (x.state = .received [] ∨ x.state = .counted [])
      ∧ x.state ≠ .answered .gone := by
  intro x hx
  refine ⟨fun he => ?_, fun hg => ?_⟩
  · have hclosed := (h.empty x hx he).1
    rw [hopen] at hclosed
    cases hclosed
  · have hclosed := (h.gone x hx hg).closed
    rw [hopen] at hclosed
    cases hclosed

/-- The read loop moves on. -/
theorem Signals.moves (h : s.Signals) (hl : s.loop ≠ .returned none)
    (hhandlers : s'.handlers = s.handlers) (hopen' : s'.reqCh.closed = s.reqCh.closed)
    (herr : s'.readErr = s.readErr) : s'.Signals := by
  have hopen := h.running hl
  have hbusy := h.busy hopen
  refine ⟨fun _ => herr.trans (h.opened hopen), ?_, ?_, ?_, ?_⟩
  · intro hc
    rw [hopen', hopen] at hc
    cases hc
  · intro hc
    rw [hopen', hopen] at hc
    cases hc
  · rw [hhandlers]
    exact fun x hx he => absurd he (hbusy x hx).1
  · rw [hhandlers]
    exact fun x hx hg => absurd hg (hbusy x hx).2

/-- `Next` returned an error. -/
theorem Signals.fail {err : Error} (h : s.Signals) (hl : s.loop = .reading)
    (hend : err = errReaderDone → s.unread = []) : (s.fail err).Signals := by
  have hopen := h.running (by rw [hl]; nofun)
  have hbusy := h.busy hopen
  refine ⟨nofun, fun _ => rfl, ?_, fun x hx he => absurd he (hbusy x hx).1,
    fun x hx hg => absurd hg (hbusy x hx).2⟩
  intro _ herr
  change (if err = errReaderDone then s.readErr else some err) = none at herr
  split at herr
  · rename_i hdone
    subst hdone
    exact ⟨rfl, hend rfl⟩
  · cases herr

/-- A handler moves on. -/
theorem Signals.setHandler {new : FeedHandler} (h : s.Signals)
    (hempty : new.state = .received [] ∨ new.state = .counted [] → s.reqCh.closed = true
      ∧ s.reqCh.buf = [])
    (hgone : new.state = .answered .gone → (s.setHandler i new).Complete)
    (hkeep : s.Complete → (s.setHandler i new).Complete) : (s.setHandler i new).Signals :=
  ⟨h.opened, h.closed, h.ended, Slots.forall_set h.empty hempty,
    Slots.forall_set (fun x hx hg => hkeep (h.gone x hx hg)) hgone⟩

theorem Signals.receive (h : s.Signals) (hs : s.receive i = some s') : s'.Signals := by
  obtain ⟨e, got, x, c, st, hi, hrecv, hst, rfl⟩ := receive_some hs
  obtain ⟨-, -, hbuf, hclosed, -⟩ := Chan.recv_some hrecv
  -- the channel was not empty, so nobody is about to answer, or has answered, for want of
  -- requests
  have hne : s.reqCh.buf ≠ [] := by
    rw [hbuf]
    nofun
  refine ⟨fun hc => h.opened (hclosed ▸ hc), fun hc => h.closed (hclosed ▸ hc),
    fun hc => h.ended (hclosed ▸ hc), Slots.forall_set ?_ ?_, Slots.forall_set ?_ ?_⟩
  · exact fun y hy he => absurd (h.empty y hy he).2 hne
  · rcases hst with rfl | rfl
    · simp
    · simp
  · exact fun y hy hg => absurd (h.gone y hy hg).buf hne
  · rcases hst with rfl | rfl
    · nofun
    · nofun

/-- An empty answer is 410 only if the reader has ended, and then nothing is left. -/
theorem Signals.respond (h : s.Signals)
    (hok : s.emptyHanded i = true → s.readErr = none → s.held = [])
    (hkeep : s.Complete → s'.Complete) (hs : s.respond i = some s') : s'.Signals := by
  unfold FeedServer.respond at hs
  split at hs
  · rename_i e hi
    cases hs
    obtain ⟨hclosed, hbuf⟩ := h.empty _ (List.mem_of_getElem? hi) (Or.inr rfl)
    refine h.setHandler nofun (fun hg => ?_) hkeep
    have herr : s.readErr = none := by
      cases herr : s.readErr with
      | none => rfl
      | some err =>
          simp [emptyResponse, herr] at hg
    have hheld : s.held = [] := hok (by simp [emptyHanded, hi]) herr
    obtain ⟨hended, hunread⟩ := h.ended hclosed herr
    have hcomplete : s.Complete := ⟨hended, hunread, h.closed hclosed, hclosed, hbuf, hheld⟩
    exact hcomplete.setHandler rfl
  · cases hs
    exact h.setHandler nofun nofun hkeep
  · cases hs

/-- **What 410 means, step by step.** -/
theorem signals_act {a : FeedAct} (hok : Orderly a s) (h : s.Signals)
    (hs : act last a s = some s') : s'.Signals := by
  have hkeep : s.Complete → s'.Complete := fun hc => complete_act hc hs
  cases a with
  | check =>
      change s.check = some s' at hs
      unfold FeedServer.check at hs
      split at hs
      · rename_i hl
        rw [if_neg hok] at hs
        cases hs
        exact h.moves (by rw [hl]; nofun) rfl rfl rfl
      · cases hs
  | next =>
      change s.next = some s' at hs
      unfold FeedServer.next at hs
      split at hs
      · rename_i hl _
        cases hs
        exact h.moves (by rw [hl]; nofun) rfl rfl rfl
      · cases hs
  | finish =>
      obtain ⟨hg, rfl⟩ := Option.ite_some_none_eq_some.mp hs
      exact h.fail hg.1 fun _ => hg.2
  | interrupt err =>
      obtain ⟨hg, rfl⟩ := Option.ite_some_none_eq_some.mp hs
      exact h.fail hg.1 hok
  | send =>
      change s.send = some s' at hs
      unfold FeedServer.send at hs
      split at hs
      · rename_i x hl
        obtain ⟨c, hc, rfl⟩ := Option.map_eq_some_iff.mp hs
        exact h.moves (by rw [hl]; nofun) rfl (Chan.send_some hc).2.2.2.1 rfl
      · cases hs
  | leave => exact hok.elim
  | call e =>
      cases hs
      refine ⟨h.opened, h.closed, h.ended, Slots.forall_append h.empty ?_,
        Slots.forall_append (fun x hx hg => hkeep (h.gone x hx hg)) nofun⟩
      intro he
      rcases he with he | he
      · cases he
      · cases he
  | receive i => exact h.receive hs
  | endBatch i =>
      obtain ⟨e, got, hi, hg, rfl⟩ := endBatch_some hs
      refine h.setHandler (fun he => ?_) nofun hkeep
      rcases he with he | he
      · cases he
        exact ⟨hg.2.resolve_right (fun hne => hne rfl), hg.1⟩
      · cases he
  | disconnect i =>
      obtain ⟨-, rfl⟩ := disconnect_some hs
      refine h.setHandler (fun he => ?_) nofun hkeep
      rcases he with he | he
      · cases he
      · cases he
  | count i =>
      obtain ⟨e, got, hi, rfl⟩ := count_some hs
      refine ⟨h.opened, h.closed, h.ended, Slots.forall_set h.empty ?_,
        Slots.forall_set (fun x hx hg => hkeep (h.gone x hx hg)) nofun⟩
      intro he
      rcases he with he | he
      · cases he
      · cases he
        exact h.empty _ (List.mem_of_getElem? hi) (Or.inl rfl)
  | respond i => exact h.respond hok hkeep hs
  | cancel =>
      cases hs
      exact ⟨h.opened, h.closed, h.ended, h.empty, fun x hx hg => hkeep (h.gone x hx hg)⟩
  | stop =>
      cases hs
      exact ⟨h.opened, h.closed, h.ended, h.empty, fun x hx hg => hkeep (h.gone x hx hg)⟩

/-! ## The result -/

/-- What the clients of the server get. -/
structure HandedOutOnce (reqs : List CapturedRequest) (s : FeedServer) : Prop where
  /-- What was read is a beginning of the capture. -/
  read : s.read <+: reqs.zipIdx
  conserved : (s.handedOut ++ s.held ++ s.reqCh.buf ++ s.loop.hand).Perm s.read
  hand : s.loop.hand.length ≤ 1
  distinct : s.handedOut.Pairwise fun x y => x.2 ≠ y.2
  ordered : ∀ h ∈ s.handlers, h.out.Pairwise fun x y => x.2 < y.2
  served : (∀ h ∈ s.handlers, ∃ r, h.state = .answered r) → s.served = s.handedOut.length
  gone : ∀ h ∈ s.handlers, h.state = .answered .gone →
    s.ended = some errReaderDone ∧ s.handedOut.Perm reqs.zipIdx

theorem hand_length (l : Reading) : l.hand.length ≤ 1 := by
  cases l with
  | checking => exact Nat.zero_le _
  | reading => exact Nat.zero_le _
  | sending x => exact Nat.le_refl _
  | returned x =>
      cases x with
      | none => exact Nat.zero_le _
      | some x => exact Nat.le_refl _

theorem pairwise_zipIdx (reqs : List CapturedRequest) :
    reqs.zipIdx.Pairwise fun x y => x.2 < y.2 := by
  rw [← List.pairwise_map (f := Prod.snd) (R := (· < ·)), List.zipIdx_map_snd]
  exact List.pairwise_lt_range'

theorem Flow.received_prefix (h : s.Flow reqs) : s.reqCh.received <+: reqs.zipIdx := by
  rw [← h.capture, h.sent, Chan.sent, List.append_assoc, List.append_assoc]
  exact List.prefix_append _ _

theorem Flow.ordered_out (h : s.Flow reqs) {x : FeedHandler} (hx : x ∈ s.handlers) :
    x.out.Pairwise fun a b => a.2 < b.2 := by
  have hsub : x.out.Sublist reqs.zipIdx :=
    (List.sublist_append_left _ _).trans ((h.ordered x hx).trans h.received_prefix.sublist)
  exact (pairwise_zipIdx reqs).sublist hsub

theorem Flow.distinct (h : s.Flow reqs) : s.handedOut.Pairwise fun a b => a.2 ≠ b.2 := by
  have hgot : (s.handedOut ++ s.held).Perm s.reqCh.received :=
    (List.flatMap_append_perm s.handlers _ _).trans h.received
  have hrec : s.reqCh.received.Pairwise fun a b => a.2 ≠ b.2 :=
    ((pairwise_zipIdx reqs).sublist h.received_prefix.sublist).imp Nat.ne_of_lt
  have hall := (hgot.symm.pairwise_iff Ne.symm).mp hrec
  exact hall.sublist (List.sublist_append_left _ _)

theorem Flow.served_eq (h : s.Flow reqs) (hall : ∀ x ∈ s.handlers, ∃ r, x.state = .answered r) :
    s.served = s.handedOut.length := by
  rw [h.served, handedOut, List.length_flatMap]
  refine congrArg List.sum (List.map_congr_left fun x hx => ?_)
  obtain ⟨r, hr⟩ := hall x hx
  exact counts_of_answered hr

/-- **In every run in which the read loop is not cut short and 410 is answered only when no handler
holds anything, each request is handed out once, in order within a response, and 410 means that all
of them were.** -/
theorem handed_out_once (bufferSize : Int) (reqs : List CapturedRequest) (last : Error)
    (hreach : Steps.Reach (act last) Orderly (start bufferSize reqs) s) : s.HandedOutOnce reqs := by
  obtain ⟨hflow, hsignals⟩ : s.Flow reqs ∧ s.Signals := by
    refine hreach.holds (I := fun s => s.Flow reqs ∧ s.Signals)
      ⟨flow_start bufferSize reqs, signals_start bufferSize reqs⟩ ?_
    intro a t t' hok ht hI
    exact ⟨flow_act hI.1 ht, signals_act hok hI.2 ht⟩
  refine ⟨⟨_, hflow.capture⟩, hflow.conserved, hand_length _, hflow.distinct,
    fun x hx => hflow.ordered_out hx,
    hflow.served_eq, fun x hx hg => ?_⟩
  have hc := hsignals.gone x hx hg
  have hcap := hflow.capture
  have hcons := hflow.conserved
  rw [hc.held, hc.buf, hc.returned] at hcons
  rw [hc.unread, List.append_nil] at hcap
  refine ⟨hc.ended, ?_⟩
  rw [← hcap]
  change (s.handedOut ++ [] ++ [] ++ []).Perm s.read at hcons
  rwa [List.append_nil, List.append_nil, List.append_nil] at hcons

/-! ## A run to the end -/

/-- Neither is the context cancelled nor the server stopped. -/
def Undisturbed (a : FeedAct) (_ : FeedServer) : Prop := a ≠ .cancel ∧ a ≠ .stop

/-- Between two requests, with nothing on its way. -/
structure Ready (s : FeedServer) : Prop where
  loop : s.loop = .checking
  canceled : s.canceled = false
  stopped : s.stopped = false
  room : 0 < s.reqCh.cap
  buf : s.reqCh.buf = []
  opened : s.reqCh.closed = false
  readErr : s.readErr = none

theorem ready_start (bufferSize : Int) (reqs : List CapturedRequest) :
    (start bufferSize reqs).Ready := by
  refine ⟨rfl, rfl, rfl, ?_, rfl, rfl, rfl⟩
  change 0 < if bufferSize ≤ 0 then 1000 else bufferSize.toNat
  split
  · decide
  · omega

/-- A client of `/next` is given what is in the channel. -/
theorem serve_next {x : Occurrence} {s₀ : FeedServer}
    (hreach : Steps.Reach (act last) Undisturbed s₀ s) (hbuf : s.reqCh.buf = [x]) :
    ∃ c, c.cap = s.reqCh.cap ∧ c.buf = [] ∧ c.closed = s.reqCh.closed
      ∧ Steps.Reach (act last) Undisturbed s₀
          { s with reqCh := c, served := s.served + 1,
                   handlers := s.handlers ++ [⟨.next, .answered (.ok [x])⟩] } := by
  obtain ⟨c, hc⟩ := Chan.exists_recv hbuf
  obtain ⟨-, -, hbuf', hclosed, hcap⟩ := Chan.recv_some hc
  rw [hbuf] at hbuf'
  have hcall : act last (.call .next) s = some { s with
      handlers := s.handlers ++ [⟨.next, .receiving []⟩] } := rfl
  have hreceive : act last (.receive s.handlers.length)
      { s with handlers := s.handlers ++ [⟨.next, .receiving []⟩] }
        = some { s with reqCh := c, handlers := s.handlers ++ [⟨.next, .received [x]⟩] } := by
    simp [act, receive, hc, setHandler, Endpoint.limit]
  have hcount : act last (.count s.handlers.length)
      { s with reqCh := c, handlers := s.handlers ++ [⟨.next, .received [x]⟩] }
        = some { s with
          reqCh := c, served := s.served + 1,
          handlers := s.handlers ++ [⟨.next, .counted [x]⟩] } := by
    simp [act, count, setHandler]
  have hrespond : act last (.respond s.handlers.length)
      { s with reqCh := c, served := s.served + 1,
               handlers := s.handlers ++ [⟨.next, .counted [x]⟩] }
        = some { s with
          reqCh := c, served := s.served + 1,
          handlers := s.handlers ++ [⟨.next, .answered (.ok [x])⟩] } := by
    simp [act, respond, setHandler]
  refine ⟨c, hcap, (List.cons.inj hbuf').2.symm, hclosed, ?_⟩
  have h₁ := hreach.step (a := .call .next) ⟨nofun, nofun⟩ hcall
  have h₂ := h₁.step (a := .receive s.handlers.length) ⟨nofun, nofun⟩ hreceive
  have h₃ := h₂.step (a := .count s.handlers.length) ⟨nofun, nofun⟩ hcount
  exact h₃.step (a := .respond s.handlers.length) ⟨nofun, nofun⟩ hrespond

/-- The next request is read, sent and handed out. -/
theorem Ready.serve (h : s.Ready) {x : Occurrence} {rest : List Occurrence} {s₀ : FeedServer}
    (hreach : Steps.Reach (act last) Undisturbed s₀ s) (hu : s.unread = x :: rest) :
    ∃ s', Steps.Reach (act last) Undisturbed s₀ s' ∧ s'.Ready ∧ s'.unread = rest := by
  have hcheck : act last .check s = some { s with loop := .reading } := by
    simp [act, check, h.loop, h.canceled, h.stopped]
  have hnext : act last .next { s with loop := .reading }
      = some { s with loop := .sending x, read := s.read ++ [x], unread := rest } := by
    simp [act, next, hu]
  obtain ⟨c, hc⟩ := Chan.exists_send (c := s.reqCh) x (by rw [h.buf]; exact h.room)
  obtain ⟨-, -, hbuf, hclosed, hcap⟩ := Chan.send_some hc
  have hsend : act last .send { s with loop := .sending x, read := s.read ++ [x], unread := rest }
      = some { s with loop := .checking, read := s.read ++ [x], unread := rest, reqCh := c } := by
    simp [act, send, hc]
  have h₁ := hreach.step (a := .check) ⟨nofun, nofun⟩ hcheck
  have h₂ := h₁.step (a := .next) ⟨nofun, nofun⟩ hnext
  have h₃ := h₂.step (a := .send) ⟨nofun, nofun⟩ hsend
  rw [h.buf] at hbuf
  obtain ⟨d, hdcap, hdbuf, hdclosed, h₄⟩ := serve_next h₃ hbuf
  refine ⟨_, h₄, ⟨rfl, h.canceled, h.stopped, ?_, hdbuf, ?_, h.readErr⟩, rfl⟩
  · rw [hdcap, hcap]
    exact h.room
  · rw [hdclosed, hclosed]
    exact h.opened

theorem Ready.serve_all (h : s.Ready) {s₀ : FeedServer}
    (hreach : Steps.Reach (act last) Undisturbed s₀ s) :
    ∃ s', Steps.Reach (act last) Undisturbed s₀ s' ∧ s'.Ready ∧ s'.unread = [] := by
  induction hu : s.unread generalizing s with
  | nil => exact ⟨s, hreach, h, hu⟩
  | cons x rest ih =>
      obtain ⟨s', hreach', hready', hu'⟩ := h.serve hreach hu
      exact ih hready' hreach' hu'

/-- **An undisturbed server reads any capture to its end**, and the error it then has is the one
with which the reader ended, unless that is `ErrReaderDone`. -/
theorem exists_end (bufferSize : Int) (reqs : List CapturedRequest) (last : Error) :
    ∃ s, Steps.Reach (act last) Undisturbed (start bufferSize reqs) s ∧ s.ended = some last
      ∧ s.unread = [] ∧ s.readErr = if last = errReaderDone then none else some last := by
  have hstart : Steps.Reach (act last) Undisturbed (start bufferSize reqs)
      (start bufferSize reqs) := .start
  obtain ⟨s, hreach, hready, hu⟩ := (ready_start bufferSize reqs).serve_all hstart
  have hcheck : act last .check s = some { s with loop := .reading } := by
    simp [act, check, hready.loop, hready.canceled, hready.stopped]
  have hfinish : act last .finish { s with loop := .reading }
    = some (FeedServer.fail { s with loop := .reading } last) := by
    simp [act, hu]
  refine ⟨_, (hreach.step (a := .check) ⟨nofun, nofun⟩ hcheck).step (a := .finish) ⟨nofun, nofun⟩
    hfinish, rfl, hu, ?_⟩
  change (if last = errReaderDone then s.readErr else some last) = _
  rw [hready.readErr]

/-! ## Two runs -/

instance decidableOrderly : (a : FeedAct) → (s : FeedServer) → Decidable (Orderly a s)
  | .check, s => inferInstanceAs (Decidable (¬ (s.canceled = true ∨ s.stopped = true)))
  | .leave, _ => .isFalse id
  | .interrupt err, s => inferInstanceAs (Decidable (err = errReaderDone → s.unread = []))
  | .respond i, s =>
      inferInstanceAs (Decidable (s.emptyHanded i = true → s.readErr = none → s.held = []))
  | .next, _ => .isTrue trivial
  | .finish, _ => .isTrue trivial
  | .send, _ => .isTrue trivial
  | .call _, _ => .isTrue trivial
  | .receive _, _ => .isTrue trivial
  | .endBatch _, _ => .isTrue trivial
  | .disconnect _, _ => .isTrue trivial
  | .count _, _ => .isTrue trivial
  | .cancel, _ => .isTrue trivial
  | .stop, _ => .isTrue trivial

/-- A capture of one request. -/
def oneCapture : List CapturedRequest :=
  [⟨lit "a", 0, lit "GET", lit "/", [], [], 0, lit "HTTP", []⟩]

/-- The request is handed out, and the next client is told that there is nothing more. -/
theorem handed_out_once_to_the_end :
    ∃ s, Steps.Reach (act errReaderDone) Orderly (start 0 oneCapture) s
    ∧ s.handlers.map FeedHandler.state = [.answered (.ok oneCapture.zipIdx), .answered .gone]
    ∧ s.HandedOutOnce oneCapture := by
  obtain ⟨s, hreach, hstates⟩ := Steps.exists_run (act errReaderDone) Orderly (start 0 oneCapture)
    [.call .next, .check, .next, .send, .receive 0, .check, .finish, .count 0, .respond 0,
      .call (.batch []), .endBatch 1, .count 1, .respond 1]
    (fun s => s.handlers.map FeedHandler.state
      = [.answered (.ok oneCapture.zipIdx), .answered .gone])
    (by decide +kernel)
  exact ⟨s, hreach, hstates, handed_out_once 0 oneCapture errReaderDone hreach⟩

/-- **A client that waits while the server is stopped is told that the replay is complete.** -/
theorem stopped_says_complete :
    ∃ s, Steps.Reach (act errReaderDone) (fun _ _ => True) (start 0 oneCapture) s
    ∧ s.handlers = [⟨.next, .answered .gone⟩] ∧ s.read = [] ∧ s.ended = none ∧ s.handedOut = []
    ∧ ¬ s.HandedOutOnce oneCapture := by
  obtain ⟨s, hreach, hhandlers, hread, hended, hout⟩ :=
    Steps.exists_run (act errReaderDone) (fun _ _ => True)
      (start 0 oneCapture) [.call .next, .stop, .check, .endBatch 0, .count 0, .respond 0]
      (fun s => s.handlers = [⟨.next, .answered .gone⟩] ∧ s.read = [] ∧ s.ended = none
        ∧ s.handedOut = [])
      (by decide +kernel)
  refine ⟨s, hreach, hhandlers, hread, hended, hout, fun honce => ?_⟩
  have hgone :=
    (honce.gone ⟨.next, .answered .gone⟩ (by rw [hhandlers]; exact List.mem_singleton.mpr rfl)
      rfl).1
  rw [hended] at hgone
  cases hgone

end FeedServer

end Kapture.Replay
