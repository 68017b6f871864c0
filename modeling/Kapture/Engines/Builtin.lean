import Kapture.Lib.Chan
import Kapture.Lib.Slots
import Kapture.Lib.Steps
import Kapture.Replay.Feeder

/-!
# The builtin plugin engine

`Execute` of the builtin engine starts some workers on the feed and waits for them. Each of them
takes an item, looks at the draining flag, sends the request and reports what came of it. `Drain`,
which a hot reload calls on the old process, sets the flag, and **from then on the workers take
items and drop them**: nothing counts such an item, the run ends as if the feed had been shorter,
and its summary says that all went well.

If no worker finds the flag set, every item that was taken is counted as sent or as failed, and in a
run that is not cancelled all items of the feed are taken.
-/

namespace Kapture.Engines

open Go Replay

/-- The buffer of the feed and of the events, in items. -/
def feedBuffer : Nat := 256

/-- `replayenginev1.RequestResult`, without its latency. -/
structure RequestResult where
  requestId : Str
  statusCode : Int32
  error : String
deriving DecidableEq, Repr

/-- The counts of `replayenginev1.RunSummary`. -/
structure RunSummary where
  totalRequests : Nat
  sentRequests : Nat
  failedRequests : Nat
deriving DecidableEq, Repr

inductive ExecuteResponse where
  | result (r : RequestResult)
  | summary (s : RunSummary)
deriving DecidableEq, Repr

/-- Where a worker of `Execute` is. -/
inductive FeedWorker where
  | receiving
  /-- It has taken an item, and has not looked at the flag yet. -/
  | holding (item : FeedItem)
  /-- In `sender.Send`. -/
  | sending (item : FeedItem)
  | reporting (r : RequestResult)
  | exited
deriving DecidableEq, Repr

namespace FeedWorker

/-- The items that were taken and are not counted. -/
def held : FeedWorker → Nat
  | .holding _ => 1
  | _ => 0

/-- The items that are counted, and neither as sent nor as failed. -/
def busy : FeedWorker → Nat
  | .sending _ => 1
  | _ => 0

def isExited : FeedWorker → Bool
  | .exited => true
  | _ => false

end FeedWorker

/-- The engine during a run. -/
structure BuiltinRun where
  draining : Bool
  /-- The context of the run is done. -/
  cancelled : Bool
  feed : Chan FeedItem
  events : Chan ExecuteResponse
  workers : List FeedWorker
  total : Nat
  sent : Nat
  failed : Nat
  /-- What `Execute` has returned, if it has: an error, or nil after this summary. -/
  result : Option (Except Error RunSummary)

inductive BuiltinAct where
  /-- The bridge puts an item into the feed. -/
  | feed (item : FeedItem)
  | closeFeed
  | drain
  | cancel
  | receive (i : Nat)
  | check (i : Nat)
  /-- `Send` returns an error, or the status of a response. -/
  | sent (i : Nat) (r : Except Error Int64)
  | report (i : Nat)
  /-- A worker finds the context done while it reports. -/
  | leave (i : Nat)
  /-- The bridge takes an event. -/
  | deliver
  | finish
  /-- The context is done when the summary is due. -/
  | giveUp
deriving Repr

namespace BuiltinRun

/-- `Execute` of a configured engine. -/
def start (concurrency : Int32) : BuiltinRun where
  draining := false
  cancelled := false
  feed := .make _ feedBuffer
  events := .make _ feedBuffer
  workers := List.replicate (if concurrency ≤ 0 then 1 else concurrency.toNatClampNeg) .receiving
  total := 0
  sent := 0
  failed := 0
  result := none

def setWorker (s : BuiltinRun) (i : Nat) (w : FeedWorker) : BuiltinRun :=
  { s with workers := s.workers.set i w }

def receive (i : Nat) (s : BuiltinRun) : Option BuiltinRun :=
  match s.workers[i]? with
  | some .receiving =>
      match s.feed.recv with
      | some (item, c) => some { s.setWorker i (.holding item) with feed := c }
      | none => if s.feed.closed then some (s.setWorker i .exited) else none
  | _ => none

/-- The look at the flag: drop the item, or count it and send it. -/
def check (i : Nat) (s : BuiltinRun) : Option BuiltinRun :=
  match s.workers[i]? with
  | some (.holding item) =>
      if s.draining then some (s.setWorker i .receiving)
      else some { s.setWorker i (.sending item) with total := s.total + 1 }
  | _ => none

def sendReturns (i : Nat) (r : Except Error Int64) (s : BuiltinRun) : Option BuiltinRun :=
  match s.workers[i]? with
  | some (.sending item) =>
      match r with
      | .error err =>
          some { s.setWorker i (.reporting ⟨item.requestId, 0, err.text⟩) with
            failed := s.failed + 1 }
      | .ok status =>
          some { s.setWorker i (.reporting ⟨item.requestId, status.toInt32, ""⟩) with
            sent := s.sent + 1 }
  | _ => none

def report (i : Nat) (s : BuiltinRun) : Option BuiltinRun :=
  match s.workers[i]? with
  | some (.reporting r) =>
      (s.events.send (.result r)).map fun c => { s.setWorker i .receiving with events := c }
  | _ => none

def leave (i : Nat) (s : BuiltinRun) : Option BuiltinRun :=
  match s.workers[i]? with
  | some (.reporting _) => if s.cancelled then some (s.setWorker i .exited) else none
  | _ => none

/-- The counts when all workers have returned. -/
def summary (s : BuiltinRun) : RunSummary := ⟨s.total, s.sent, s.failed⟩

/-- `wg.Wait()` returns. -/
def waited (s : BuiltinRun) : Bool := s.workers.all FeedWorker.isExited && s.result.isNone

def finish (s : BuiltinRun) : Option BuiltinRun :=
  if s.waited then (s.events.send (.summary s.summary)).map fun c => { s with
    events := c, result := some (.ok s.summary) }
  else none

def giveUp (s : BuiltinRun) : Option BuiltinRun :=
  if s.waited && s.cancelled then some { s with result := some (.error canceled) } else none

/-- One step of whoever takes one. -/
def act (a : BuiltinAct) (s : BuiltinRun) : Option BuiltinRun :=
  match a with
  | .feed item =>
      if s.feed.closed then none else (s.feed.send item).map fun c => { s with feed := c }
  | .closeFeed => some { s with feed := s.feed.close }
  | .drain => some { s with draining := true }
  | .cancel => some { s with cancelled := true }
  | .receive i => s.receive i
  | .check i => s.check i
  | .sent i r => s.sendReturns i r
  | .report i => s.report i
  | .leave i => s.leave i
  | .deliver => s.events.recv.map fun p => { s with events := p.2 }
  | .finish => s.finish
  | .giveUp => s.giveUp

/-! ## Every item is counted -/

/-- No worker finds the flag set. -/
def Undrained : BuiltinAct → BuiltinRun → Prop
  | .check _, s => s.draining = false
  | _, _ => True

instance (a : BuiltinAct) (s : BuiltinRun) : Decidable (Undrained a s) := by
  unfold Undrained
  split <;> infer_instance

variable {s s' : BuiltinRun} {i : Nat}

/-- What was taken from the feed is held or counted, and what is counted is being sent, sent or
failed. -/
structure Accounts (s : BuiltinRun) : Prop where
  staffed : s.workers ≠ []
  taken : s.feed.received.length = (s.workers.map FeedWorker.held).sum + s.total
  counted : s.total = (s.workers.map FeedWorker.busy).sum + s.sent + s.failed
  exited : .exited ∈ s.workers → s.cancelled = true ∨ s.feed.closed = true ∧ s.feed.buf = []
  result : ∀ r, s.result = some r → s.workers.all FeedWorker.isExited = true
  summed : ∀ sum, s.result = some (.ok sum) → sum = s.summary

theorem sum_start {g : FeedWorker → Nat} (hg : g .receiving = 0) (n : Nat) :
    ((List.replicate n FeedWorker.receiving).map g).sum = 0 :=
  Slots.sum_eq_zero fun w hw => by rw [List.eq_of_mem_replicate hw, hg]

theorem accounts_start (concurrency : Int32) : (start concurrency).Accounts where
  staffed := by
    intro h
    have hlen : (if concurrency ≤ 0 then 1 else concurrency.toNatClampNeg) = 0 := by
      simpa [start] using h
    split at hlen
    · cases hlen
    · rename_i hpos
      rw [Int32.le_iff_toInt_le, Int32.toInt_zero] at hpos
      rw [Int32.toNatClampNeg] at hlen
      omega
  taken := by
    rw [start, sum_start rfl]
    rfl
  counted := by
    rw [start, sum_start rfl]
    rfl
  exited h := by cases List.eq_of_mem_replicate h
  result _ h := by cases h
  summed _ h := by cases h

/-- As long as a worker is at work, `Execute` has not returned. -/
theorem Accounts.unfinished (h : s.Accounts) {w : FeedWorker} (hi : s.workers[i]? = some w)
    (hw : w.isExited = false) : s.result = none := by
  cases hr : s.result with
  | none => rfl
  | some r =>
      have hall := List.all_eq_true.mp (h.result r hr) w (List.mem_of_getElem? hi)
      rw [hw] at hall
      cases hall

/-- What a worker's step has to keep. -/
theorem Accounts.moveWorker (h : s.Accounts) {old : FeedWorker} (new : FeedWorker)
    (hi : s.workers[i]? = some old) (hold : old.isExited = false) {feed : Chan FeedItem}
    {events : Chan ExecuteResponse} {total sent failed : Nat}
    (hclosed : feed.closed = s.feed.closed) (hbuf : s.feed.buf = [] → feed.buf = [])
    (htaken : feed.received.length + old.held + s.total = s.feed.received.length + new.held + total)
    (hcounted : total + old.busy + s.sent + s.failed = s.total + new.busy + sent + failed)
    (hexited : new = .exited → s.cancelled = true ∨ s.feed.closed = true ∧ s.feed.buf = []) :
    ({ s.setWorker i new with
      feed := feed
      events := events
      total := total
      sent := sent
      failed := failed } : BuiltinRun).Accounts where
  staffed := fun hnil => h.staffed (by simpa [setWorker] using hnil)
  taken := by
    have hheld := Slots.sum_set FeedWorker.held new hi
    have := h.taken
    show feed.received.length = ((s.workers.set i new).map FeedWorker.held).sum + total
    omega
  counted := by
    have hbusy := Slots.sum_set FeedWorker.busy new hi
    have := h.counted
    show total = ((s.workers.set i new).map FeedWorker.busy).sum + sent + failed
    omega
  exited := by
    intro hx
    have hold : s.cancelled = true ∨ s.feed.closed = true ∧ s.feed.buf = [] := by
      rcases List.mem_or_eq_of_mem_set hx with hx | hx
      · exact h.exited hx
      · exact hexited hx.symm
    exact hold.imp id fun hend => ⟨hclosed.trans hend.1, hbuf hend.2⟩
  result := by
    intro r hr
    have hsome : s.result = some r := hr
    rw [h.unfinished hi hold] at hsome
    cases hsome
  summed := by
    intro sum hr
    have hsome : s.result = some (.ok sum) := hr
    rw [h.unfinished hi hold] at hsome
    cases hsome

theorem Accounts.receive (h : s.Accounts) (hs : s.receive i = some s') : s'.Accounts := by
  unfold BuiltinRun.receive at hs
  split at hs
  · rename_i hi
    split at hs
    · rename_i item c hrecv
      cases hs
      obtain ⟨-, hrec, hbuf, hclosed, -⟩ := Chan.recv_some hrecv
      refine h.moveWorker (.holding item) hi rfl hclosed ?_ ?_ rfl nofun
      · exact fun hb => by rw [hb] at hbuf; cases hbuf
      · rw [hrec, List.length_append]
        rfl
    · rename_i hrecv
      obtain ⟨hclosed, rfl⟩ := Option.ite_some_none_eq_some.mp hs
      exact h.moveWorker .exited hi rfl rfl id rfl rfl fun _ =>
        Or.inr ⟨hclosed, Chan.buf_of_recv_none hrecv⟩
  · cases hs

theorem Accounts.check (h : s.Accounts) (hd : s.draining = false) (hs : s.check i = some s') :
    s'.Accounts := by
  unfold BuiltinRun.check at hs
  split at hs
  · rename_i item hi
    rw [hd] at hs
    cases hs
    refine h.moveWorker (.sending item) hi rfl rfl id ?_ ?_ nofun
    · simp only [FeedWorker.held, setWorker]
      omega
    · simp only [FeedWorker.busy, setWorker]
  · cases hs

theorem Accounts.sendReturns (h : s.Accounts) {r : Except Error Int64}
    (hs : s.sendReturns i r = some s') : s'.Accounts := by
  unfold BuiltinRun.sendReturns at hs
  split at hs
  · rename_i item hi
    cases r with
    | error err =>
        cases hs
        refine h.moveWorker (.reporting _) hi rfl rfl id rfl ?_ nofun
        simp only [FeedWorker.busy, setWorker]
        omega
    | ok status =>
        cases hs
        refine h.moveWorker (.reporting _) hi rfl rfl id rfl ?_ nofun
        simp only [FeedWorker.busy, setWorker]
        omega
  · cases hs

theorem Accounts.report (h : s.Accounts) (hs : s.report i = some s') : s'.Accounts := by
  unfold BuiltinRun.report at hs
  split at hs
  · rename_i r hi
    obtain ⟨c, -, rfl⟩ := Option.map_eq_some_iff.mp hs
    exact h.moveWorker .receiving hi rfl rfl id rfl rfl nofun
  · cases hs

theorem Accounts.leave (h : s.Accounts) (hs : s.leave i = some s') : s'.Accounts := by
  unfold BuiltinRun.leave at hs
  split at hs
  · rename_i r hi
    obtain ⟨hcancelled, rfl⟩ := Option.ite_some_none_eq_some.mp hs
    exact h.moveWorker .exited hi rfl rfl id rfl rfl fun _ => Or.inl hcancelled
  · cases hs

theorem Accounts.finish (h : s.Accounts) (hs : s.finish = some s') : s'.Accounts := by
  unfold BuiltinRun.finish at hs
  split at hs
  · rename_i hwaited
    obtain ⟨c, -, rfl⟩ := Option.map_eq_some_iff.mp hs
    have hall := (Bool.and_eq_true_iff.mp hwaited).1
    refine { h with result := fun _ _ => hall, summed := ?_ }
    rintro sum ⟨⟩
    rfl
  · cases hs

theorem Accounts.giveUp (h : s.Accounts) (hs : s.giveUp = some s') : s'.Accounts := by
  obtain ⟨hwaited, rfl⟩ := Option.ite_some_none_eq_some.mp hs
  have hall := (Bool.and_eq_true_iff.mp (Bool.and_eq_true_iff.mp hwaited).1).1
  exact { h with result := fun _ _ => hall, summed := nofun }

theorem Accounts.act (h : s.Accounts) {a : BuiltinAct} (hok : Undrained a s)
    (hs : s.act a = some s') : s'.Accounts := by
  cases a with
  | feed item =>
      simp only [BuiltinRun.act] at hs
      split at hs
      · cases hs
      · rename_i hopen
        obtain ⟨c, hc, rfl⟩ := Option.map_eq_some_iff.mp hs
        obtain ⟨-, hrec, -, hclosed, -⟩ := Chan.send_some hc
        refine { h with taken := ?_, exited := ?_ }
        · rw [hrec]
          exact h.taken
        · intro hx
          rcases h.exited hx with hcancelled | ⟨hclosed, -⟩
          · exact Or.inl hcancelled
          · exact absurd hclosed hopen
  | closeFeed =>
      cases hs
      exact { h with exited := fun hx => (h.exited hx).imp id fun hend => ⟨rfl, hend.2⟩ }
  | drain =>
      cases hs
      exact { h with }
  | cancel =>
      cases hs
      exact { h with exited := fun _ => Or.inl rfl }
  | receive i => exact h.receive hs
  | check i => exact h.check hok hs
  | sent i r => exact h.sendReturns hs
  | report i => exact h.report hs
  | leave i => exact h.leave hs
  | deliver =>
      obtain ⟨p, -, rfl⟩ := Option.map_eq_some_iff.mp hs
      exact { h with }
  | finish => exact h.finish hs
  | giveUp => exact h.giveUp hs

/-- The summary accounts for all that was taken from the feed, which is all of it in a run that is
not cancelled. -/
def Whole (s : BuiltinRun) (sum : RunSummary) : Prop :=
  sum.totalRequests = sum.sentRequests + sum.failedRequests
    ∧ sum.totalRequests = s.feed.received.length
    ∧ (s.cancelled = false → s.feed.received = s.feed.sent)

theorem Accounts.whole (h : s.Accounts) {sum : RunSummary} (hr : s.result = some (.ok sum)) :
    s.Whole sum := by
  have hexited : ∀ w ∈ s.workers, w = .exited := by
    intro w hw
    cases w with
    | exited => rfl
    | _ => cases List.all_eq_true.mp (h.result _ hr) _ hw
  have hzero : ∀ {g : FeedWorker → Nat}, g .exited = 0 → (s.workers.map g).sum = 0 := fun hg =>
    Slots.sum_eq_zero fun w hw => by rw [hexited w hw, hg]
  have htaken := h.taken
  have hcounted := h.counted
  rw [hzero rfl, Nat.zero_add] at htaken hcounted
  rw [h.summed sum hr]
  refine ⟨hcounted, htaken.symm, fun hlive => ?_⟩
  obtain ⟨w, hw⟩ := List.exists_mem_of_ne_nil _ h.staffed
  rcases h.exited (hexited w hw ▸ hw) with hcancelled | ⟨-, hbuf⟩
  · rw [hlive] at hcancelled
    cases hcancelled
  · exact (Chan.sent_of_buf_nil hbuf).symm

/-- **In every run in which no worker finds the engine draining, the summary accounts for the
feed.** -/
theorem undrained_run_is_whole (concurrency : Int32)
    (h : Steps.Reach act Undrained (start concurrency) s) {sum : RunSummary}
    (hr : s.result = some (.ok sum)) : s.Whole sum :=
  (h.holds (accounts_start concurrency) fun _ _ _ hok hact haccounts =>
    haccounts.act hok hact).whole hr

def firstItem : FeedItem := ⟨lit "a", lit "HTTP", lit "GET", lit "/", [], [], [], none, 0⟩

/-- One item is sent, and one fails. -/
theorem undrained_run_of_two :
    ∃ s, Steps.Reach act Undrained (start 1) s ∧ s.feed.received.length = 2
    ∧ s.result = some (.ok ⟨2, 1, 1⟩) ∧ s.Whole ⟨2, 1, 1⟩ := by
  obtain ⟨s, hreach, hlen, hr⟩ := Steps.exists_run act Undrained (start 1)
    [.feed firstItem, .feed firstItem, .receive 0, .check 0, .sent 0 (.ok 200), .report 0,
      .receive 0, .check 0, .sent 0 (.error (.new "connection refused")), .report 0, .drain,
      .closeFeed, .receive 0, .finish]
    (fun s => s.feed.received.length = 2 ∧ s.result = some (.ok ⟨2, 1, 1⟩)) (by decide +kernel)
  exact ⟨s, hreach, hlen, hr, undrained_run_is_whole 1 hreach hr⟩

/-- **The engine is drained while it has an item of the feed, and the summary knows of none.** -/
theorem drained_run_drops : ∃ s, Steps.Reach act (fun _ _ => True) (start 1) s ∧ s.cancelled = false
    ∧ s.feed.received = [firstItem] ∧ s.result = some (.ok ⟨0, 0, 0⟩) ∧ ¬ s.Whole ⟨0, 0, 0⟩ := by
  obtain ⟨s, hreach, hlive, hrec, hr⟩ := Steps.exists_run act (fun _ _ => True) (start 1)
    [.feed firstItem, .drain, .receive 0, .check 0, .closeFeed, .receive 0, .finish]
    (fun s => s.cancelled = false ∧ s.feed.received = [firstItem] ∧ s.result = some (.ok ⟨0, 0, 0⟩))
    (by decide +kernel)
  refine ⟨s, hreach, hlive, hrec, hr, fun hwhole => ?_⟩
  have hlen := hwhole.2.1
  rw [hrec] at hlen
  cases hlen

end BuiltinRun

end Kapture.Engines
