import Kapture.Replay.EngineRun
import Kapture.Replay.Sender

/-!
# The counters and the summary

What comes of a request is looked at twice: the send loop counts by the error that `Send` returns,
and the default result handler by the error in the result. `HTTPSender.Send` returns both. When the
client fails it returns the error twice; but **when a response cannot be read to its end, the error
is in the result only**, so the loop counts the request as sent and the handler as an error. Every
other outcome is counted alike, and nothing is counted twice or not at all.
-/

namespace Kapture.Replay

open Go Storage

/-- What comes of a request that is issued: an error of the client, or a response, whose body is
read as far as it goes. -/
inductive Exchange where
  | failed (err : Error)
  | answered (statusCode : Int64) (body : Str) (readErr : Option Error)
deriving DecidableEq, Repr

/-- `HTTPSender.Send`. -/
def HTTPSender.sendReturn (s : HTTPSender) (req : CapturedRequest) (x : Exchange) : SendReturn :=
  match s.send req with
  | .error err => (none, some err)
  | .ok _ =>
      match x with
      | .failed err => (some ⟨req.id, 0, [], some err⟩, some err)
      | .answered statusCode body readErr =>
          (some ⟨req.id, statusCode, body, readErr.map (Err.wrap "read response body")⟩, none)

/-- `replay.Summary`, without its times and without the errors by type. -/
structure Summary where
  totalRequests : Nat
  successCount : Nat
  errorCount : Nat
  filteredCount : Nat
  statusCodeDist : List (Int64 × Nat)
  bytesSent : Nat
deriving DecidableEq, Repr

/-- `dist[code]++`. -/
def countCode (code : Int64) : List (Int64 × Nat) → List (Int64 × Nat)
  | [] => [(code, 1)]
  | (c, n) :: rest => if c = code then (c, n + 1) :: rest else (c, n) :: countCode code rest

/-- One turn of the loop in `Summarize`. -/
def Summary.add (s : Summary) (r : ReplayResult) : Summary :=
  { s with
    successCount := if r.error.isSome then s.successCount else s.successCount + 1
    errorCount := if r.error.isSome then s.errorCount + 1 else s.errorCount
    statusCodeDist := if 0 < r.statusCode then countCode r.statusCode s.statusCodeDist
      else s.statusCodeDist
    bytesSent := s.bytesSent + r.responseBody.length }

/-- `defaultResultHandler.Summarize`, for what was handed to it. A result that is nil is read
through, and there is no summary. -/
def summarize (results : List (Option ReplayResult)) : Option Summary :=
  results.foldlM (fun s r => r.map s.add) ⟨results.length, 0, 0, 0, [], 0⟩

namespace EngineRun

variable {X : Type}

/-- What the result handler got. -/
def handedResults (send : CapturedRequest → X → SendReturn)
    (s : EngineRun X) : List (Option ReplayResult) :=
  s.results.map fun x => handedResult x.1 (send x.1 x.2)

/-- The summary that `Run` returns. -/
def summary (send : CapturedRequest → X → SendReturn) (s : EngineRun X) : Option Summary :=
  (summarize (s.handedResults send)).map fun sum => { sum with filteredCount := s.filtered }

end EngineRun

namespace HTTPSender

variable (sender : HTTPSender)

/-- The request was issued and answered, and its response could not be read to its end. -/
def cutShort (x : CapturedRequest × Exchange) : Bool :=
  match sender.send x.1, x.2 with
  | .ok _, .answered _ _ (some _) => true
  | _, _ => false

/-- What the result handler gets. -/
def outcome (x : CapturedRequest × Exchange) : ReplayResult :=
  match sender.send x.1 with
  | .error err => ⟨x.1.id, 0, [], some err⟩
  | .ok _ =>
      match x.2 with
      | .failed err => ⟨x.1.id, 0, [], some err⟩
      | .answered statusCode body readErr =>
          ⟨x.1.id, statusCode, body, readErr.map (Err.wrap "read response body")⟩

theorem handedResult_sendReturn (x : CapturedRequest × Exchange) :
    handedResult x.1 (sender.sendReturn x.1 x.2) = some (sender.outcome x) := by
  unfold sendReturn outcome
  split
  · rfl
  · split <;> rfl

/-- **The two looks at a request**: they differ when its response was cut short, and only then. -/
theorem looks (x : CapturedRequest × Exchange) :
    (if (sender.sendReturn x.1 x.2).2.isNone then 1 else 0)
      = (if (sender.outcome x).error.isNone then 1 else 0) + (if sender.cutShort x then 1 else 0)
    ∧ (if (sender.outcome x).error.isSome then 1 else 0)
      = (if (sender.sendReturn x.1 x.2).2.isSome then 1 else 0)
        + (if sender.cutShort x then 1 else 0)
    ∧ (if (sender.outcome x).error.isNone then 1 else 0)
      + (if (sender.outcome x).error.isSome then 1 else 0) = 1 := by
  unfold sendReturn outcome cutShort
  cases sender.send x.1 with
  | error err => exact ⟨rfl, rfl, rfl⟩
  | ok issued =>
      cases x.2 with
      | failed err => exact ⟨rfl, rfl, rfl⟩
      | answered statusCode body readErr =>
          cases readErr with
          | none => exact ⟨rfl, rfl, rfl⟩
          | some err => exact ⟨rfl, rfl, rfl⟩

end HTTPSender

/-! ## The summary -/

theorem foldlM_add (rs : List ReplayResult) (s : Summary) :
    (rs.map some).foldlM (fun s r => r.map s.add) s = some (rs.foldl Summary.add s) := by
  induction rs generalizing s with
  | nil => rfl
  | cons r rs ih => exact ih (s.add r)

/-- What `Summarize` counts. -/
theorem foldl_add (rs : List ReplayResult) (s : Summary) :
    (rs.foldl Summary.add s).totalRequests = s.totalRequests
    ∧ (rs.foldl Summary.add s).successCount = s.successCount + rs.countP (fun r => r.error.isNone)
    ∧ (rs.foldl Summary.add s).errorCount = s.errorCount + rs.countP fun r => r.error.isSome := by
  induction rs generalizing s with
  | nil => exact ⟨rfl, rfl, rfl⟩
  | cons r rs ih =>
      obtain ⟨htotal, hsuccess, herror⟩ := ih (s.add r)
      refine ⟨htotal, ?_, ?_⟩
      · rw [List.foldl_cons, hsuccess, List.countP_cons, Summary.add]
        cases r.error with
        | none => simp; omega
        | some err => simp
      · rw [List.foldl_cons, herror, List.countP_cons, Summary.add]
        cases r.error with
        | none => simp
        | some err => simp; omega

namespace HTTPSender

variable (sender : HTTPSender)

theorem summarize_outcomes (xs : List (CapturedRequest × Exchange)) :
    ∃ sum, summarize (xs.map fun x => handedResult x.1 (sender.sendReturn x.1 x.2)) = some sum
      ∧ sum.totalRequests = xs.length
      ∧ sum.successCount = xs.countP (fun x => (sender.outcome x).error.isNone)
      ∧ sum.errorCount = xs.countP fun x => (sender.outcome x).error.isSome := by
  have hhanded : (xs.map fun x => handedResult x.1 (sender.sendReturn x.1 x.2))
      = (xs.map sender.outcome).map some := by
    rw [List.map_map]
    exact List.map_congr_left fun x _ => sender.handedResult_sendReturn x
  obtain ⟨htotal, hsuccess, herror⟩ := foldl_add (xs.map sender.outcome) ⟨xs.length, 0, 0, 0, [], 0⟩
  refine ⟨_, ?_, htotal, hsuccess.trans ?_, herror.trans ?_⟩
  · rw [summarize, hhanded, foldlM_add, List.length_map, List.length_map]
  · rw [Nat.zero_add, List.countP_map]
    rfl
  · rw [Nat.zero_add, List.countP_map]
    rfl

/-- What the two counts make of a list of requests. -/
theorem counts (xs : List (CapturedRequest × Exchange)) :
    xs.countP (fun x => (sender.sendReturn x.1 x.2).2.isNone)
      = xs.countP (fun x => (sender.outcome x).error.isNone) + xs.countP sender.cutShort
    ∧ xs.countP (fun x => (sender.outcome x).error.isSome)
      = xs.countP (fun x => (sender.sendReturn x.1 x.2).2.isSome) + xs.countP sender.cutShort
    ∧ xs.countP (fun x => (sender.outcome x).error.isNone)
      + xs.countP (fun x => (sender.outcome x).error.isSome)
      = xs.length := by
  induction xs with
  | nil => exact ⟨rfl, rfl, rfl⟩
  | cons x xs ih =>
      obtain ⟨hsent, herror, htotal⟩ := ih
      obtain ⟨hsent₁, herror₁, htotal₁⟩ := sender.looks x
      simp only [List.countP_cons, List.length_cons]
      omega

end HTTPSender

/-- **The counters agree with the summary exactly when no response was cut short**, and the summary
counts every request that was handed to the sender, once. -/
theorem counters_agree_iff {e : Engine} (sender : HTTPSender) {s : EngineRun Exchange}
    (h : Steps.Reach (EngineRun.act e sender.sendReturn) (fun _ _ => True) (EngineRun.start e) s)
    (hr : s.result = some none) :
    ∃ sum, s.summary sender.sendReturn = some sum
      ∧ sum.totalRequests = sum.successCount + sum.errorCount
      ∧ sum.totalRequests = s.calls.length
      ∧ (s.sent = sum.successCount ∧ s.errors = sum.errorCount
        ↔ ∀ x ∈ s.results, sender.cutShort x = false) := by
  have hflow := EngineRun.flow_of_reach h
  have hcalled := hflow.called
  have hsent := hflow.sentCount
  have herrors := hflow.errorCount
  rw [hflow.ended hr fun _ => rfl, List.nil_append] at hcalled hsent herrors
  rw [← List.countP_eq_length_filter] at hsent herrors
  obtain ⟨sum, hsum, htotal, hsuccess, herror⟩ := sender.summarize_outcomes s.results
  obtain ⟨hc₁, hc₂, hc₃⟩ := sender.counts s.results
  refine ⟨{ sum with filteredCount := s.filtered }, ?_, ?_, ?_, ?_⟩
  · rw [EngineRun.summary, EngineRun.handedResults, hsum]
    rfl
  · show sum.totalRequests = sum.successCount + sum.errorCount
    omega
  · show sum.totalRequests = s.calls.length
    rw [htotal, ← hcalled.length_eq, List.length_map]
  · show s.sent = sum.successCount ∧ s.errors = sum.errorCount ↔ _
    have hzero : s.results.countP sender.cutShort = 0
        ↔ ∀ x ∈ s.results, sender.cutShort x = false := by
      rw [List.countP_eq_zero]
      exact forall₂_congr fun x _ => Bool.not_eq_true _ ▸ Iff.rfl
    rw [← hzero]
    omega

/-- A sender to a target. -/
def toTarget : HTTPSender := ⟨lit "http://target", []⟩

/-- A run with one request, and what comes of it. -/
def oneExchange (x : Exchange) : List (EngineAct Exchange) :=
  [.look, .next (.ok EngineRun.firstRequest), .hand, .receive 0, .check 0, .look,
    .next (.error errReaderDone), .sent 0 x, .handled 0, .close, .receive 0, .finish]

/-- The target cannot be reached, and both count an error. -/
theorem counters_agree_on_failure :
    ∃ s, Steps.Reach (EngineRun.act EngineRun.plainEngine toTarget.sendReturn)
      (fun _ _ => True) (EngineRun.start EngineRun.plainEngine) s
    ∧ s.result = some none ∧ (∀ x ∈ s.results, toTarget.cutShort x = false)
    ∧ ∃ sum, s.summary toTarget.sendReturn = some sum ∧ s.sent = sum.successCount
    ∧ s.errors = sum.errorCount := by
  obtain ⟨s, hreach, hr, hwhole⟩ :=
    Steps.exists_run (EngineRun.act EngineRun.plainEngine toTarget.sendReturn)
      (fun _ _ => True) (EngineRun.start EngineRun.plainEngine)
        (oneExchange (.failed (.new "connection refused")))
      (fun s => s.result = some none ∧ ∀ x ∈ s.results, toTarget.cutShort x = false)
      (by decide +kernel)
  obtain ⟨sum, hsum, -, -, hagree⟩ := counters_agree_iff toTarget hreach hr
  exact ⟨s, hreach, hr, hwhole, sum, hsum, hagree.mpr hwhole⟩

/-- **A response that ends too early is counted as sent, and the summary has an error and no
success.** -/
theorem counters_differ : ∃ s, Steps.Reach (EngineRun.act EngineRun.plainEngine toTarget.sendReturn)
      (fun _ _ => True) (EngineRun.start EngineRun.plainEngine) s
    ∧ s.cancelled = false ∧ s.result = some none ∧ s.sent = 1 ∧ s.errors = 0
    ∧ s.summary toTarget.sendReturn = some ⟨1, 0, 1, 0, [(200, 1)], 2⟩ :=
  Steps.exists_run (EngineRun.act EngineRun.plainEngine toTarget.sendReturn)
    (fun _ _ => True) (EngineRun.start EngineRun.plainEngine)
      (oneExchange (.answered 200 (lit "ok") (some errUnexpectedEOF)))
    (fun s => s.cancelled = false ∧ s.result = some none ∧ s.sent = 1 ∧ s.errors = 0
      ∧ s.summary toTarget.sendReturn = some ⟨1, 0, 1, 0, [(200, 1)], 2⟩) (by decide +kernel)

end Kapture.Replay
