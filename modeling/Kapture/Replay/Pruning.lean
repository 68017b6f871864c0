import Kapture.Storage.Restart

/-!
# Pruning by date

`filterObjectByTime` looks at the first element of a key that is a date. The writers put the
date of the upload there, but a date in the prefix, the mount path or the capture ID comes
before it. And the requests in an object are older than its upload: a request from before
midnight that is uploaded after midnight lies under the next day, and a reader whose range ends
before midnight does not open the object.

The start of the range does no harm, since no request is younger than its upload. So an object
with a request in the range is opened as long as its day is not after the last day of the range
(`DateKept`), and `pruning_sound_iff` says that **this is what it takes**, for every session of
every writer.
-/

namespace Kapture.Storage

open Go

variable {env : Env} {f : WriterFactory} {J : Codec} {t : Tape} {c : Call}

/-! ## The object of an upload -/

/-- The requests in the object that an upload left. -/
def Attempt.holds (J : Codec) (a : Attempt) : List CapturedRequest :=
  contents J (a.outcome.leaves (.gz (.gzip (encode J a.reqs) none)))

/-- A property of all uploads of a session, call by call. -/
theorem attempts_run_iff (Q : Attempt → Prop) (t : Tape) (calls : List Call) :
    (∀ a ∈ (t.run env f J calls).attempts, Q a)
      ↔ (∀ a ∈ t.attempts, Q a)
        ∧ t.Meets env f J (fun t c => ∀ a ∈ t.tries env J c, Q a) calls := by
  induction calls generalizing t with
  | nil => exact (and_iff_left trivial).symm
  | cons c calls ih =>
      have hstep : (∀ a ∈ (t.step env f J c).attempts, Q a)
          ↔ (∀ a ∈ t.attempts, Q a) ∧ ∀ a ∈ t.tries env J c, Q a := by
        change (∀ a ∈ t.attempts ++ (t.tries env J c).toList, Q a) ↔ _
        simp only [List.mem_append, Option.mem_toList, Option.mem_def, or_imp, forall_and]
      exact (ih _).trans ((and_congr_left fun _ => hstep).trans and_assoc)

end Kapture.Storage

namespace Kapture.Replay

open Go Path Storage

variable {env : Env} {f : WriterFactory} {J : Codec}

/-! ## The date of a key -/

theorem keyDate_eq (key : Str) :
    keyDate key = (Str.split key).findSome? fun part =>
      (parseDate part).map (· * dayDuration) := rfl

theorem keyDate_clean {dir : Str} (hne : dir ≠ []) :
    keyDate (clean dir)
      = (stack dir).reverse.findSome? fun part => (parseDate part).map (· * dayDuration) := by
  by_cases hst : stack dir = []
  · rw [clean, if_neg hne, hst]
    cases rooted dir with
    | true => rfl
    | false => rfl
  · rw [keyDate_eq, split_clean hne hst]
    cases rooted dir with
    | true => rfl
    | false => rfl

/-- A file name is no date. -/
theorem parseDate_objectFileName (pod : Str) (seq : Nat) :
    parseDate (objectFileName pod seq) = none := by
  cases hp : parseDate (objectFileName pod seq) with
  | none => rfl
  | some d =>
      obtain ⟨-, b, hb, hdigit⟩ := parseDate_some hp
      have hz : (objectFileName pod seq).getLast? = some 122 := by
        rw [objectFileName_eq, fileTail, ← List.append_assoc]
        exact List.getLast?_append_of_ne_nil _ (by decide)
      rw [hz] at hb
      cases hb
      exact absurd hdigit (by decide)

/-- **The date of an object**: the first one in its directory, and otherwise the day of the
upload. -/
theorem keyDate_objectName {b : Backend} {captureID pod : Str} (hid : captureID ≠ [])
    (hpod : Str.slash ∉ pod) (ts : Time) (seq : Nat) :
    keyDate (b.objectName captureID pod ts seq)
      = (keyDate (clean (capturePath b captureID))).or
          (if FourDigitYear ts.day then some (ts.day * dayDuration) else none) := by
  have hnormal : ∀ e ∈ [dateOf ts, objectFileName pod seq], Normal e := by
    intro e he
    rcases List.mem_cons.mp he with rfl | he
    · exact normal_dateOf ts
    · rw [List.mem_singleton.mp he]
      exact normal_objectFileName hpod seq
  have hdate : (parseDate (dateOf ts)).map (· * dayDuration)
      = if FourDigitYear ts.day then some (ts.day * dayDuration) else none := by
    by_cases hy : FourDigitYear ts.day
    · rw [if_pos hy, dateOf, parseDate_format hy]
      rfl
    · rw [if_neg hy, dateOf, parseDate_format_long hy]
      rfl
  rw [objectName_eq hid hpod, keyDate_eq, split_dirPrefix hnormal (List.cons_ne_nil _ _),
    keyDate_clean (capturePath_ne_nil hid), List.findSome?_append, List.findSome?_append, ← hdate]
  have hroot : (if rooted (capturePath b captureID) then [([] : Str)] else []).findSome?
      (fun part => (parseDate part).map (· * dayDuration)) = none := by
    cases rooted (capturePath b captureID) with
    | true => rfl
    | false => rfl
  have htail : [dateOf ts, objectFileName pod seq].findSome?
      (fun part => (parseDate part).map (· * dayDuration))
      = (parseDate (dateOf ts)).map (· * dayDuration) := by
    rw [List.findSome?_cons, List.findSome?_cons, parseDate_objectFileName]
    cases (parseDate (dateOf ts)).map (· * dayDuration) with
    | none => rfl
    | some d => rfl
  rw [hroot, htail, Option.none_or]

/-! ## The filter -/

/-- A day is not outside a range, as far as the filter looks. -/
def InRange (opts : ReadOptions) (d : Time) : Prop :=
  (opts.startTime = 0 ∨ opts.startTime.truncateDay ≤ d)
    ∧ (opts.endTime = 0 ∨ d ≤ opts.endTime.truncateDay)

instance (opts : ReadOptions) (d : Time) : Decidable (InRange opts d) :=
  inferInstanceAs (Decidable (_ ∧ _))

theorem filterObjectByTime_iff (key : Str) (opts : ReadOptions) :
    filterObjectByTime key opts.startTime opts.endTime = true ↔ ∀ d, keyDate key = some d →
      InRange opts d := by
  unfold filterObjectByTime InRange
  simp only [Time.isZero]
  by_cases hs : opts.startTime = 0
  · by_cases he : opts.endTime = 0
    · simp [hs, he]
    · cases hk : keyDate key with
      | none => simp
      | some d => simp [hs, he]
  · cases hk : keyDate key with
    | none => simp
    | some d => simp [hs]

/-- A request in the range is not before its start. -/
theorem start_le_of_matches {r : CapturedRequest} {opts : ReadOptions}
    (h : matchesReadOptions r opts = true) : opts.startTime = 0 ∨ opts.startTime ≤ r.timestamp := by
  by_cases hs : opts.startTime = 0
  · exact Or.inl hs
  · refine Or.inr (Int.not_lt.mp fun hlt => ?_)
    simp [matchesReadOptions, Time.isZero, hs, hlt] at h

/-- The day of a range that an object is under, for the reader: a date in the directory of the
capture comes first, whatever was uploaded; without one the day of the upload is not after the
last day of the range. A year of five digits is not read as a date. -/
def DateKept (opts : ReadOptions) (dir : Str) (uploaded : Time) : Prop :=
  match keyDate (clean dir) with
  | some d => InRange opts d
  | none => opts.endTime = 0 ∨ ¬ FourDigitYear uploaded.day
      ∨ uploaded.day * dayDuration ≤ opts.endTime.truncateDay

instance (opts : ReadOptions) (dir : Str)
    (uploaded : Time) : Decidable (DateKept opts dir uploaded) := by
  unfold DateKept
  split
  · infer_instance
  · infer_instance

/-- The midnight before a time is not before that of an earlier time. -/
theorem truncateDay_le_day {s u : Time} (h : s ≤ u) : s.truncateDay ≤ u.day * dayDuration := by
  have hday : ∀ s u : Int, s ≤ u →
      s - s % 86400000000000 ≤ ((u / 86400000000000).toNat : Int) * 86400000000000 := by
    intro s u h
    omega
  exact hday s u h

/-- **An object with a request in the range is opened exactly if its date is kept.** -/
theorem filterObjectByTime_name_iff {captureID : Str} {opts : ReadOptions} {a : Attempt}
    {r : CapturedRequest} (hid : captureID ≠ []) (hpod : Str.slash ∉ f.agentPod)
    (htime : r.timestamp ≤ a.time) (hmatch : matchesReadOptions r opts = true) :
    filterObjectByTime (a.name f captureID) opts.startTime opts.endTime = true
      ↔ DateKept opts (capturePath f.backend captureID) a.time := by
  rw [filterObjectByTime_iff, Attempt.name, keyDate_objectName hid hpod, DateKept]
  cases keyDate (clean (capturePath f.backend captureID)) with
  | some d => simp
  | none =>
      rw [Option.none_or]
      by_cases hy : FourDigitYear a.time.day
      · have hstart : opts.startTime = 0 ∨ opts.startTime.truncateDay ≤ a.time.day * dayDuration :=
          (start_le_of_matches hmatch).imp_right fun hle => truncateDay_le_day (hle.trans htime)
        simp [hy, InRange, hstart]
      · simp [hy]

/-! ## Sessions -/

/-- **No object is pruned that has a request in the range.** The timestamp of a request is not
later than the upload. -/
def PruningSound (f : WriterFactory) (J : Codec) (captureID : Str) (opts : ReadOptions)
    (t : Tape) : Prop :=
  ∀ a ∈ t.attempts, ∀ r ∈ a.holds J, r.timestamp ≤ a.time → matchesReadOptions r opts = true →
    filterObjectByTime (a.name f captureID) opts.startTime opts.endTime = true

/-- If the call uploads a request in the range, the date of the object is kept. -/
def KeepsDate (env : Env) (f : WriterFactory) (J : Codec) (captureID : Str) (opts : ReadOptions)
    (t : Tape)
    (c : Call) : Prop :=
  ∀ a ∈ t.tries env J c, (∃ r ∈ a.holds J, r.timestamp ≤ a.time
    ∧ matchesReadOptions r opts = true) →
    DateKept opts (capturePath f.backend captureID) a.time

instance (env : Env) (f : WriterFactory) (J : Codec) (captureID : Str) (opts : ReadOptions)
    (t : Tape) (c : Call) :
    Decidable (KeepsDate env f J captureID opts t c) :=
  decidable_of_iff (∀ a ∈ (t.tries env J c).toList,
    (∃ r ∈ a.holds J, r.timestamp ≤ a.time ∧ matchesReadOptions r opts = true) →
      DateKept opts (capturePath f.backend captureID) a.time)
    (by simp only [Option.mem_toList, Option.mem_def, KeepsDate])

/-- **Pruning is sound for a session exactly if the date of every object with a request in the
range is kept**: for every backend, capture, clock, outcome of the uploads, and range. -/
theorem pruning_sound_iff (captureID : Str) (w₀ : World) {w : World} {wr : BufferedObjectWriter}
    (hpod : Str.slash ∉ f.agentPod) (hnew : newWriter env f captureID w₀ = (.ok wr, w))
    (calls : List Call) (opts : ReadOptions) :
    PruningSound f J captureID opts ((Tape.start wr w).run env f J calls)
      ↔ (Tape.start wr w).Meets env f J (KeepsDate env f J captureID opts) calls := by
  have hid := (newWriter_ok hnew).2.1
  have hattempt : ∀ a : Attempt, (∀ r ∈ a.holds J, r.timestamp ≤ a.time →
      matchesReadOptions r opts = true →
      filterObjectByTime (a.name f captureID) opts.startTime opts.endTime = true)
      ↔ ((∃ r ∈ a.holds J, r.timestamp ≤ a.time ∧ matchesReadOptions r opts = true) →
        DateKept opts (capturePath f.backend captureID) a.time) := by
    intro a
    constructor
    · rintro h ⟨r, hr, htime, hmatch⟩
      exact (filterObjectByTime_name_iff hid hpod htime hmatch).mp (h r hr htime hmatch)
    · intro h r hr htime hmatch
      exact (filterObjectByTime_name_iff hid hpod htime hmatch).mpr (h ⟨r, hr, htime, hmatch⟩)
  refine (attempts_run_iff _ _ _).trans
    ((and_iff_right fun a ha => absurd ha List.not_mem_nil).trans ?_)
  simp only [hattempt]
  rfl

/-! ## A request from before midnight -/

/-- A request of the last second of 2026-01-03. -/
def lateRequest : CapturedRequest :=
  ⟨lit "a", 739619 * dayDuration - 1000000000, lit "GET", lit "/", [], [], 0, lit "HTTP", []⟩

def lateCodec : Codec :=
  .ofTable [(lateRequest, plainLine lateRequest)] (by decide +kernel) (by decide +kernel)

/-- The clock stands still and every upload succeeds. -/
def stillEnv (now : Time) : Env := ⟨fun _ => now, fun _ => .stored⟩

/-- The range up to the end of 2026-01-03. -/
def untilMidnight : ReadOptions := ⟨lit "shop/cart", 0, 739619 * dayDuration - 1, [], [], 0⟩

theorem slash_notMem_bucketFactory : Str.slash ∉ bucketFactory.agentPod := by decide

/-- The request is uploaded before midnight. -/
theorem pruning_sound_before_midnight : ∃ t,
    cartSession (stillEnv (739619 * dayDuration - 1)) lateCodec emptyWorld [.write lateRequest,
      .close] = some t
      ∧ PruningSound bucketFactory lateCodec (lit "shop/cart") untilMidnight t := by
  refine ⟨_, rfl, ?_⟩
  refine (pruning_sound_iff (lit "shop/cart") emptyWorld slash_notMem_bucketFactory rfl _ _).mpr ?_
  decide +kernel

/-- **A request that is uploaded after midnight is lost to a range that ends at midnight.** -/
theorem pruned_after_midnight : matchesReadOptions lateRequest untilMidnight = true
    ∧ lateRequest.timestamp ≤ 739619 * dayDuration
    ∧ ∃ t, cartSession (stillEnv (739619 * dayDuration)) lateCodec emptyWorld [.write lateRequest,
      .close] = some t
      ∧ (t.attempts.map (Attempt.name bucketFactory (lit "shop/cart")))
          = [lit "data/shop/cart/2026-01-04/agent-0-000001.jsonl.gz"]
      ∧ contents lateCodec (t.w.store.get (lit "data/shop/cart/2026-01-04/agent-0-000001.jsonl.gz"))
          = [lateRequest]
      ∧ filterObjectByTime (lit "data/shop/cart/2026-01-04/agent-0-000001.jsonl.gz")
        untilMidnight.startTime
          untilMidnight.endTime = false
      ∧ ¬ PruningSound bucketFactory lateCodec (lit "shop/cart") untilMidnight t := by
  refine ⟨by decide +kernel, by decide, _, rfl, by decide +kernel, by decide +kernel,
    by decide +kernel, ?_⟩
  intro hsound
  have hpruned : ¬ ∀ a ∈ ((cartSession (stillEnv (739619 * dayDuration)) lateCodec emptyWorld
      [.write lateRequest, .close]).elim [] Tape.attempts),
      ∀ r ∈ a.holds lateCodec, r.timestamp ≤ a.time →
      matchesReadOptions r untilMidnight = true →
      filterObjectByTime (a.name bucketFactory (lit "shop/cart")) untilMidnight.startTime
        untilMidnight.endTime
        = true := by decide +kernel
  exact hpruned hsound

end Kapture.Replay
