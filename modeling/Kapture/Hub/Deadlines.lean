import Kapture.Hub.Phases
import Kapture.Hub.Rollup

/-!
# The longest duration of a run

`shouldAbort` looks at `maxDuration` only if the run is `Distributing` or `Running`, and
which phase that is was settled by earlier passes and by `aggregate` just before. A
reconcile that finds no gRPC server writes `Pending` over either of them, and it stays
`Pending` until some shard is reported as running or over. **Until then a run may last
as long as it likes.**

The statement is about a reconcile from its first operation on, by what it finds: the load
test, the server, the reports. It comes to `judge` whatever else it is told, and all that is
left to be known there is the time.
-/

namespace Kapture.Hub

open Go Storage Conc

/-- The program sends `d` to each of the spokes, whatever comes of the ones before. -/
def Attempts {β : Type} (d : ReplayDirective) : List Str → Pass β → Prop
  | [], _ => True
  | id :: rest, p => ∃ srv k, p = (sendReplayDirective srv id d).bind k ∧ ∀ r, Attempts d rest (k r)

/-- The spokes a load test has shards on. -/
def CaptureLoadTest.spokes (lt : CaptureLoadTest) : List Str :=
  lt.status.assignments.map (·.spokeID)

theorem attempts_stopShards {β : Type} (srv : Nat) (lt : CaptureLoadTest)
    (todo : List LoadTestAssignment) (b : Bool) (f : Bool → Pass β) :
    Attempts (stopDirective lt) (todo.map (·.spokeID)) ((stopShards srv lt todo b).bind f) := by
  induction todo generalizing b with
  | nil => trivial
  | cons a rest ih => exact ⟨srv, _, Prog.bind_assoc _ _ _, fun r => ih _⟩

/-- A directive is sent by looking its spoke up, so a program that starts otherwise has
nobody to send to. -/
theorem not_attempts {β : Type} {d : ReplayDirective} {ids : List Str} (hid : ∃ id ∈ ids, id ≠ [])
    {op : HubOp} {k : op.Ans → Pass β} (hop : ∀ srv id, op ≠ .findSpoke srv id d) :
    ¬ Attempts d ids (.call op k) := by
  induction ids with
  | nil => simp at hid
  | cons id rest ih =>
      rintro ⟨srv, k', hp, hrest⟩
      by_cases hne : id = []
      · subst hne
        have hid' : ∃ id ∈ rest, id ≠ [] := by
          obtain ⟨x, hx, hxne⟩ := hid
          rcases List.mem_cons.mp hx with rfl | hx
          · exact absurd rfl hxne
          · exact ⟨x, hx, hxne⟩
        have heq : Prog.call op k = k' .invalidArgument := hp
        exact ih hid' (heq ▸ hrest _)
      · rw [sendReplayDirective, if_neg hne] at hp
        exact hop srv id (Prog.call.inj hp).1

/-! ## What a reconcile does with the time -/

/-- How a reconcile goes on when it has the time at which it judges the run. -/
def verdict (srv : Nat) (lt : CaptureLoadTest) (statuses : List ReplayStatusSnapshot)
    (t₁ t₂ : Time) : Pass Result :=
  match shouldAbort lt.spec (lt.aggregated statuses t₁).status t₂ with
  | some reason => abortRun srv (lt.aggregated statuses t₁) reason
  | none => writeStatus (lt.aggregated statuses t₁)
      (if (lt.aggregated statuses t₁).status.phase.terminal then .done else .requeue)

theorem attempts_verdict {srv : Nat} {lt : CaptureLoadTest} {statuses : List ReplayStatusSnapshot}
    {t₁ t₂ : Time} (h : (shouldAbort lt.spec (aggregate lt.status statuses t₁) t₂).isSome) :
    Attempts (stopDirective lt) lt.spokes (verdict srv lt statuses t₁ t₂) := by
  obtain ⟨reason, hreason⟩ := Option.isSome_iff_exists.mp h
  rw [verdict, show shouldAbort lt.spec (lt.aggregated statuses t₁).status t₂ = some reason
    from hreason]
  exact attempts_stopShards srv (lt.aggregated statuses t₁) lt.status.assignments true _

theorem not_attempts_verdict {srv : Nat} {lt : CaptureLoadTest}
    {statuses : List ReplayStatusSnapshot} {t₁ t₂ : Time} (hid : ∃ id ∈ lt.spokes, id ≠ [])
    (h : shouldAbort lt.spec (aggregate lt.status statuses t₁) t₂ = none) :
    ¬ Attempts (stopDirective lt) lt.spokes (verdict srv lt statuses t₁ t₂) := by
  rw [verdict, show shouldAbort lt.spec (lt.aggregated statuses t₁).status t₂ = none from h]
  exact not_attempts hid nofun

/-! ## Where a reconcile judges -/

/-- What a reconcile finds: the load test, the server and the reports. A finalizer that is
missing can be added. -/
def Finds (lt : CaptureLoadTest) (srv : Nat) (statuses : List ReplayStatusSnapshot) :
    (op : HubOp) → op.Ans → Prop
  | .get _, r => r = .ok (some lt)
  | .server, r => r = some srv
  | .update new, r => ∃ version, r = some { new with resourceVersion := version }
  | .replayStatuses .., r => r = statuses
  | _, _ => True

/-- The next operation judges the run. If that is late, a `STOP` is sent to every spoke, provided
that the run was found under way or is reported to be, and not as many shards are reported to be
over as there are; and only then, if there is a spoke that can be sent to. -/
def StopsLate (lt : CaptureLoadTest) (statuses : List ReplayStatusSnapshot) :
    (op : HubOp) → (op.Ans → Pass Result) → Prop
  | .judge .., k => ∀ now, Late lt now →
      (ShownLive lt statuses ∧ ¬ CountedOver lt statuses →
        Attempts (stopDirective lt) lt.spokes (k now)) ∧
      ((∃ id ∈ lt.spokes, id ≠ []) → Attempts (stopDirective lt) lt.spokes (k now) →
        ShownLive lt statuses ∧ ¬ CountedOver lt statuses)
  | _, _ => False

theorem stopsLate_verdict (srv : Nat) (lt : CaptureLoadTest)
    (statuses : List ReplayStatusSnapshot) (t₁ : Time) :
    StopsLate lt statuses (.judge lt statuses) (verdict srv lt statuses t₁) := by
  intro now hlate
  refine ⟨fun hcond => ?_, fun hid hatt => ?_⟩
  · exact attempts_verdict (shouldAbort_isSome_iff.mpr ⟨hcond, .inl hlate⟩)
  · refine Classical.byContradiction fun hno => not_attempts_verdict hid ?_ hatt
    exact Option.not_isSome_iff_eq_none.mp fun hsome => hno (shouldAbort_isSome_iff.mp hsome).1

section Comes

variable {lt lt₀ : CaptureLoadTest} {srv : Nat} {statuses : List ReplayStatusSnapshot}

/-- Neither a `START` that fails nor the time keeps it from judging. -/
theorem comes_superviseRun :
    (superviseRun srv lt).Comes (Finds lt₀ srv statuses) (StopsLate lt statuses) := by
  refine .inr fun r hr => ?_
  obtain rfl : r = statuses := hr
  refine Prog.comes_bind _ fun _ => .inr fun t₁ _ => .inl ?_
  exact stopsLate_verdict srv lt r t₁

theorem comes_reconcileLive (lt : CaptureLoadTest) (hterm : lt.status.phase.terminal = false)
    (hallowed : targetDenied lt.spec = false) (hplanned : lt.status.assignments ≠ []) :
    (reconcileLive (some srv) lt).Comes (Finds lt₀ srv statuses) (StopsLate lt statuses) := by
  unfold reconcileLive
  rw [hterm, if_neg Bool.false_ne_true, hallowed, if_neg Bool.false_ne_true]
  dsimp only
  unfold distribute
  rw [if_neg hplanned]
  exact comes_superviseRun

theorem comes_reconcile (key : Key) (hkept : lt.deleting = false)
    (hterm : lt.status.phase.terminal = false) (hallowed : targetDenied lt.spec = false)
    (hplanned : lt.status.assignments ≠ []) :
    (reconcile key).Comes (Finds lt srv statuses) (StopsLate lt statuses) := by
  refine .inr fun r hr => ?_
  obtain rfl : r = .ok (some lt) := hr
  refine .inr fun r hr => ?_
  obtain rfl : r = some srv := hr
  dsimp only
  rw [if_neg (Bool.not_eq_true _ ▸ hkept)]
  by_cases hfin : lt.finalizer = true
  · rw [if_pos hfin]
    exact comes_reconcileLive lt hterm hallowed hplanned
  · rw [if_neg hfin]
    refine .inr fun r hr => ?_
    obtain ⟨version, rfl⟩ :
        ∃ version, r = some { lt with finalizer := true, resourceVersion := version } := hr
    -- the finalizer and the version are all that has changed
    exact comes_reconcileLive { lt with finalizer := true, resourceVersion := version } hterm
      hallowed hplanned

end Comes

/-- **A late run is stopped**: a reconcile that finds a server and a run that is allowed and not
over comes to judge it, whatever it is told on the way, and if more than `maxDuration` has passed
then, it sends a `STOP` to every spoke as `StopsLate` says. In a run in which every reconcile that
reads a run under way finds the server, what it reads is under way. -/
theorem late_run_stopped (key : Key) {lt : CaptureLoadTest} (hkept : lt.deleting = false)
    (hterm : lt.status.phase.terminal = false) (hallowed : targetDenied lt.spec = false)
    (hplanned : lt.status.assignments ≠ []) :
    (∀ srv statuses, (reconcile key).Comes (Finds lt srv statuses) (StopsLate lt statuses)) ∧
      ∀ c, Reaches (fun l s => serverWhileLive l s = true) c → c.state.api.find key = some lt →
        lt.status.phase.live = true := by
  refine ⟨fun srv statuses => comes_reconcile key hkept hterm hallowed hplanned, ?_⟩
  intro c hc hfind
  rcases ((reaches_phaseInv hc).objects hfind).phased.shown hplanned with hlive | hover
  · exact hlive
  · rw [hterm] at hover
    cases hover

/-- A load test as it is stored in some state. -/
def stored (P : CaptureLoadTest → Bool) (s : Coord) : Bool := (s.api.find smallKey).any P

/-- The limit and the start of a run, and its one spoke; it is not over, and nobody deletes it. -/
def overMinute (lt : CaptureLoadTest) : Bool :=
  lt.spec == smallTest && lt.status.startTime == some 0 && lt.spokes == [lit "east"]
    && !lt.deleting && !lt.status.phase.terminal && lt.status.totalShards == 1

structure OverMinute (lt : CaptureLoadTest) : Prop where
  late : Late lt 70000000000
  spokes : lt.spokes = [lit "east"]
  kept : lt.deleting = false
  unfinished : lt.status.phase.terminal = false
  allowed : targetDenied lt.spec = false
  planned : lt.status.assignments ≠ []
  uncounted : ¬ CountedOver lt []

theorem overMinute_spec {lt : CaptureLoadTest} (h : overMinute lt = true) : OverMinute lt := by
  unfold overMinute at h
  simp only [Bool.and_eq_true, beq_iff_eq, Bool.not_eq_true'] at h
  obtain ⟨⟨⟨⟨⟨hspec, hstart⟩, hspokes⟩, hkept⟩, hterm⟩, htotal⟩ := h
  refine ⟨⟨⟨some 60000000000, some 50, some 10⟩, ?_, 60000000000, rfl, 0, hstart, by decide⟩,
    hspokes, hkept, hterm, ?_, ?_, ?_⟩
  · rw [hspec]
    rfl
  · rw [hspec]
    decide +kernel
  · intro hnil
    rw [CaptureLoadTest.spokes, hnil] at hspokes
    cases hspokes
  · rintro ⟨_, h⟩
    rw [htotal] at h
    exact absurd h (by decide)

/-- After a minute of a run that nobody has reported on. -/
theorem late_run_stopped_minute : ∃ c lt, Reaches (fun l s => serverWhileLive l s = true) c ∧
    c.state.api.find smallKey = some lt ∧ OverMinute lt ∧ ShownLive lt [] ∧
    (reconcile smallKey).Comes (Finds lt 0 []) (StopsLate lt []) := by
  obtain ⟨c, hc, hP⟩ :=
    exists_run serverWhileLive startedRun (stored overMinute) (by decide +kernel)
  obtain ⟨lt, hfind, hover⟩ := (Option.any_eq_true _ _).mp hP
  have h := overMinute_spec hover
  obtain ⟨hcomes, hlive⟩ := late_run_stopped smallKey h.kept h.unfinished h.allowed h.planned
  exact ⟨c, lt, hc, hfind, h, .inl (hlive c hc hfind), hcomes 0 []⟩

/-- The next operation judges a run, and nothing is sent by the given time. -/
def GoesOn (lt : CaptureLoadTest) (now : Time) : (op : HubOp) → (op.Ans → Pass Result) → Prop
  | .judge .., k => ¬ Attempts (stopDirective lt) lt.spokes (k now)
  | _, _ => False

/-- The server was away for one reconcile, and no report has reached the new one: the next
reconcile judges the run after a minute, and it goes on. -/
theorem late_run_goes_on : ∃ c lt, Reaches Machine.always c ∧
    c.state.api.find smallKey = some lt ∧ c.state.server = some 1 ∧ OverMinute lt ∧
    ¬ AllShards ReplayPhase.over lt.status.assignments [] ∧
    (reconcile smallKey).Comes (Finds lt 1 []) (GoesOn lt 70000000000) := by
  obtain ⟨c, hc, hP⟩ := exists_free_run
    (startedRun ++ [.act .stopServer] ++ readPass ++ [.op (.api .ok), .leave]
      ++ [.act .startServer])
    (fun s => s.server == some 1 && stored (fun lt => overMinute lt && !lt.status.phase.live
      && missingShards ReplayPhase.over lt.status.assignments [] == 1) s) (by decide +kernel)
  rw [Bool.and_eq_true, beq_iff_eq] at hP
  obtain ⟨lt, hfind, hlt⟩ := (Option.any_eq_true _ _).mp hP.2
  rw [Bool.and_eq_true, Bool.and_eq_true, Bool.not_eq_true', beq_iff_eq] at hlt
  obtain ⟨⟨hover, hlive⟩, hmissing⟩ := hlt
  have h := overMinute_spec hover
  refine ⟨c, lt, hc, hfind, hP.1, h, ?_, ?_⟩
  · rw [← missingShards_eq_zero, hmissing]
    decide
  · refine (comes_reconcile smallKey h.kept h.unfinished h.allowed h.planned).mono ?_
    intro op k hstops
    cases op with
    | judge lt' statuses' =>
        intro hatt
        have hid : ∃ id ∈ lt.spokes, id ≠ [] := by
          rw [h.spokes]
          exact ⟨_, List.mem_singleton.mpr rfl, by decide⟩
        rcases ((hstops _ h.late).2 hid hatt).1 with hl | hl
        · rw [hlive] at hl
          cases hl
        · exact absurd hl (by decide)
    | _ => exact hstops

end Kapture.Hub
