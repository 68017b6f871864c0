import Kapture.Hub.Plan

/-!
# Rolling reports up

`aggregate` adds the snapshots of the shards up, for the load test and for each cell, and
decides from two counts whether the load test is over.

The counts do not look at whose snapshots they are. A snapshot of a spoke without an
assignment, or a second one of a shard, is a *surplus*; it can make up for a shard that has
sent none. So the verdict is about the shards exactly if the surplus cannot be taken for the
missing ones (`decided_per_shard_iff`).

The sums of a load test take in every snapshot, those of a cell only the ones that map to the
cell, and a spoke without an assignment maps to the cell with the empty name. So the cells add
up to the load test exactly if such spokes have nothing to add (`cells_add_up_iff`).
-/

namespace Kapture.Hub

open Go Storage

/-! ## The verdict -/

/-- The assigned shards, with their spokes. -/
def assignedPairs (assignments : List LoadTestAssignment) : List (Str × Int32) :=
  assignments.flatMap fun a => a.shardIndexes.map fun shard => (a.spokeID, shard)

def ReplayStatusSnapshot.pair (snap : ReplayStatusSnapshot) : Str × Int32 :=
  (snap.spokeID, snap.summary.shardIndex)

def ReplayPhase.over (p : ReplayPhase) : Bool := p == .completed || p == .failed

/-- The snapshots in a phase that meets `p`. -/
def reportsIn (p : ReplayPhase → Bool) (statuses : List ReplayStatusSnapshot) :
    List ReplayStatusSnapshot :=
  statuses.filter fun snap => p snap.summary.phase

/-- Every assigned shard has a snapshot from its spoke in a phase that meets `p`. -/
def AllShards (p : ReplayPhase → Bool) (assignments : List LoadTestAssignment)
    (statuses : List ReplayStatusSnapshot) : Prop :=
  ∀ pair ∈ assignedPairs assignments, ∃ snap ∈ statuses, snap.pair = pair
    ∧ p snap.summary.phase = true

/-- **The verdict is decided per assigned shard.** -/
structure DecidedPerShard (assignments : List LoadTestAssignment)
    (statuses : List ReplayStatusSnapshot)
    (phase : Phase) : Prop where
  completed : phase = .completed ↔ AllShards (· == .completed) assignments statuses
  failed : phase = .failed ↔
    ¬ AllShards (· == .completed) assignments statuses
      ∧ AllShards ReplayPhase.over assignments statuses

/-- The assigned shards without a snapshot in such a phase. -/
def missingShards (p : ReplayPhase → Bool) (assignments : List LoadTestAssignment)
    (statuses : List ReplayStatusSnapshot) : Nat :=
  Tally.missing ReplayStatusSnapshot.pair (assignedPairs assignments) (reportsIn p statuses)

/-- The snapshots in such a phase that come from no assigned shard, or are a further one of
theirs. -/
def surplusReports (p : ReplayPhase → Bool) (assignments : List LoadTestAssignment)
    (statuses : List ReplayStatusSnapshot) : Nat :=
  Tally.surplus ReplayStatusSnapshot.pair (assignedPairs assignments) (reportsIn p statuses)

/-- **The surplus is not taken for missing shards**, and does not hide that none is missing:
the numbers are compared as `int32`s. -/
structure Telling (p : ReplayPhase → Bool) (assignments : List LoadTestAssignment)
    (statuses : List ReplayStatusSnapshot) : Prop where
  all : missingShards p assignments statuses = 0 →
    0 < countShards assignments ∧ Int32.ofNat (surplusReports p assignments statuses) = 0
  some : missingShards p assignments statuses ≠ 0 → 0 < countShards assignments →
    Int32.ofNat (surplusReports p assignments statuses)
      ≠ Int32.ofNat (missingShards p assignments statuses)

variable {assignments : List LoadTestAssignment} {p : ReplayPhase → Bool}
  {statuses : List ReplayStatusSnapshot} {cells : List LoadTestCellStatus}

theorem missingShards_eq_zero :
    missingShards p assignments statuses = 0 ↔ AllShards p assignments statuses := by
  rw [missingShards, Tally.missing_eq_zero]
  constructor
  · intro h pair hpair
    obtain ⟨snap, hsnap, rfl⟩ := h pair hpair
    obtain ⟨hmem, hphase⟩ := List.mem_filter.mp hsnap
    exact ⟨snap, hmem, rfl, hphase⟩
  · intro h pair hpair
    obtain ⟨snap, hmem, rfl, hphase⟩ := h pair hpair
    exact ⟨snap, List.mem_filter.mpr ⟨hmem, hphase⟩, rfl⟩

theorem length_assignedPairs (assignments : List LoadTestAssignment) :
    (assignedPairs assignments).length = (allShards assignments).length := by
  rw [assignedPairs, allShards, List.length_flatMap, List.length_flatMap]
  simp only [List.length_map]

/-- The shards of one spoke are distinct, even where the counter wraps around. -/
theorem nodup_shardIndexes (next : Int32) {workers : Nat} (h : workers < 2 ^ 31) :
    (shardIndexes next workers).Nodup := by
  refine List.Nodup.map_on (fun v hv w hw heq => ?_) List.nodup_range
  have hv := List.mem_range.mp hv
  have hw := List.mem_range.mp hw
  have hofNat : Int32.ofNat v = Int32.ofNat w := (Int32.add_right_inj next).mp heq
  have hint := congrArg Int32.toInt hofNat
  rw [toInt_ofNat_small (by omega), toInt_ofNat_small (by omega)] at hint
  omega

theorem nodup_assignedPairs {workers : Nat} (hworkers : workers < 2 ^ 31) (next : Int32)
    {spokes : List SpokeSelection} (h : (spokes.map (·.spokeID)).Nodup) :
    (assignedPairs (planFrom workers next spokes)).Nodup := by
  induction spokes generalizing next with
  | nil => exact List.nodup_nil
  | cons spoke rest ih =>
      obtain ⟨hspoke, hrest⟩ := List.nodup_cons.mp h
      rw [planFrom, assignedPairs, List.flatMap_cons]
      refine List.nodup_append.mpr ⟨?_, ih _ hrest, ?_⟩
      · exact (nodup_shardIndexes next hworkers).map fun _ _ h => (Prod.mk.inj h).2
      · -- the pairs of the rest have other spokes
        rintro pair hpair _ hother rfl
        obtain ⟨shard, -, rfl⟩ := List.mem_map.mp hpair
        obtain ⟨a, ha, hmem⟩ := List.mem_flatMap.mp hother
        obtain ⟨_, -, heq⟩ := List.mem_map.mp hmem
        have hsel :=
          List.mem_map_of_mem
            (f := fun a : LoadTestAssignment => (⟨a.spokeID, a.cell⟩ : SpokeSelection)) ha
        rw [spokes_planFrom] at hsel
        exact hspoke (List.mem_map.mpr ⟨_, hsel, (Prod.mk.inj heq).1⟩)

theorem workerCount_lt (spec : CaptureLoadTestSpec) : workerCount spec < 2 ^ 31 := by
  have := Int32.toInt_lt (workersPerSpoke spec)
  unfold workerCount
  omega

theorem nodup_planOn {s : Server} {order : List (Str × SpokeEntry)} (h : order.Perm s.registered)
    (spec : CaptureLoadTestSpec) (now : Time) : (assignedPairs (planOn order spec now)).Nodup := by
  refine nodup_assignedPairs (workerCount_lt spec) 0 ?_
  rw [selectFrom_eq_take, List.map_take]
  have hwalk := sorted_walk h (cellsOf spec) now
  exact (List.take_sublist _ _).nodup (hwalk.ascending.imp fun h => Std.ne_of_lt h)

/-! ### The counts -/

theorem countPhase_eq (phase : ReplayPhase) (statuses : List ReplayStatusSnapshot) :
    countPhase phase statuses = Int32.ofNat (reportsIn (· == phase) statuses).length := by
  suffices h : ∀ n : Nat, statuses.foldl (fun acc snap => if snap.summary.phase = phase then acc + 1
      else acc)
      (Int32.ofNat n) = Int32.ofNat (n + (reportsIn (· == phase) statuses).length) by
    have := h 0
    rwa [Nat.zero_add] at this
  induction statuses with
  | nil => exact fun _ => rfl
  | cons snap statuses ih =>
      intro n
      rw [List.foldl_cons, reportsIn, List.filter_cons]
      by_cases hphase : snap.summary.phase = phase
      · have hone : Int32.ofNat n + 1 = Int32.ofNat (n + 1) := (Int32.ofNat_add n 1).symm
        rw [if_pos hphase, if_pos (by simpa using hphase), hone, ih, List.length_cons,
          Nat.add_assoc, Nat.add_comm 1]
        rfl
      · rw [if_neg hphase, if_neg (by simpa using hphase), ih]
        rfl

theorem countPhase_add (statuses : List ReplayStatusSnapshot) :
    countPhase .completed statuses + countPhase .failed statuses
      = Int32.ofNat (reportsIn ReplayPhase.over statuses).length := by
  have hover : ∀ p : ReplayPhase, (if p.over = true then 1 else 0)
      = (if (p == .completed) = true then 1 else 0) + if (p == .failed) = true then 1 else 0 := by
    intro p
    cases p <;> rfl
  rw [countPhase_eq, countPhase_eq, ← Int32.ofNat_add]
  refine congrArg Int32.ofNat ?_
  simp only [reportsIn, ← List.countP_eq_length_filter]
  induction statuses with
  | nil => rfl
  | cons snap statuses ih =>
      rw [List.countP_cons, List.countP_cons, List.countP_cons, ← ih, hover]
      omega

/-- **What a count says**: it is the number of shards exactly if the surplus is as large as
what is missing. -/
theorem count_eq_iff (hnodup : (assignedPairs assignments).Nodup)
    (statuses : List ReplayStatusSnapshot) :
    Int32.ofNat (reportsIn p statuses).length = countShards assignments ↔
      Int32.ofNat (surplusReports p assignments statuses)
        = Int32.ofNat (missingShards p assignments statuses) := by
  have hlen := Tally.length_add_missing ReplayStatusSnapshot.pair (assignedPairs assignments)
    (reportsIn p statuses) hnodup
  have hsum : Int32.ofNat (reportsIn p statuses).length
      + Int32.ofNat (missingShards p assignments statuses)
      = countShards assignments + Int32.ofNat (surplusReports p assignments statuses) := by
    rw [countShards_eq, ← length_assignedPairs, ← Int32.ofNat_add, ← Int32.ofNat_add]
    exact congrArg Int32.ofNat hlen
  constructor
  · intro h
    rw [h] at hsum
    exact ((Int32.add_right_inj _).mp hsum).symm
  · intro h
    rw [h] at hsum
    exact (Int32.add_left_inj _).mp hsum

/-- The test of a count agrees with the shards exactly if the count is telling. -/
theorem telling_iff (hnodup : (assignedPairs assignments).Nodup)
    (statuses : List ReplayStatusSnapshot) :
    ((0 < countShards assignments
      ∧ Int32.ofNat (reportsIn p statuses).length = countShards assignments) ↔
      AllShards p assignments statuses) ↔ Telling p assignments statuses := by
  rw [count_eq_iff hnodup, ← missingShards_eq_zero]
  constructor
  · intro h
    refine ⟨fun hzero => ?_, fun hne hpos heq => hne (h.mp ⟨hpos, heq⟩)⟩
    have hboth := h.mpr hzero
    rw [hzero] at hboth
    exact hboth
  · intro h
    constructor
    · intro ⟨hpos, heq⟩
      by_contra hne
      exact h.some hne hpos heq
    · intro hzero
      obtain ⟨hpos, hsurplus⟩ := h.all hzero
      rw [hzero]
      exact ⟨hpos, hsurplus⟩

theorem nextPhase_completed {phase : Phase} (hphase : phase.terminal = false)
    {total completed failed running : Int32} :
    nextPhase phase total completed failed running = .completed ↔ 0 < total
      ∧ completed = total := by
  unfold nextPhase
  split
  · rename_i h
    exact iff_of_true rfl h
  · rename_i h
    refine iff_of_false (fun heq => ?_) h
    split at heq
    · cases heq
    · split at heq
      · cases heq
      · subst heq
        cases hphase

theorem nextPhase_failed {phase : Phase} (hphase : phase.terminal = false)
    {total completed failed running : Int32} :
    nextPhase phase total completed failed running = .failed ↔
      ¬ (0 < total ∧ completed = total) ∧ 0 < total ∧ completed + failed = total := by
  unfold nextPhase
  split
  · rename_i h
    exact iff_of_false nofun fun hno => hno.1 h
  · rename_i h
    split
    · rename_i hover
      exact iff_of_true rfl ⟨h, hover⟩
    · rename_i hover
      refine iff_of_false (fun heq => ?_) fun hyes => hover hyes.2
      split at heq
      · cases heq
      · subst heq
        cases hphase

/-- **The verdict is decided per shard exactly if the counts are telling**: that of the completed
snapshots, and that of all terminal ones unless every shard is completed. -/
theorem decided_per_shard_iff {s : Server} {order : List (Str × SpokeEntry)}
    (horder : order.Perm s.registered) (spec : CaptureLoadTestSpec) (planned : Time)
    {status : CaptureLoadTestStatus} (hplan : status.assignments = planOn order spec planned)
    (htotal : status.totalShards = countShards status.assignments)
    (hphase : status.phase.terminal = false) (statuses : List ReplayStatusSnapshot) (now : Time) :
    DecidedPerShard status.assignments statuses (aggregate status statuses now).phase ↔
      Telling (· == .completed) status.assignments statuses ∧
        (¬ AllShards (· == .completed) status.assignments statuses →
          Telling ReplayPhase.over status.assignments statuses) := by
  have hnodup : (assignedPairs status.assignments).Nodup := by
    rw [hplan]
    exact nodup_planOn horder spec planned
  have hcompleted : (aggregate status statuses now).phase = .completed ↔
      0 < countShards status.assignments ∧
        Int32.ofNat (reportsIn (· == .completed) statuses).length
          = countShards status.assignments := by
    rw [← htotal, ← countPhase_eq]
    exact nextPhase_completed hphase
  have hfailed : (aggregate status statuses now).phase = .failed ↔
      ¬ (0 < countShards status.assignments ∧
        Int32.ofNat (reportsIn (· == .completed) statuses).length
          = countShards status.assignments) ∧
      0 < countShards status.assignments ∧
        Int32.ofNat (reportsIn ReplayPhase.over statuses).length
          = countShards status.assignments := by
    rw [← htotal, ← countPhase_eq, ← countPhase_add]
    exact nextPhase_failed hphase
  have htell := telling_iff (p := (· == .completed)) hnodup statuses
  have htellOver := telling_iff (p := ReplayPhase.over) hnodup statuses
  constructor
  · intro h
    have hone := hcompleted.symm.trans h.completed
    refine ⟨htell.mp hone, fun hnot => htellOver.mp ?_⟩
    have htwo := hfailed.symm.trans h.failed
    rw [hone] at htwo
    constructor
    · intro hover
      exact (htwo.mp ⟨hnot, hover⟩).2
    · intro hall
      exact (htwo.mpr ⟨hnot, hall⟩).2
  · intro ⟨hone, hover⟩
    have hone := htell.mpr hone
    refine ⟨hcompleted.trans hone, hfailed.trans ?_⟩
    rw [hone]
    constructor
    · intro ⟨hnot, hcount⟩
      exact ⟨hnot, (htellOver.mpr (hover hnot)).mp hcount⟩
    · intro ⟨hnot, hall⟩
      exact ⟨hnot, (htellOver.mpr (hover hnot)).mpr hall⟩

/-- A snapshot that only tells the phase. -/
def phaseReport (spokeID : Str) (shard : Int32) (phase : ReplayPhase) : ReplayStatusSnapshot :=
  ⟨spokeID, lit "blue", ⟨⟨lit "perf", lit "blue"⟩, lit "shard", shard, 4, phase, 0, 0, 0, 0, 1⟩⟩

/-- The status of a load test that was distributed to two spokes of a cell. -/
def blueStatus : CaptureLoadTestStatus :=
  { CaptureLoadTestStatus.empty with
    phase := .distributing
    totalShards := 4
    assignments := planOn threeSpokes.registered blueSpec 1 }

def threeCompleted : List ReplayStatusSnapshot :=
  [phaseReport (lit "east") 0 .completed, phaseReport (lit "east") 1 .completed,
    phaseReport (lit "west") 2 .completed]

/-- One shard has failed and the others are completed. -/
theorem decided_per_shard_failed :
    (aggregate blueStatus (phaseReport (lit "west") 3 .failed :: threeCompleted) 9).phase
      = .failed ∧
      DecidedPerShard blueStatus.assignments (phaseReport (lit "west") 3 .failed :: threeCompleted)
        (aggregate blueStatus (phaseReport (lit "west") 3 .failed :: threeCompleted) 9).phase := by
  refine ⟨by decide +kernel, ?_⟩
  refine (decided_per_shard_iff (List.Perm.refl threeSpokes.registered) blueSpec 1 rfl
    (by decide +kernel) rfl _ 9).mpr
    ⟨⟨?_, ?_⟩, fun _ => ⟨?_, ?_⟩⟩
  · decide +kernel
  · decide +kernel
  · decide +kernel
  · decide +kernel

/-- **A snapshot of a spoke that is not assigned completes the load test** while a shard has sent
none. -/
theorem stray_report_completes :
    (aggregate blueStatus (phaseReport (lit "north") 0 .completed :: threeCompleted) 9).phase
      = .completed ∧
      ¬ DecidedPerShard blueStatus.assignments
        (phaseReport (lit "north") 0 .completed :: threeCompleted)
        (aggregate blueStatus (phaseReport (lit "north") 0 .completed :: threeCompleted)
          9).phase := by
  have hphase :
      (aggregate blueStatus (phaseReport (lit "north") 0 .completed :: threeCompleted) 9).phase
      = .completed := by decide +kernel
  refine ⟨hphase, fun h => ?_⟩
  have hall := missingShards_eq_zero.mpr (h.completed.mp hphase)
  revert hall
  decide +kernel

/-! ## The cells -/

/-- The spoke has an assignment. -/
def assignedSpoke (assignments : List LoadTestAssignment) (id : Str) : Bool :=
  assignments.any (·.spokeID == id)

/-- The snapshots that count for a cell: those of the spokes that are assigned in it. -/
def cellReports (assignments : List LoadTestAssignment) (statuses : List ReplayStatusSnapshot)
    (cell : Str) :
    List ReplayStatusSnapshot :=
  statuses.filter fun snap =>
    assignedSpoke assignments snap.spokeID && decide (spokeCell assignments snap.spokeID = cell)

/-- The snapshots of spokes without an assignment. -/
def strayReports (assignments : List LoadTestAssignment) (statuses : List ReplayStatusSnapshot) :
    List ReplayStatusSnapshot :=
  statuses.filter fun snap => !assignedSpoke assignments snap.spokeID

def sentBy (statuses : List ReplayStatusSnapshot) : Int64 :=
  (statuses.map (·.summary.sentRequests)).sum

def failedBy (statuses : List ReplayStatusSnapshot) : Int64 :=
  (statuses.map (·.summary.failedRequests)).sum

/-- **The cells add up**: to the shards and the spokes that are assigned and to the requests of
the load test, and each snapshot counts in the cell in which its spoke is assigned. -/
structure CellsAddUp (assignments : List LoadTestAssignment) (statuses : List ReplayStatusSnapshot)
    (st : CaptureLoadTestStatus) : Prop where
  distinct : (st.cells.map (·.name)).Nodup
  shards : (st.cells.map (·.shards)).sum = Int32.ofNat (allShards assignments).length
  spokes : (st.cells.map (·.spokes)).sum = Int32.ofNat assignments.length
  sent : (st.cells.map (·.sentRequests)).sum = st.sentRequests
  failed : (st.cells.map (·.failedRequests)).sum = st.failedRequests
  home : ∀ snap ∈ statuses, assignedSpoke assignments snap.spokeID = true →
    ∃ a ∈ assignments, a.spokeID = snap.spokeID ∧ a.cell = spokeCell assignments snap.spokeID ∧
      a.cell ∈ st.cells.map (·.name)
  own : ∀ c ∈ st.cells, c.sentRequests = sentBy (cellReports assignments statuses c.name) ∧
    c.failedRequests = failedBy (cellReports assignments statuses c.name)

/-! ### The assignments -/

/-- What the cells hold when the assignments are counted. -/
structure Laid (assignments : List LoadTestAssignment)
    (cells : List LoadTestCellStatus) : Prop where
  names : (cells.map (·.name)).Nodup
  all : ∀ a ∈ assignments, a.cell ∈ cells.map (·.name)
  shards : (cells.map (·.shards)).sum = Int32.ofNat (allShards assignments).length
  spokes : (cells.map (·.spokes)).sum = Int32.ofNat assignments.length
  fresh : ∀ c ∈ cells, c.sentRequests = 0 ∧ c.failedRequests = 0

theorem any_name {name : Str} : cells.any (·.name == name) = true ↔ name ∈ cells.map (·.name) := by
  rw [List.any_eq_true, List.mem_map]
  constructor
  · rintro ⟨c, hc, hname⟩
    exact ⟨c, hc, beq_iff_eq.mp hname⟩
  · rintro ⟨c, hc, rfl⟩
    exact ⟨c, hc, beq_self_eq_true _⟩

theorem Laid.addAssignment (h : Laid assignments cells) (a : LoadTestAssignment) :
    Laid (assignments ++ [a]) (addAssignment cells a) := by
  have hlength : (allShards (assignments ++ [a])).length = (allShards assignments).length
      + a.shardIndexes.length := by
    rw [allShards, List.flatMap_append, List.length_append, List.flatMap_singleton]
    rfl
  by_cases hmem : a.cell ∈ cells.map (·.name)
  · have hnew : Hub.addAssignment cells a = cells.map fun c => if c.name = a.cell then
        { c with spokes := c.spokes + 1, shards := c.shards + Int32.ofNat a.shardIndexes.length }
          else c :=
      if_pos (any_name.mpr hmem)
    have hnames : (Hub.addAssignment cells a).map (·.name) = cells.map (·.name) := by
      rw [hnew, List.map_map]
      refine List.map_congr_left fun c _ => ?_
      rw [Function.comp_apply]
      split
      · rfl
      · rfl
    refine ⟨hnames ▸ h.names, fun b hb => ?_, ?_, ?_, fun c hc => ?_⟩
    · rw [hnames]
      rcases List.mem_append.mp hb with hb | hb
      · exact h.all b hb
      · rwa [List.mem_singleton.mp hb]
    · rw [hlength, Int32.ofNat_add, ← h.shards, ← Tally.sum_map_add_ite h.names hmem, hnew,
        List.map_map]
      refine congrArg List.sum (List.map_congr_left fun c _ => ?_)
      rw [Function.comp_apply]
      split
      · rfl
      · rfl
    · have hone : Int32.ofNat (assignments ++ [a]).length = Int32.ofNat assignments.length + 1 := by
        rw [List.length_append, Int32.ofNat_add]
        rfl
      rw [hone, ← h.spokes, ← Tally.sum_map_add_ite h.names hmem, hnew, List.map_map]
      refine congrArg List.sum (List.map_congr_left fun c _ => ?_)
      rw [Function.comp_apply]
      split
      · rfl
      · rfl
    · rw [hnew] at hc
      obtain ⟨c', hc', rfl⟩ := List.mem_map.mp hc
      split
      · exact h.fresh c' hc'
      · exact h.fresh c' hc'
  · have hnew : Hub.addAssignment cells a
        = cells ++ [⟨a.cell, 1, Int32.ofNat a.shardIndexes.length, 0, 0⟩] :=
      if_neg fun hany => hmem (any_name.mp hany)
    rw [hnew]
    refine ⟨?_, fun b hb => ?_, ?_, ?_, fun c hc => ?_⟩
    · rw [List.map_append]
      refine List.nodup_append.mpr ⟨h.names, List.nodup_singleton _, ?_⟩
      rintro name hname _ hlast rfl
      rw [List.mem_singleton.mp hlast] at hname
      exact hmem hname
    · rw [List.map_append, List.mem_append]
      rcases List.mem_append.mp hb with hb | hb
      · exact .inl (h.all b hb)
      · rw [List.mem_singleton.mp hb]
        exact .inr (List.mem_singleton.mpr rfl)
    · rw [hlength, Int32.ofNat_add, ← h.shards, List.map_append, List.sum_append,
        List.map_singleton, List.sum_singleton]
    · rw [List.length_append, Int32.ofNat_add, ← h.spokes, List.map_append, List.sum_append,
        List.map_singleton, List.sum_singleton]
      rfl
    · rcases List.mem_append.mp hc with hc | hc
      · exact h.fresh c hc
      · rw [List.mem_singleton.mp hc]
        exact ⟨rfl, rfl⟩

theorem laid (assignments : List LoadTestAssignment) :
    Laid assignments (assignments.foldl addAssignment []) := by
  induction assignments using List.reverseRecOn with
  | nil =>
      refine ⟨List.nodup_nil, fun a ha => ?_, rfl, rfl, fun c hc => ?_⟩
      · cases ha
      · cases hc
  | append_singleton assignments a ih =>
      rw [List.foldl_append]
      exact ih.addAssignment a

/-! ### The snapshots -/

/-- The snapshots that map to a cell, those of spokes without an assignment among them. -/
def mappedReports (assignments : List LoadTestAssignment) (statuses : List ReplayStatusSnapshot)
    (cell : Str) :
    List ReplayStatusSnapshot :=
  statuses.filter fun snap => spokeCell assignments snap.spokeID = cell

theorem foldl_addSnapshot (assignments : List LoadTestAssignment)
    (statuses : List ReplayStatusSnapshot) (cells : List LoadTestCellStatus) :
    statuses.foldl (addSnapshot assignments) cells = cells.map fun c => { c with
      sentRequests := c.sentRequests + sentBy (mappedReports assignments statuses c.name)
      failedRequests := c.failedRequests
        + failedBy (mappedReports assignments statuses c.name) } := by
  induction statuses generalizing cells with
  | nil =>
      refine (List.map_id cells).symm.trans (List.map_congr_left fun c _ => ?_)
      have hzero : ∀ n : Int64, n + 0 = n := Int64.add_zero
      show c = { c with sentRequests := c.sentRequests + 0, failedRequests := c.failedRequests + 0 }
      rw [hzero, hzero]
  | cons snap statuses ih =>
      rw [List.foldl_cons, ih, addSnapshot, List.map_map]
      refine List.map_congr_left fun c _ => ?_
      rw [Function.comp_apply]
      by_cases hcell : c.name = spokeCell assignments snap.spokeID
      · have hfirst : mappedReports assignments (snap :: statuses) c.name
            = snap :: mappedReports assignments statuses c.name :=
          List.filter_cons_of_pos (decide_eq_true hcell.symm)
        rw [if_pos hcell, hfirst]
        simp only [sentBy, failedBy, List.map_cons, List.sum_cons, Int64.add_assoc]
      · have hother : mappedReports assignments (snap :: statuses) c.name
            = mappedReports assignments statuses c.name :=
          List.filter_cons_of_neg fun h => hcell (of_decide_eq_true h).symm
        rw [if_neg hcell, hother]

theorem sumOf_eq (f : ReplayStatusSummary → Int64) (statuses : List ReplayStatusSnapshot) :
    sumOf f statuses = (statuses.map fun snap => f snap.summary).sum := by
  suffices h : ∀ n : Int64, statuses.foldl (fun acc snap => acc + f snap.summary) n
      = n + (statuses.map fun snap => f snap.summary).sum from (h 0).trans (Int64.zero_add _)
  induction statuses with
  | nil => exact fun n => (Int64.add_zero n).symm
  | cons snap statuses ih =>
      intro n
      rw [List.foldl_cons, ih, List.map_cons, List.sum_cons, Int64.add_assoc]

/-- The cell of an assigned spoke is that of an assignment. -/
theorem spokeCell_of_assigned {id : Str} (h : assignedSpoke assignments id = true) :
    ∃ a ∈ assignments, a.spokeID = id ∧ a.cell = spokeCell assignments id := by
  obtain ⟨b, hb, hid⟩ := List.any_eq_true.mp h
  unfold spokeCell
  cases hfind : assignments.reverse.find? (·.spokeID == id) with
  | none => exact absurd hid (List.find?_eq_none.mp hfind b (List.mem_reverse.mpr hb))
  | some a =>
      have hmem := List.mem_reverse.mp (List.mem_of_find?_eq_some hfind)
      have hid := List.find?_some hfind
      exact ⟨a, hmem, beq_iff_eq.mp hid, rfl⟩

/-- The requests of the assigned spokes are those of the cells. -/
theorem sum_cellReports {names : List Str} (hnodup : names.Nodup)
    (hall : ∀ a ∈ assignments, a.cell ∈ names) (g : ReplayStatusSnapshot → Int64)
    (statuses : List ReplayStatusSnapshot) :
    (names.map fun cell => ((cellReports assignments statuses cell).map g).sum).sum
      = ((statuses.filter fun snap => assignedSpoke assignments snap.spokeID).map g).sum := by
  rw [← Tally.sum_groups (fun snap => spokeCell assignments snap.spokeID) g hnodup]
  · refine congrArg List.sum (List.map_congr_left fun cell _ => ?_)
    rw [cellReports, List.filter_filter]
    refine congrArg (fun l : List ReplayStatusSnapshot => (l.map g).sum)
      (List.filter_congr fun snap _ => ?_)
    rw [Bool.and_comm]
  · intro snap hsnap
    obtain ⟨a, ha, -, hcell⟩ := spokeCell_of_assigned (List.mem_filter.mp hsnap).2
    rw [← hcell]
    exact hall a ha

/-- What maps to a cell is what counts for it, if the others have nothing to add. -/
theorem sum_mappedReports (g : ReplayStatusSnapshot → Int64)
    (hstray : ((strayReports assignments statuses).map g).sum = 0) (cell : Str) :
    ((mappedReports assignments statuses cell).map g).sum
      = ((cellReports assignments statuses cell).map g).sum := by
  have hsplit := Tally.sum_filter_add (fun snap => assignedSpoke assignments snap.spokeID) g
    (mappedReports assignments statuses cell)
  have hown : (mappedReports assignments statuses cell).filter
      (fun snap => assignedSpoke assignments snap.spokeID)
      = cellReports assignments statuses cell := List.filter_filter
  have hrest : (((mappedReports assignments statuses cell).filter
      fun snap => !assignedSpoke assignments snap.spokeID).map g).sum = 0 := by
    -- the others all map to the empty name
    have hempty : ∀ snap ∈ strayReports assignments statuses, spokeCell assignments
        snap.spokeID = [] := by
      intro snap hsnap
      have hno := (List.mem_filter.mp hsnap).2
      have hnone : assignments.reverse.find? (·.spokeID == snap.spokeID) = none := by
        refine List.find?_eq_none.mpr fun a ha hid => ?_
        have hyes : assignedSpoke assignments snap.spokeID = true :=
          List.any_eq_true.mpr ⟨a, List.mem_reverse.mp ha, hid⟩
        rw [hyes] at hno
        cases hno
      rw [spokeCell, hnone]
      rfl
    have hswap : (mappedReports assignments statuses cell).filter
        (fun snap => !assignedSpoke assignments snap.spokeID)
          = (strayReports assignments statuses).filter fun snap =>
            spokeCell assignments snap.spokeID = cell := by
      rw [mappedReports, strayReports, List.filter_filter, List.filter_filter]
      exact List.filter_congr fun snap _ => Bool.and_comm _ _
    rw [hswap]
    by_cases hcell : cell = []
    · have hall : (strayReports assignments statuses).filter
          (fun snap => spokeCell assignments snap.spokeID = cell)
          = strayReports assignments statuses := by
        refine List.filter_eq_self.mpr fun snap hsnap => decide_eq_true ?_
        rw [hempty snap hsnap, hcell]
      rw [hall]
      exact hstray
    · have hnone : (strayReports assignments statuses).filter
          (fun snap => spokeCell assignments snap.spokeID = cell)
          = [] := by
        refine List.filter_eq_nil_iff.mpr fun snap hsnap h => hcell ?_
        rw [← of_decide_eq_true h, hempty snap hsnap]
      rw [hnone]
      rfl
  rw [hown, hrest, Int64.add_zero] at hsplit
  exact hsplit.symm

/-- **The cells add up exactly if the spokes without an assignment have nothing to add.** -/
theorem cells_add_up_iff (status : CaptureLoadTestStatus) (statuses : List ReplayStatusSnapshot)
    (now : Time) :
    CellsAddUp status.assignments statuses (aggregate status statuses now) ↔
      sentBy (strayReports status.assignments statuses) = 0 ∧
        failedBy (strayReports status.assignments statuses) = 0 := by
  have hlaid := laid status.assignments
  generalize hcells : status.assignments.foldl addAssignment [] = cells at hlaid
  have hagg : (aggregate status statuses now).cells = cells.map fun c => { c with
      sentRequests := c.sentRequests + sentBy (mappedReports status.assignments statuses c.name)
      failedRequests := c.failedRequests
        + failedBy (mappedReports status.assignments statuses c.name) } := by
    show statuses.foldl (addSnapshot status.assignments)
        (status.assignments.foldl addAssignment []) = _
    rw [hcells]
    exact foldl_addSnapshot status.assignments statuses cells
  have hnames : (aggregate status statuses now).cells.map (·.name) = cells.map (·.name) := by
    rw [hagg, List.map_map]
    rfl
  have hsent : (aggregate status statuses now).sentRequests = sentBy statuses :=
    sumOf_eq (·.sentRequests) statuses
  have hfailed : (aggregate status statuses now).failedRequests = failedBy statuses :=
    sumOf_eq (·.failedRequests) statuses
  -- the load test has what the assigned spokes and the others have
  have hsplit : ∀ g : ReplayStatusSnapshot → Int64, (statuses.map g).sum
      = ((cells.map (·.name)).map fun cell =>
        ((cellReports status.assignments statuses cell).map g).sum).sum
        + ((strayReports status.assignments statuses).map g).sum := by
    intro g
    rw [sum_cellReports hlaid.names hlaid.all g statuses]
    exact (Tally.sum_filter_add _ g statuses).symm
  constructor
  · intro h
    have hzero : ∀ a b : Int64, a = a + b → b = 0 := by
      intro a b hab
      exact (Int64.add_right_inj a).mp (hab.symm.trans (Int64.add_zero a).symm)
    refine ⟨hzero _ _ (Eq.trans ?_ (hsplit _)), hzero _ _ (Eq.trans ?_ (hsplit _))⟩
    · rw [← hnames, List.map_map]
      refine Eq.trans ?_ (h.sent.trans hsent)
      exact congrArg List.sum (List.map_congr_left fun c hc => (h.own c hc).1.symm)
    · rw [← hnames, List.map_map]
      refine Eq.trans ?_ (h.failed.trans hfailed)
      exact congrArg List.sum (List.map_congr_left fun c hc => (h.own c hc).2.symm)
  · intro ⟨hstraySent, hstrayFailed⟩
    have hown : ∀ c ∈ (aggregate status statuses now).cells,
        c.sentRequests = sentBy (cellReports status.assignments statuses c.name) ∧
          c.failedRequests = failedBy (cellReports status.assignments statuses c.name) := by
      intro c hc
      rw [hagg] at hc
      obtain ⟨c', hc', rfl⟩ := List.mem_map.mp hc
      obtain ⟨hs, hf⟩ := hlaid.fresh c' hc'
      refine ⟨?_, ?_⟩
      · show c'.sentRequests + sentBy (mappedReports status.assignments statuses c'.name) = _
        rw [hs, Int64.zero_add]
        exact sum_mappedReports _ hstraySent c'.name
      · show c'.failedRequests + failedBy (mappedReports status.assignments statuses c'.name) = _
        rw [hf, Int64.zero_add]
        exact sum_mappedReports _ hstrayFailed c'.name
    refine ⟨hnames ▸ hlaid.names, ?_, ?_, ?_, ?_, fun snap _ hassigned => ?_, hown⟩
    · rw [hagg, List.map_map]
      exact hlaid.shards
    · rw [hagg, List.map_map]
      exact hlaid.spokes
    · rw [hsent]
      refine Eq.trans ?_ ((hsplit _).trans ((congrArg _ hstraySent).trans (Int64.add_zero _))).symm
      rw [← hnames, List.map_map]
      exact congrArg List.sum (List.map_congr_left fun c hc => (hown c hc).1)
    · rw [hfailed]
      refine Eq.trans ?_
        ((hsplit _).trans ((congrArg _ hstrayFailed).trans (Int64.add_zero _))).symm
      rw [← hnames, List.map_map]
      exact congrArg List.sum (List.map_congr_left fun c hc => (hown c hc).2)
    · obtain ⟨a, ha, hid, hcell⟩ := spokeCell_of_assigned hassigned
      refine ⟨a, ha, hid, hcell, ?_⟩
      rw [hnames]
      exact hlaid.all a ha

/-- A snapshot of a spoke of another cell. -/
def strayReport : ReplayStatusSnapshot :=
  ⟨lit "north", lit "green", ⟨⟨lit "perf", lit "blue"⟩, lit "shard", 0, 4, .running, 5, 5, 0, 0, 1⟩⟩

/-- **Requests of a spoke without an assignment are in no cell.** -/
theorem stray_requests_in_no_cell :
    (aggregate blueStatus [strayReport] 9).sentRequests = 5 ∧
      ((aggregate blueStatus [strayReport] 9).cells.map (·.sentRequests)).sum = 0 ∧
      ¬ CellsAddUp blueStatus.assignments [strayReport] (aggregate blueStatus [strayReport] 9) := by
  have htotal : (aggregate blueStatus [strayReport] 9).sentRequests = 5 := by decide +kernel
  have hcells : ((aggregate blueStatus [strayReport] 9).cells.map (·.sentRequests)).sum = 0 := by
    decide +kernel
  refine ⟨htotal, hcells, fun h => ?_⟩
  have hsum := h.sent
  rw [hcells, htotal] at hsum
  exact absurd hsum (by decide)

end Kapture.Hub
