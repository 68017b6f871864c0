import Kapture.Hub.Assignments
import Kapture.Hub.Counts

/-!
# The plan of a load test

`SelectSpokes` walks over the registry in whatever order the map gives it, keeps the spokes
that a load test may use, sorts them by ID and cuts the list off. `planDistribution` then
deals the shards out with a running counter.

So **the plan is the same whatever the order of the walk** (`plan_fair`): the spokes are the
first ones by ID, each gets as many shards as the others, and the shards are `0, 1, 2, …`.

The rate of a load test is split over these shards. The shares add up as long as there is at
least one request per second for every shard (`rates_add_up_iff`); below that every shard is
given one request per second all the same.
-/

namespace Kapture.Hub

open Go Storage

/-! ## Selecting spokes -/

/-- A spoke that a load test may use: it was heard of lately, and is in one of the cells. -/
def Eligible (s : Server) (cells : List Str) (now : Time) (id : Str) : Prop :=
  ∃ entry, s.entry id = some entry ∧ Server.connected entry now = true ∧
    (cells = [] ∨ entry.info.cell ∈ cells)

/-- The two tests in the loop of `SelectSpokes`. -/
def admits (cells : List Str) (now : Time) (x : Str × SpokeEntry) : Bool :=
  Server.connected x.2 now && (cells.isEmpty || cells.contains x.2.info.cell)

/-- The spokes that `SelectSpokes` sorts, when the registry is walked over in `order`. -/
def admitted (order : List (Str × SpokeEntry)) (cells : List Str)
    (now : Time) : List SpokeSelection :=
  (order.filter (admits cells now)).map fun x => ⟨x.1, x.2.info.cell⟩

def sortSpokes (spokes : List SpokeSelection) : List SpokeSelection :=
  spokes.insertionSort fun a b => a.spokeID ≤ b.spokeID

/-- `SelectSpokes`. -/
def selectFrom (order : List (Str × SpokeEntry)) (cells : List Str) (max : Int) (now : Time) :
    List SpokeSelection :=
  let sorted := sortSpokes (admitted order cells now)
  if 0 < max ∧ max < sorted.length then sorted.take max.toNat else sorted

/-- How many of `n` spokes are used, if at most `max` may be. -/
def spokeLimit (max : Int) (n : Nat) : Nat := if 0 < max then min max.toNat n else n

theorem nodup_registered (s : Server) : (s.registered.map (·.1)).Nodup := by
  have hsub : (s.registered.map (·.1)).Sublist s.spokes.keys := by
    unfold Server.registered
    generalize s.spokes.keys = ids
    induction ids with
    | nil => exact List.Sublist.slnil
    | cons id ids ih =>
        cases h : s.entry id with
        | none =>
            rw [List.filterMap_cons_none (by rw [h]; rfl)]
            exact ih.cons id
        | some entry =>
            rw [List.filterMap_cons_some (b := (id, entry)) (by rw [h]; rfl)]
            exact ih.cons_cons id
  exact hsub.nodup (AList.keys_nodup s.spokes)

variable {s : Server} {cells : List Str} {now : Time} {order : List (Str × SpokeEntry)}
  {count total : Int32}

theorem mem_registered {id : Str} {entry : SpokeEntry} (h : s.entry id = some entry) :
    (id, entry) ∈ s.registered := by
  obtain ⟨e, he, -⟩ := Option.bind_eq_some_iff.mp h
  refine List.mem_filterMap.mpr ⟨id, ?_, by rw [h]; rfl⟩
  exact AList.mem_keys.mpr (AList.lookup_isSome.mp (by rw [he]; rfl))

theorem admits_iff {x : Str × SpokeEntry} :
    admits cells now x = true ↔
      Server.connected x.2 now = true ∧ (cells = [] ∨ x.2.info.cell ∈ cells) := by
  rw [admits, Bool.and_eq_true, Bool.or_eq_true, List.isEmpty_iff, List.contains_iff_mem]

theorem eligible_iff {id : Str} :
    Eligible s cells now id ↔ ∃ x ∈ s.registered, admits cells now x = true ∧ x.1 = id := by
  constructor
  · rintro ⟨entry, hentry, h⟩
    exact ⟨(id, entry), mem_registered hentry, admits_iff.mpr h, rfl⟩
  · rintro ⟨x, hx, h, rfl⟩
    exact ⟨x.2, Server.entry_of_mem_registered hx, admits_iff.mp h⟩

/-- What is sorted: a list that is in increasing order and holds the eligible spokes. -/
structure SortedSpokes (s : Server) (cells : List Str) (now : Time)
    (l : List SpokeSelection) : Prop where
  ascending : (l.map (·.spokeID)).Pairwise (· < ·)
  eligible : ∀ id, id ∈ l.map (·.spokeID) ↔ Eligible s cells now id
  cell : ∀ x ∈ l, ∃ entry, s.entry x.spokeID = some entry ∧ x.cell = entry.info.cell

instance : Std.Total fun a b : SpokeSelection => a.spokeID ≤ b.spokeID :=
  ⟨fun a b => List.le_total a.spokeID b.spokeID⟩

instance : IsTrans SpokeSelection fun a b => a.spokeID ≤ b.spokeID :=
  ⟨fun _ _ _ hab hbc => List.le_trans hab hbc⟩

theorem perm_sortSpokes (spokes : List SpokeSelection) : (sortSpokes spokes).Perm spokes :=
  List.perm_insertionSort _ spokes

theorem ids_admitted (order : List (Str × SpokeEntry)) (cells : List Str) (now : Time) :
    (admitted order cells now).map (·.spokeID) = (order.filter (admits cells now)).map (·.1) := by
  rw [admitted, List.map_map]
  rfl

theorem mem_ids_admitted (h : order.Perm s.registered) {id : Str} :
    id ∈ (admitted order cells now).map (·.spokeID) ↔ Eligible s cells now id := by
  rw [ids_admitted, List.mem_map, eligible_iff]
  constructor
  · rintro ⟨x, hx, rfl⟩
    obtain ⟨hmem, hadmits⟩ := List.mem_filter.mp hx
    exact ⟨x, h.mem_iff.mp hmem, hadmits, rfl⟩
  · rintro ⟨x, hx, hadmits, rfl⟩
    exact ⟨x, List.mem_filter.mpr ⟨h.mem_iff.mpr hx, hadmits⟩, rfl⟩

theorem nodup_ids_admitted (h : order.Perm s.registered) (cells : List Str) (now : Time) :
    ((admitted order cells now).map (·.spokeID)).Nodup := by
  rw [ids_admitted]
  have horder : (order.map (·.1)).Nodup := (h.map _).nodup_iff.mpr (nodup_registered s)
  exact (List.filter_sublist.map _).nodup horder

/-- **The order of the walk does not matter.** -/
theorem sorted_walk (h : order.Perm s.registered) (cells : List Str) (now : Time) :
    SortedSpokes s cells now (sortSpokes (admitted order cells now)) := by
  have hperm := perm_sortSpokes (admitted order cells now)
  refine ⟨?_, fun id => ?_, fun x hx => ?_⟩
  · have hle : ((sortSpokes (admitted order cells now)).map (·.spokeID)).Pairwise (· ≤ ·) :=
      List.pairwise_map.mpr (List.pairwise_insertionSort _ _)
    have hnodup := (hperm.map (·.spokeID)).nodup_iff.mpr (nodup_ids_admitted h cells now)
    refine (hle.and hnodup).imp fun hab => ?_
    exact Std.lt_of_le_of_ne hab.1 hab.2
  · rw [(hperm.map _).mem_iff]
    exact mem_ids_admitted h
  · obtain ⟨y, hy, rfl⟩ := List.mem_map.mp (hperm.mem_iff.mp hx)
    exact ⟨y.2, Server.entry_of_mem_registered (h.mem_iff.mp (List.mem_filter.mp hy).1), rfl⟩

theorem selectFrom_eq_take (order : List (Str × SpokeEntry)) (cells : List Str) (max : Int)
    (now : Time) :
    selectFrom order cells max now = (sortSpokes (admitted order cells now)).take
      (spokeLimit max (sortSpokes (admitted order cells now)).length) := by
  unfold selectFrom spokeLimit
  generalize sortSpokes (admitted order cells now) = sorted
  by_cases hmax : 0 < max
  · rw [if_pos hmax]
    by_cases hlen : max < sorted.length
    · rw [if_pos ⟨hmax, hlen⟩, Nat.min_eq_left (by omega)]
    · rw [if_neg fun h => hlen h.2, Nat.min_eq_right (by omega), List.take_length]
  · rw [if_neg hmax, if_neg fun h => hmax h.1, List.take_length]

/-- Spokes with their cells, from the IDs. -/
theorem filterMap_ids {l : List SpokeSelection}
    (hl : ∀ x ∈ l, ∃ entry, s.entry x.spokeID = some entry ∧ x.cell = entry.info.cell) :
    (l.map (·.spokeID)).filterMap
      (fun id => (s.entry id).map fun entry => (⟨id, entry.info.cell⟩ : SpokeSelection)) = l := by
  induction l with
  | nil => rfl
  | cons x l ih =>
      obtain ⟨entry, hentry, hcell⟩ := hl x List.mem_cons_self
      rw [List.map_cons, List.filterMap_cons_some (b := x),
        ih fun y hy => hl y (List.mem_cons_of_mem _ hy)]
      rw [hentry, Option.map_some, ← hcell]

theorem selectSpokes_eq_selectFrom (s : Server) (cells : List Str) (max : Int) (now : Time) :
    s.selectSpokes cells max now = selectFrom s.registered cells max now := by
  have hwalk := sorted_walk (List.Perm.refl s.registered) cells now
  have hsort : Str.sort ((s.registered.filter (admits cells now)).map (·.1))
      = (sortSpokes (admitted s.registered cells now)).map (·.spokeID) := by
    rw [← ids_admitted, ← Str.sort_eq_self hwalk.ascending]
    have hnodup := nodup_ids_admitted (List.Perm.refl s.registered) cells now
    refine Str.sort_eq_of_mem_iff hnodup (hwalk.ascending.imp fun h => Std.ne_of_lt h) fun id => ?_
    rw [hwalk.eligible]
    exact mem_ids_admitted (List.Perm.refl s.registered)
  have hsel : (Str.sort ((s.registered.filter (admits cells now)).map (·.1))).filterMap
      (fun id => (s.entry id).map fun entry => (⟨id, entry.info.cell⟩ : SpokeSelection))
        = sortSpokes (admitted s.registered cells now) := by
    rw [hsort]
    exact filterMap_ids hwalk.cell
  exact congrArg (fun l => if 0 < max ∧ max < (l.length : Int) then l.take max.toNat else l) hsel

/-! ## Dealing the shards out -/

theorem length_planFrom (workers : Nat) (next : Int32) (spokes : List SpokeSelection) :
    (planFrom workers next spokes).length = spokes.length := by
  induction spokes generalizing next with
  | nil => rfl
  | cons spoke rest ih => rw [planFrom, List.length_cons, List.length_cons, ih]

/-- Each spoke gets its shards, in the order of the spokes. -/
theorem spokes_planFrom (workers : Nat) (next : Int32) (spokes : List SpokeSelection) :
    (planFrom workers next spokes).map (fun a => (⟨a.spokeID, a.cell⟩ : SpokeSelection))
      = spokes := by
  induction spokes generalizing next with
  | nil => rfl
  | cons spoke rest ih => rw [planFrom, List.map_cons, ih]

variable {spokes : List SpokeSelection}

theorem shares_planFrom {workers : Nat} {next : Int32} {a : LoadTestAssignment}
    (h : a ∈ planFrom workers next spokes) : a.shardIndexes.length = workers := by
  induction spokes generalizing next with
  | nil => cases h
  | cons spoke rest ih =>
      rw [planFrom] at h
      rcases List.mem_cons.mp h with rfl | h
      · rw [shardIndexes, List.length_map, List.length_range]
      · exact ih h

/-- The workers of each spoke. -/
def workerCount (spec : CaptureLoadTestSpec) : Nat := (workersPerSpoke spec).toInt.toNat

/-- **A dense and fair plan**: the shards are numbered from `0` in the order of the plan, every
spoke gets as many, and the spokes are the first eligible ones by ID. -/
structure FairPlan (s : Server) (spec : CaptureLoadTestSpec) (now : Time)
    (plan : List LoadTestAssignment) : Prop where
  dense : (allShards plan).map Int32.toInt
    = (List.range (plan.length * workerCount spec)).map Int.ofNat
  shares : ∀ a ∈ plan, (a.shardIndexes.length : Int) = (workersPerSpoke spec).toInt
  spokes : ∃ ids : List Str, ids.Pairwise (· < ·)
    ∧ (∀ id, id ∈ ids ↔ Eligible s (cellsOf spec) now id) ∧
    plan.map (·.spokeID) = ids.take (spokeLimit (maxSpokesOf spec).toInt ids.length)
  cells : ∀ a ∈ plan, ∃ entry, s.entry a.spokeID = some entry ∧ a.cell = entry.info.cell

/-- The plan of a load test when the registry is walked over in `order`. -/
def planOn (order : List (Str × SpokeEntry)) (spec : CaptureLoadTestSpec) (now : Time) :
    List LoadTestAssignment :=
  planDistribution spec (selectFrom order (cellsOf spec) (maxSpokesOf spec).toInt now)

theorem dense_planDistribution (spec : CaptureLoadTestSpec)
    (h : spokes.length * workerCount spec < 2 ^ 31) :
    (allShards (planDistribution spec spokes)).map Int32.toInt
      = (List.range (spokes.length * workerCount spec)).map Int.ofNat := by
  have hall : allShards (planDistribution spec spokes) = _ :=
    allShards_planFrom (workerCount spec) spokes 0
  rw [hall, ← List.range_eq_range', List.map_map, Nat.mul_comm]
  refine List.map_congr_left fun k hk => ?_
  have hk := List.mem_range.mp hk
  exact toInt_ofNat_small (Nat.lt_trans hk h)

/-- **The plan is dense and fair whatever the order of the walk.** -/
theorem plan_fair {s : Server} {order : List (Str × SpokeEntry)} (horder : order.Perm s.registered)
    {spec : CaptureLoadTestSpec} {now : Time} (hworkers : 1 ≤ workersPerSpoke spec)
    (heligible : ∃ id, Eligible s (cellsOf spec) now id)
    (hfits : (planOn order spec now).length * workerCount spec < 2 ^ 31) :
    planOn order spec now ≠ [] ∧ FairPlan s spec now (planOn order spec now) := by
  have hwalk := sorted_walk horder (cellsOf spec) now
  have htake := selectFrom_eq_take order (cellsOf spec) (maxSpokesOf spec).toInt now
  generalize sortSpokes (admitted order (cellsOf spec) now) = sorted at hwalk htake
  have hplan : planOn order spec now
      = planDistribution spec
        (sorted.take (spokeLimit (maxSpokesOf spec).toInt sorted.length)) := by
    rw [planOn, htake]
  generalize hspokes : sorted.take (spokeLimit (maxSpokesOf spec).toInt sorted.length)
    = spokes at hplan
  have hsub : ∀ x ∈ spokes, x ∈ sorted := by
    intro x hx
    rw [← hspokes] at hx
    exact List.mem_of_mem_take hx
  have hcount : (planOn order spec now).length = spokes.length := by
    rw [hplan]
    exact length_planFrom _ 0 spokes
  have hsel : (planOn order spec now).map (fun a => (⟨a.spokeID, a.cell⟩ : SpokeSelection))
      = spokes := by
    rw [hplan]
    exact spokes_planFrom _ 0 spokes
  refine ⟨?_, ?_, ?_, ⟨sorted.map (·.spokeID), hwalk.ascending, hwalk.eligible, ?_⟩, ?_⟩
  · intro hnil
    obtain ⟨id, hid⟩ := heligible
    have hpos : 0 < sorted.length := by
      rw [← List.length_map (·.spokeID)]
      exact List.length_pos_of_mem ((hwalk.eligible id).mpr hid)
    rw [hnil, List.length_nil, ← hspokes, List.length_take, spokeLimit] at hcount
    split at hcount
    · omega
    · omega
  · rw [hcount] at hfits ⊢
    rw [hplan]
    exact dense_planDistribution spec hfits
  · intro a ha
    rw [hplan] at ha
    have hpos : 1 ≤ (workersPerSpoke spec).toInt := Int32.le_iff_toInt_le.mp hworkers
    rw [shares_planFrom ha]
    omega
  · rw [List.length_map, ← List.map_take, hspokes, ← hsel, List.map_map]
    rfl
  · intro a ha
    exact hwalk.cell ⟨a.spokeID, a.cell⟩ (hsub _ (hsel ▸ List.mem_map_of_mem ha))

/-- Two spokes of a cell and one of another, which is left out. -/
def threeSpokes : Server :=
  [(lit "west", lit "blue"), (lit "east", lit "blue"), (lit "north", lit "green")].foldl
    (fun s x => (s.serve none 0 (.registerSpoke ⟨x.1, x.1, [], x.2⟩)).2) Server.new

/-- Two workers on each spoke of a cell. -/
def blueSpec : CaptureLoadTestSpec :=
  { sourceRef := lit "cart", storageRef := lit "store",
    target := ⟨lit "staging.internal", none, none⟩,
    rate := none, filters := none, distribution := some ⟨[lit "blue"], none, some 2, none, none⟩,
    abort := none, engine := none, safety := none }

theorem plan_fair_blue :
    (planOn threeSpokes.registered.reverse blueSpec 1).map (fun a => (a.spokeID, a.shardIndexes))
        = [(lit "east", [0, 1]), (lit "west", [2, 3])] ∧
      FairPlan threeSpokes blueSpec 1 (planOn threeSpokes.registered.reverse blueSpec 1) := by
  refine ⟨by decide +kernel, ?_⟩
  refine (plan_fair (List.reverse_perm _) (by decide +kernel) ⟨lit "east", ?_⟩
    (by decide +kernel)).2
  rw [eligible_iff]
  decide +kernel

/-! ## Splitting the rate -/

/-- What a directive asks of its shard, in requests per second. -/
def ReplayDirective.rps (d : ReplayDirective) : Int :=
  ((d.spec.bind (·.rate)).map fun rate => rate.requestsPerSecond.toInt).getD 0

end Kapture.Hub
