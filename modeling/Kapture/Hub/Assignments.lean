import Kapture.Hub.Rules

/-!
# Who runs which shard

A load test is distributed once. The assignments are stored before the first `START` is
sent, no later reconcile plans anew, and a `START` goes to the spoke that the stored
assignments give the shard to. All of this holds whatever the fleet does, because a
reconcile writes only over the version it has read.
-/

namespace Kapture.Hub

open Go Storage Conc

/-- The spoke a shard is assigned to. -/
def ownerOf (assignments : List LoadTestAssignment) (shard : Int32) : Option Str :=
  (assignments.find? fun a => a.shardIndexes.contains shard).map (·.spokeID)

/-- Of two events, newer and older: assignments that were stored are not changed. -/
def SameAssignments : Event → Event → Prop
  | .stored newer, .stored older => newer.uid = older.uid → older.status.assignments ≠ [] →
      newer.status.assignments = older.status.assignments ∧
        newer.status.totalShards = older.status.totalShards
  | _, _ => True

/-- A `START` that was sent when `lt` had been stored: it is for a shard of `lt` and went
to its owner. -/
structure StartOf (lt : CaptureLoadTest) (spokeID : Str) (d : ReplayDirective)
    (sh : ReplayShard) : Prop where
  loadTest : d.loadTest = lt.key
  incarnation : d.incarnation = lt.uid
  shard : d.shard = some sh
  owner : ownerOf lt.status.assignments sh.index = some spokeID
  once : (allShards lt.status.assignments).Nodup
  count : sh.count = lt.status.totalShards
  total : lt.status.totalShards.toInt = (allShards lt.status.assignments).length
  nonneg : 0 ≤ sh.index
  lt_total : sh.index < lt.status.totalShards

/-- Every `START` was sent to the owner of its shard, with assignments that were stored
before. -/
def StartsOwned : List Event → Prop
  | [] => True
  | .sent spokeID d _ _ :: older =>
      (d.action = .start → ∃ lt sh, .stored lt ∈ older ∧ StartOf lt spokeID d sh) ∧
        StartsOwned older
  | _ :: older => StartsOwned older

/-! ## The plan -/

theorem allShards_planFrom (workers : Nat) (spokes : List SpokeSelection) (k : Nat) :
    allShards (planFrom workers (Int32.ofNat k) spokes) =
      (List.range' k (workers * spokes.length)).map Int32.ofNat := by
  induction spokes generalizing k with
  | nil => rfl
  | cons spoke rest ih =>
      have hfirst : shardIndexes (Int32.ofNat k) workers =
          (List.range' k workers).map Int32.ofNat := by
        rw [shardIndexes, List.range'_eq_map_range, List.map_map]
        exact List.map_congr_left fun w _ => (Int32.ofNat_add k w).symm
      have hrest := ih (k + workers)
      rw [Int32.ofNat_add] at hrest
      rw [List.length_cons, Nat.mul_succ, Nat.add_comm, ← List.range'_append_1, List.map_append,
        ← hfirst, ← hrest]
      rfl

theorem countShards_eq (assignments : List LoadTestAssignment) :
    countShards assignments = Int32.ofNat (allShards assignments).length := by
  suffices h : ∀ n : Nat, assignments.foldl
      (fun count a => count + Int32.ofNat a.shardIndexes.length)
      (Int32.ofNat n) = Int32.ofNat (n + (allShards assignments).length) by
    have := h 0
    rwa [Nat.zero_add] at this
  induction assignments with
  | nil => exact fun _ => rfl
  | cons a rest ih =>
      intro n
      have hcons : allShards (a :: rest) = a.shardIndexes ++ allShards rest := List.flatMap_cons
      rw [List.foldl_cons, ← Int32.ofNat_add, ih, hcons, List.length_append, Nat.add_assoc]

/-- The shards are `0 … n - 1`, each assigned once, and `n` is stored. -/
def WellPlanned (status : CaptureLoadTestStatus) : Prop :=
  ∃ n < 2 ^ 31, allShards status.assignments = (List.range n).map Int32.ofNat ∧
    status.totalShards = Int32.ofNat n

theorem wellPlanned_distributed {lt : CaptureLoadTest} {spokes : List SpokeSelection} {now : Time}
    (h : Fits (lt.distributed spokes now).status) :
    WellPlanned (lt.distributed spokes now).status := by
  have hall : allShards (planDistribution lt.spec spokes) = _ := allShards_planFrom _ spokes 0
  rw [← List.range_eq_range'] at hall
  refine ⟨_, ?_, hall, ?_⟩
  · have : (allShards (planDistribution lt.spec spokes)).length < 2 ^ 31 := h
    rwa [hall, List.length_map, List.length_range] at this
  · show countShards (planDistribution lt.spec spokes) = _
    rw [countShards_eq, hall, List.length_map, List.length_range]

theorem toInt_ofNat_small {n : Nat} (h : n < 2 ^ 31) : (Int32.ofNat n).toInt = n :=
  Int32.toInt_ofNat_of_lt h

variable {assignments : List LoadTestAssignment} {st : CaptureLoadTestStatus}

theorem ownerOf_of_mem {a : LoadTestAssignment} {shard : Int32} (hn : (allShards assignments).Nodup)
    (ha : a ∈ assignments) (hs : shard ∈ a.shardIndexes) :
    ownerOf assignments shard = some a.spokeID := by
  induction assignments with
  | nil => cases ha
  | cons b rest ih =>
      rw [allShards, List.flatMap_cons, List.nodup_append] at hn
      rw [ownerOf, List.find?_cons]
      rcases List.mem_cons.mp ha with rfl | ha
      · rw [List.contains_iff_mem.mpr hs]
        rfl
      · have hb : b.shardIndexes.contains shard = false := by
          rw [Bool.eq_false_iff]
          intro hb
          exact hn.2.2 shard (List.contains_iff_mem.mp hb) shard
            (List.mem_flatMap.mpr ⟨a, ha, hs⟩) rfl
        rw [hb]
        exact ih hn.2.1 ha

/-- **A `START` for a shard of a well planned load test.** -/
theorem startOf_build {lt stored : CaptureLoadTest} {a : LoadTestAssignment} {shard : Int32}
    (hw : WellPlanned stored.status) (hkey : stored.key = lt.key) (huid : stored.uid = lt.uid)
    (ha : stored.status.assignments = lt.status.assignments)
    (ht : stored.status.totalShards = lt.status.totalShards)
    (hmem : a ∈ lt.status.assignments) (hs : shard ∈ a.shardIndexes) :
    ∃ sh, StartOf stored a.spokeID (buildStartDirective lt shard) sh := by
  obtain ⟨n, hn, hall, htotal⟩ := hw
  have hnodup : (allShards stored.status.assignments).Nodup := by
    rw [hall]
    refine List.Nodup.map_on (fun x hx y hy h => ?_) List.nodup_range
    have := congrArg Int32.toInt h
    rw [toInt_ofNat_small (by have := List.mem_range.mp hx; omega),
      toInt_ofNat_small (by have := List.mem_range.mp hy; omega)] at this
    omega
  rw [← ha] at hmem
  have hin : shard ∈ allShards stored.status.assignments := List.mem_flatMap.mpr ⟨a, hmem, hs⟩
  rw [hall] at hin
  obtain ⟨k, hk, rfl⟩ := List.mem_map.mp hin
  have hk := List.mem_range.mp hk
  refine ⟨_, hkey.symm, huid.symm, buildStartDirective_shard lt _, ownerOf_of_mem hnodup hmem hs,
    hnodup, ht.symm, ?_, ?_, ?_⟩
  · rw [htotal, hall, List.length_map, List.length_range, toInt_ofNat_small hn]
  · rw [Int32.le_iff_toInt_le, toInt_ofNat_small (by omega)]
    exact Int.natCast_nonneg k
  · rw [htotal, Int32.lt_iff_toInt_lt, toInt_ofNat_small hn, toInt_ofNat_small (by omega)]
    exact Int.ofNat_lt.mpr hk

/-! ## The invariant -/

/-- The assignments of `lt`, if it has any, were stored. -/
def Recorded (lt : CaptureLoadTest) (log : List Event) : Prop :=
  lt.status.assignments ≠ [] → ∃ lt', .stored lt' ∈ log ∧ lt'.key = lt.key ∧ lt'.uid = lt.uid ∧
    lt'.status.assignments = lt.status.assignments ∧
    lt'.status.totalShards = lt.status.totalShards

variable {log : List Event} {e : Event} {s : Coord}

theorem Recorded.cons {lt : CaptureLoadTest} (h : Recorded lt log) (e : Event) :
    Recorded lt (e :: log) := by
  intro hne
  obtain ⟨lt', hmem, hlt'⟩ := h hne
  exact ⟨lt', List.mem_cons_of_mem _ hmem, hlt'⟩

structure AssignLog (log : List Event) : Prop where
  kept : log.Pairwise SameAssignments
  owned : StartsOwned log
  planned : ∀ lt, .stored lt ∈ log → lt.status.assignments ≠ [] → WellPlanned lt.status

/-- A stored load test agrees with what was stored of it before. -/
structure AssignObject (log : List Event) (cur : CaptureLoadTest) : Prop where
  recorded : Recorded cur log
  same : ∀ lt, .stored lt ∈ log → lt.uid = cur.uid → lt.status.assignments ≠ [] →
    cur.status.assignments = lt.status.assignments ∧
      cur.status.totalShards = lt.status.totalShards

abbrev AssignInv := LogInv AssignLog AssignObject

variable {ok : CoordLabel → Coord → Prop}

variable (ok) in
theorem keeps_assignObject : Keeps ok AssignObject where
  same := by
    intro log x y h hkey huid hst _
    refine ⟨?_, ?_⟩
    · rw [Recorded, hkey, huid, hst]
      exact h.recorded
    · rw [huid, hst]
      exact h.same
  new := by
    intro log x hold hst
    refine ⟨fun hne => absurd (by rw [hst]; rfl) hne, fun lt hlt hu => ?_⟩
    exact absurd hu (hold _ hlt).ne
  edit := fun _ _ h => ⟨h.recorded, h.same⟩

/-- An event that stores nothing. -/
theorem AssignLog.cons (h : AssignLog log) (he : e.stores = false)
    (howned : StartsOwned (e :: log)) : AssignLog (e :: log) where
  kept := by
    refine List.Pairwise.cons (fun e' _ => ?_) h.kept
    cases e with
    | stored lt => cases he
    | _ => trivial
  owned := howned
  planned := fun lt hlt => h.planned lt (mem_of_stores he hlt)

theorem AssignObject.cons {cur : CaptureLoadTest} (h : AssignObject log cur)
    (he : ∀ lt, e = .stored lt → lt.uid ≠ cur.uid) : AssignObject (e :: log) cur where
  recorded := h.recorded.cons e
  same := by
    intro lt hlt huid
    rcases List.mem_cons.mp hlt with hlt | hlt
    · exact absurd huid (he lt hlt.symm)
    · exact h.same lt hlt huid

theorem AssignObject.silent {cur : CaptureLoadTest} (h : AssignObject log cur)
    (he : e.stores = false) : AssignObject (e :: log) cur := by
  refine h.cons fun lt hlt => ?_
  subst hlt
  cases he

theorem AssignInv.note (h : AssignInv s) (he : e.stores = false) (hu : e.uid ≤ s.api.revision)
    (howned : StartsOwned (e :: s.log)) : AssignInv (s.note e) :=
  LogInv.note h hu (h.log.cons he howned) fun _ hJ => hJ.silent he

/-- **A status may be written over `lt`** if it keeps the assignments of `lt`, or is the
first to have any. -/
theorem AssignInv.wrote (h : AssignInv s) {lt : CaptureLoadTest}
    (hfind : s.api.find lt.key = some lt) (hd : lt.deleting = false)
    (hkept : lt.status.assignments ≠ [] → st.assignments = lt.status.assignments ∧
      st.totalShards = lt.status.totalShards)
    (hplan : lt.status.assignments = [] → st.assignments ≠ [] → WellPlanned st) :
    AssignInv (s.wrote lt st) := by
  have hobj := h.objects hfind
  have hsame : ∀ lt', .stored lt' ∈ s.log → lt'.uid = lt.uid → lt'.status.assignments ≠ [] →
      st.assignments = lt'.status.assignments ∧ st.totalShards = lt'.status.totalShards := by
    intro lt' hlt' huid hne
    obtain ⟨ha, ht⟩ := hobj.same lt' hlt' huid hne
    obtain ⟨ha', ht'⟩ := hkept (ha ▸ hne)
    exact ⟨ha'.trans ha, ht'.trans ht⟩
  refine LogInv.wrote h hfind hd (fun rv => ⟨?_, h.log.owned, ?_⟩) (fun rv => ⟨?_, ?_⟩) ?_
  · refine List.Pairwise.cons (fun e he => ?_) h.log.kept
    cases e with
    | stored lt' => exact fun huid hne => hsame lt' he huid.symm hne
    | _ => trivial
  · intro lt' hlt' hne
    rcases List.mem_cons.mp hlt' with h' | h'
    · cases h'
      by_cases hnil : lt.status.assignments = []
      · exact hplan hnil hne
      · obtain ⟨ha, ht⟩ := hkept hnil
        obtain ⟨old, hold, _, _, ha', ht'⟩ := hobj.recorded hnil
        obtain ⟨n, hn, hall, htot⟩ := h.log.planned old hold (ha' ▸ hnil)
        exact ⟨n, hn, by rw [← hall, ha']; exact congrArg allShards ha,
          (ht.trans ht'.symm).trans htot⟩
    · exact h.log.planned lt' h' hne
  · exact fun _ => ⟨_, List.mem_cons_self, rfl, rfl, rfl, rfl⟩
  · intro lt' hlt' huid hne
    rcases List.mem_cons.mp hlt' with h' | h'
    · cases h'
      exact ⟨rfl, rfl⟩
    · exact hsame lt' h' huid hne
  · refine fun rv _ hne hJ => hJ.cons fun lt' hlt' => ?_
    cases hlt'
    exact hne.symm

/-! ## The program -/

theorem StartsOwned.silent (h : StartsOwned log) (he : e.sends = false) :
    StartsOwned (e :: log) := by
  cases e with
  | sent spokeID d r b => cases he
  | _ => exact h

theorem mem_unreported {statuses : List ReplayStatusSnapshot} {x : Str × Int32}
    (h : x ∈ unreported assignments statuses) :
    ∃ a ∈ assignments, x.1 = a.spokeID ∧ x.2 ∈ a.shardIndexes := by
  obtain ⟨a, ha, hx⟩ := List.mem_flatMap.mp h
  obtain ⟨shard, hs, rfl⟩ := List.mem_map.mp hx
  exact ⟨a, ha, rfl, (List.mem_filter.mp hs).1⟩

variable {lt : CaptureLoadTest}

/-- Sending a `STOP` changes nothing here. -/
theorem AssignInv.stopped (h : AssignInv s) (hu : lt.uid ≤ s.api.revision) {spokeID : Str}
    {r : SendResult} {b : Bool} : AssignInv (s.note (.sent spokeID (stopDirective lt) r b)) :=
  h.note rfl hu ⟨fun h => absurd h (by decide : ReplayAction.stop ≠ .start), h.log.owned⟩

/-- A status that leaves the assignments alone. -/
theorem AssignInv.kept (h : AssignInv s) (hfind : s.api.find lt.key = some lt)
    (hd : lt.deleting = false) (ha : st.assignments = lt.status.assignments)
    (ht : st.totalShards = lt.status.totalShards) : AssignInv (s.wrote lt st) :=
  h.wrote hfind hd (fun _ => ⟨ha, ht⟩) fun h h' => absurd (ha.trans h) h'

theorem assign_live : KeepRules ok AssignInv (fun _ => Recorded) Recorded
    (fun lt _ => Recorded lt) Recorded where
  inv := LogInv.stable (keeps_assignObject ok)
  api := fun _ h => h.api
  denied := fun _ _ hI hG hf => hI.kept hf hG.undeleted rfl rfl
  noServer := fun _ _ hI hG hf => hI.kept hf hG.undeleted rfl rfl
  noSpokes := fun _ _ _ hI hG hf => hI.kept hf hG.undeleted rfl rfl
  assigned := by
    rintro srv lt t spokes now st rfl _ _ hnil _ hfits hI hG hf
    refine ⟨hI.wrote hf hG.undeleted (fun h => absurd hnil h)
      fun _ _ => wellPlanned_distributed hfits, fun rv _ => ?_⟩
    exact ⟨_, List.mem_cons_self, rfl, rfl, rfl, rfl⟩
  supervise := fun _ _ _ h => h
  reports := fun _ h _ => h.log
  start := by
    intro lt l t spokeID shard r b hx hI hR
    obtain ⟨a, ha, rfl, hs⟩ := mem_unreported hx
    refine ⟨hI.note rfl hR.old ⟨fun _ => ?_, hI.log.owned⟩, hR.log.cons _⟩
    -- the stored copy has the assignments the reconcile works with
    have hne : lt.status.assignments ≠ [] := List.ne_nil_of_mem ha
    obtain ⟨stored, hmem, hkey, huid, hasg, htot⟩ := hR.log hne
    obtain ⟨sh, hsh⟩ := startOf_build (hI.log.planned stored hmem (hasg ▸ hne)) hkey huid hasg
      htot ha hs
    exact ⟨stored, sh, hmem, hsh⟩
  finish := fun _ hI hR hf => hI.kept hf hR.undeleted rfl rfl
  halt := id
  stop := fun hI hB => ⟨hI.stopped hB.old, hB.log.cons _⟩
  aborting := fun _ hI hB hf => hI.kept hf hB.undeleted rfl rfl
  aborted := fun _ hI hB hf => hI.kept hf hB.undeleted rfl rfl

theorem assign_delete (srv : Option Nat) (lt : CaptureLoadTest) :
    coordinator.Triple ok AssignInv (Reading (Recorded lt) lt) (reconcileDelete srv lt)
      fun _ => AssignInv := by
  refine triple_reconcileDelete_keep srv (LogInv.stable (keeps_assignObject ok))
    (reading_stable (Recorded lt) lt) (fun _ h => h.known)
    (fun _ _ _ _ hI hR => ⟨hI.stopped hR.old, hR.note (·.cons _)⟩) ?_
  intro t hI _ hf
  exact hI.released (keeps_assignObject ok) hf (hI.log.cons rfl hI.log.owned)
    fun _ hJ => hJ.silent rfl

theorem reaches_assignInv {c : Config Coord HubOp HubOp.Ans Result Key} (h : Reaches ok c) :
    AssignInv c.state := by
  exact LogInv.reaches (F := fun _ => Recorded) h ⟨.nil, trivial, fun _ h => by cases h⟩
    (keeps_assignObject _) (fun hs hu h₁ h₂ _ => AssignInv.note hs h₁ hu (hs.log.owned.silent h₂))
    (fun _ _ h => h) (fun t₀ t c lt h₀ hf hlog _ => hlog ▸ (h₀.objects hf).recorded.cons _)
    (fun srv lt _ => assign_delete srv lt) fun srv lt => assign_live.live.triple srv lt

/-- **Assignments are stored once, and every `START` goes to the owner of its shard.** -/
theorem assignments_stable {c : Config Coord HubOp HubOp.Ans Result Key}
    (h : Reaches Machine.always c) :
    c.state.log.Pairwise SameAssignments ∧ StartsOwned c.state.log ∧
      ∀ {key cur lt}, c.state.api.find key = some cur → .stored lt ∈ c.state.log →
        lt.uid = cur.uid → lt.status.assignments ≠ [] →
        cur.status.assignments = lt.status.assignments ∧
          cur.status.totalShards = lt.status.totalShards := by
  have hinv := reaches_assignInv h
  exact ⟨hinv.log.kept, hinv.log.owned, fun hf => (hinv.objects hf).same _⟩

def Event.isStart : Event → Bool
  | .sent _ d _ _ => d.action == .start
  | _ => false

theorem assignments_stable_started : ∃ c, Reaches Machine.always c ∧
    (∃ spokeID d r b, .sent spokeID d r b ∈ c.state.log ∧ d.action = .start) ∧
    StartsOwned c.state.log := by
  obtain ⟨c, hc, h⟩ := exists_free_run startedRun
    (fun s => s.log.any Event.isStart)
    (by decide +kernel)
  obtain ⟨e, he, hstart⟩ := List.any_eq_true.mp h
  refine ⟨c, hc, ?_, (assignments_stable hc).2.1⟩
  cases e with
  | sent spokeID d r b => exact ⟨spokeID, d, r, b, he, beq_iff_eq.mp hstart⟩
  | _ => cases hstart

end Kapture.Hub
