import Kapture.Hub.Aborts
import Kapture.Hub.Phases

/-!
# Denied targets on the hub

The target safety gate fails a load test whose target its own allowlist does not match. It
is meant to act before there is any shard, and sends no `STOP`. But it looks at the spec of
every reconcile, so an edit can deny the target of a run whose shards are at work. Such a
run is `Failed`, for good, and its spokes are not told.

**What keeps this from happening is that a run under way is not edited into a denied one.**
-/

namespace Kapture.Hub

open Go Storage Conc

/-- `TargetAllowed=False` is among the conditions. -/
def CaptureLoadTestStatus.deniesTarget (st : CaptureLoadTestStatus) : Bool :=
  st.conditions.any fun
    | .targetDenied .. => true
    | _ => false

/-- Of the `START`s and `STOP`s that a spoke has accepted for a load test, the last is not a
`START`. -/
def Quiet (uid : Nat) (spokeID : Str) (log : List Event) : Prop :=
  (log.find? fun e => e.accepts .start uid spokeID || e.accepts .stop uid spokeID).all
    (·.accepts .stop uid spokeID) = true

instance (uid : Nat) (spokeID : Str) (log : List Event) : Decidable (Quiet uid spokeID log) :=
  inferInstanceAs (Decidable (_ = true))

/-- Every spoke of a load test that failed with a denied target has been stopped. -/
def DeniedStopped (s : Coord) : Prop :=
  ∀ key cur, s.api.find key = some cur → cur.status.phase = .failed →
    cur.status.deniesTarget = true → ∀ a ∈ cur.status.assignments, Quiet cur.uid a.spokeID s.log

/-- A run under way is not edited into one whose target is denied. -/
def deniesIdle : CoordLabel → Coord → Bool
  | .act (.edit key spec), s => (s.api.find key).all fun cur =>
      cur.status.assignments.isEmpty || cur.status.phase.terminal || !targetDenied spec
  | _, _ => true

/-! ## The invariant -/

/-- A load test with assignments is over or has an allowed target, and one that was denied
has none. -/
structure DeniedObject (_ : List Event) (cur : CaptureLoadTest) : Prop where
  allowed : cur.status.assignments ≠ [] → cur.status.phase.terminal = false →
    targetDenied cur.spec = false
  unassigned : cur.status.deniesTarget = true →
    cur.status.phase = .failed ∧ cur.status.assignments = []

abbrev DeniedInv := LogInv (fun _ => True) DeniedObject

variable {ok : CoordLabel → Coord → Prop} {st : CaptureLoadTestStatus}

theorem keeps_deniedObject
    (hok : ∀ {l s}, ok l s → deniesIdle l s = true) : Keeps ok DeniedObject where
  same := by
    intro log x y h _ _ hst hspec
    refine ⟨?_, ?_⟩
    · rw [hst, hspec]
      exact h.allowed
    · rw [hst]
      exact h.unassigned
  new := by
    intro log x _ hst
    refine ⟨fun h => absurd ?_ h, fun h => ?_⟩
    · rw [hst]
      rfl
    · rw [hst] at h
      cases h
  edit := by
    intro key spec s cur hlabel hfind h
    refine ⟨fun hne hterm => ?_, h.unassigned⟩
    have hidle := hok hlabel
    simp only [deniesIdle, hfind, Option.all_some, hterm, Bool.or_false, Bool.or_eq_true,
      List.isEmpty_iff, Bool.not_eq_true'] at hidle
    exact hidle.resolve_left hne

theorem deniedInv_stable (hok : ∀ {l s}, ok l s → deniesIdle l s = true) :
    coordinator.Stable ok DeniedInv :=
  LogInv.stable (keeps_deniedObject hok)

theorem DeniedInv.note {s : Coord} (h : DeniedInv s) {e : Event} (hu : e.uid ≤ s.api.revision) :
    DeniedInv (s.note e) :=
  LogInv.note h hu trivial fun _ hJ => ⟨hJ.allowed, hJ.unassigned⟩

/-- **A status that is written over `lt`**, which is not over. -/
theorem DeniedInv.wrote {s : Coord} (h : DeniedInv s) {lt : CaptureLoadTest}
    (hfind : s.api.find lt.key = some lt) (hd : lt.deleting = false)
    (hallowed : st.assignments ≠ [] → st.phase.terminal = false → targetDenied lt.spec = false)
    (hden : st.deniesTarget = true → st.phase = .failed ∧ st.assignments = []) :
    DeniedInv (s.wrote lt st) :=
  LogInv.wrote h hfind hd (fun _ => trivial) (fun _ => ⟨hallowed, hden⟩)
    fun _ _ _ hJ => ⟨hJ.allowed, hJ.unassigned⟩

/-! ## The program -/

/-- A load test that is not over was not denied. -/
theorem DeniedObject.notDenied {log : List Event} {cur : CaptureLoadTest} (h : DeniedObject log cur)
    (hterm : cur.status.phase.terminal = false) : cur.status.deniesTarget = false := by
  rw [Bool.eq_false_iff]
  intro hden
  rw [(h.unassigned hden).1] at hterm
  cases hterm

/-- A condition of another type does not bring a denial. -/
theorem deniesTarget_set {st' : CaptureLoadTestStatus} {c : Condition}
    (hc : c.type ≠ .targetAllowed) (hst : st'.conditions = setStatusCondition st.conditions c)
    (h : st.deniesTarget = false) : st'.deniesTarget = false := by
  rw [CaptureLoadTestStatus.deniesTarget, hst, setStatusCondition, List.any_append,
    Bool.or_eq_false_iff]
  refine ⟨?_, ?_⟩
  · rw [CaptureLoadTestStatus.deniesTarget, List.any_eq_false] at h
    rw [List.any_eq_false]
    exact fun x hx => h x (List.mem_of_mem_filter hx)
  · cases c with
    | targetDenied => exact absurd rfl hc
    | _ => rfl

/-- A status without a denial, for an allowed target. -/
theorem DeniedInv.proceeds {s : Coord} (h : DeniedInv s) {lt : CaptureLoadTest}
    (hfind : s.api.find lt.key = some lt) (hd : lt.deleting = false)
    (hallowed : targetDenied lt.spec = false) (hno : st.deniesTarget = false) :
    DeniedInv (s.wrote lt st) :=
  h.wrote hfind hd (fun _ _ => hallowed) fun hden => absurd (hno.symm.trans hden) (by decide)

theorem denied_live (hok : ∀ {l s}, ok l s → deniesIdle l s = true) :
    KeepRules ok DeniedInv (fun _ _ _ => True) UnderWay (fun lt _ => UnderWay lt) UnderWay where
  inv := deniedInv_stable hok
  api := fun _ h => h.api
  denied := by
    intro srv lt t hterm hden hI hG hf
    have hnil : lt.status.assignments = [] := by
      by_contra hne
      rw [(hI.objects hf).allowed hne hterm] at hden
      cases hden
    exact hI.wrote hf hG.undeleted (fun hne => absurd hnil hne) fun _ => ⟨rfl, hnil⟩
  noServer := fun hterm hden hI hG hf => hI.proceeds hf hG.undeleted hden
    (deniesTarget_set (fun h => by cases h) rfl ((hI.objects hf).notDenied hterm))
  noSpokes := fun hterm hden _ hI hG hf => hI.proceeds hf hG.undeleted hden
    (deniesTarget_set (fun h => by cases h) rfl ((hI.objects hf).notDenied hterm))
  assigned := by
    rintro srv lt t spokes now st rfl hterm hden _ hne _ hI hG hf
    refine ⟨hI.proceeds hf hG.undeleted hden ?_,
      fun _ => ⟨rfl, planDistribution_ne_nil lt.spec hne⟩⟩
    exact deniesTarget_set (fun h => by cases h) rfl ((hI.objects hf).notDenied hterm)
  supervise := fun hterm _ hne _ => ⟨hterm, hne⟩
  reports := fun _ h _ => h.log
  start := fun _ hI hR => ⟨hI.note hR.old, hR.log⟩
  finish := fun _ hI hR hf => hI.proceeds hf hR.undeleted
    ((hI.objects hf).allowed hR.log.2 hR.log.1) ((hI.objects hf).notDenied hR.log.1)
  halt := id
  stop := fun hI hB => ⟨hI.note hB.old, hB.log⟩
  aborting := fun _ hI hB hf => hI.proceeds hf hB.undeleted
    ((hI.objects hf).allowed hB.log.2 hB.log.1)
    (deniesTarget_set (fun h => by cases h) rfl ((hI.objects hf).notDenied hB.log.1))
  aborted := fun _ hI hB hf => hI.proceeds hf hB.undeleted
    ((hI.objects hf).allowed hB.log.2 hB.log.1)
    (deniesTarget_set (fun h => by cases h) rfl ((hI.objects hf).notDenied hB.log.1))

theorem denied_delete (hok : ∀ {l s}, ok l s → deniesIdle l s = true) (srv : Option Nat)
    (lt : CaptureLoadTest) :
    coordinator.Triple ok DeniedInv (Reading (fun _ => True) lt) (reconcileDelete srv lt)
      fun _ => DeniedInv := by
  refine triple_reconcileDelete_keep srv (deniedInv_stable hok) (reading_stable _ lt)
    (fun _ h => h.known) (fun _ _ _ _ hI hR => ⟨hI.note hR.old, hR.note id⟩) ?_
  exact fun t hI _ hf => hI.released (keeps_deniedObject hok) hf trivial
    fun _ hJ => ⟨hJ.allowed, hJ.unassigned⟩

/-- **The hub stops what it denies**, in every run in which no run under way is edited into a
denied one: a load test that was denied has no spokes. -/
theorem reaches_deniedStopped {c : Config Coord HubOp HubOp.Ans Result Key}
    (h : Reaches (fun l s => deniesIdle l s = true) c) : DeniedStopped c.state := by
  have hinv : DeniedInv c.state :=
    LogInv.reaches (F := fun _ _ _ => True) h trivial (keeps_deniedObject id)
      (fun hs hu _ _ _ => DeniedInv.note hs hu) (fun _ _ h => h) (fun _ _ _ _ _ _ _ _ => trivial)
      (fun srv lt _ => denied_delete id srv lt) fun srv lt => (denied_live id).live.triple srv lt
  intro key cur hfind _ hden a ha
  rw [((hinv.objects hfind).unassigned hden).2] at ha
  cases ha

end Kapture.Hub
