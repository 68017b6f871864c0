import Kapture.Hub.Rules

/-!
# The phases of a load test

A run is meant to go from `Pending` through `Distributing` and `Running` to one of the
three ends. It does, as long as the gRPC server is there: a reconcile that finds the hub
without a server writes `Pending` over whatever the phase was.
-/

namespace Kapture.Hub

open Go Storage Conc

def Phase.rank : Phase → Nat
  | .unset => 0
  | .pending => 1
  | .distributing => 2
  | .running => 3
  | .completed | .failed | .aborted => 4

/-- `q` may come after `p`: nothing comes after an end but that end. -/
def Phase.Precedes (p q : Phase) : Prop :=
  if p.terminal then q = p else p.rank ≤ q.rank

instance (p q : Phase) : Decidable (p.Precedes q) :=
  inferInstanceAs (Decidable (if p.terminal then q = p else p.rank ≤ q.rank))

theorem Phase.precedes_refl (p : Phase) : p.Precedes p := by
  cases p <;> decide

variable {p : Phase}

theorem Phase.Precedes.trans {q r : Phase} (h₁ : p.Precedes q) (h₂ : q.Precedes r) :
    p.Precedes r := by
  cases p <;> cases q <;> first
    | exact absurd h₁ (by decide)
    | (cases r <;> first | decide | exact absurd h₂ (by decide))

/-- Of two events, newer and older, that store a phase of one load test. -/
def inPhaseOrder : Event → Event → Bool
  | .stored newer, .stored older =>
      decide (newer.uid = older.uid → older.status.phase.Precedes newer.status.phase)
  | _, _ => true

/-- The phases of every load test were stored in order. -/
def PhasesForward (s : Coord) : Prop :=
  s.log.Pairwise fun newer older => inPhaseOrder newer older = true

instance (s : Coord) : Decidable (PhasesForward s) := inferInstanceAs (Decidable (List.Pairwise ..))

/-- A reconcile that has read a run under way finds the gRPC server, too. -/
def serverWhileLive : CoordLabel → Coord → Bool
  | .op .server _, ⟨_, server, _, .read lt :: _⟩ =>
      lt.deleting || !lt.status.phase.live || targetDenied lt.spec || server.isSome
  | _, _ => true

/-! ## The invariant -/

/-- A run under way has its assignments, and one that has them is under way or over. -/
structure Phased (st : CaptureLoadTestStatus) : Prop where
  planned : st.phase.live = true → st.assignments ≠ []
  shown : st.assignments ≠ [] → st.phase.live = true ∨ st.phase.terminal = true

structure PhaseObject (log : List Event) (cur : CaptureLoadTest) : Prop where
  current : ∀ lt, .stored lt ∈ log → lt.uid = cur.uid →
    lt.status.phase.Precedes cur.status.phase
  phased : Phased cur.status

abbrev PhaseInv := LogInv (List.Pairwise fun newer older => inPhaseOrder newer older = true)
  PhaseObject

variable {ok : CoordLabel → Coord → Prop}

variable (ok) in
theorem keeps_phaseObject : Keeps ok PhaseObject where
  same := by
    intro log x y h _ huid hst _
    refine ⟨?_, ?_⟩
    · rw [huid, hst]
      exact h.current
    · rw [hst]
      exact h.phased
  new := by
    intro log x hold hst
    refine ⟨fun lt hlt hu => absurd hu (hold _ hlt).ne, ?_⟩
    rw [hst]
    exact ⟨nofun, fun hne => absurd rfl hne⟩
  edit := fun _ _ h => ⟨h.current, h.phased⟩

variable (ok) in
theorem phaseInv_stable : coordinator.Stable ok PhaseInv := LogInv.stable (keeps_phaseObject ok)

theorem PhaseObject.silent {log : List Event} {cur : CaptureLoadTest} (h : PhaseObject log cur)
    {e : Event} (he : e.stores = false) : PhaseObject (e :: log) cur :=
  ⟨fun lt hlt => h.current lt (mem_of_stores he hlt), h.phased⟩

theorem inPhaseOrder_silent {e e' : Event} (he : e.stores = false) : inPhaseOrder e e' = true := by
  cases e with
  | stored lt => cases he
  | _ => rfl

theorem PhaseInv.note {s : Coord} (h : PhaseInv s) {e : Event} (he : e.stores = false)
    (hu : e.uid ≤ s.api.revision) : PhaseInv (s.note e) :=
  LogInv.note h hu (.cons (fun _ _ => inPhaseOrder_silent he) h.log) fun _ hJ => hJ.silent he

/-- **A status that is written over `lt`** must have a phase that may come after its. -/
theorem PhaseInv.wrote {s : Coord} (h : PhaseInv s) {lt : CaptureLoadTest}
    (hfind : s.api.find lt.key = some lt) (hd : lt.deleting = false)
    {st : CaptureLoadTestStatus} (hph : lt.status.phase.Precedes st.phase)
    (hst : Phased st) : PhaseInv (s.wrote lt st) := by
  have hobj := h.objects hfind
  refine LogInv.wrote h hfind hd (fun rv => .cons (fun e he => ?_) h.log) (fun rv => ⟨?_, hst⟩) ?_
  · cases e with
    | stored lt' =>
        exact decide_eq_true fun huid => (hobj.current lt' he huid.symm).trans hph
    | _ => rfl
  · intro lt' hlt' huid
    rcases List.mem_cons.mp hlt' with h' | h'
    · cases h'
      exact Phase.precedes_refl _
    · exact (hobj.current lt' h' huid).trans hph
  · refine fun rv _ hne hJ => ⟨fun lt' hlt' huid => ?_, hJ.phased⟩
    rcases List.mem_cons.mp hlt' with h' | h'
    · cases h'
      exact absurd huid.symm hne
    · exact hJ.current lt' h' huid

/-! ## The program -/

theorem planDistribution_ne_nil (spec : CaptureLoadTestSpec) {spokes : List SpokeSelection}
    (h : spokes ≠ []) : planDistribution spec spokes ≠ [] := by
  cases spokes with
  | nil => exact absurd rfl h
  | cons a rest => exact List.cons_ne_nil _ _

/-- Anything that is not over may be running next, or over. -/
theorem precedes_of_rank {q : Phase} (hp : p.terminal = false) (hq : 3 ≤ q.rank) :
    p.Precedes q := by
  unfold Phase.Precedes
  rw [if_neg (by rw [hp]; decide)]
  cases p <;> first | exact absurd hp (by decide) | exact Nat.le_trans (by decide) hq

/-- Before it is distributed a load test may go to `Pending`. -/
theorem precedes_early (hp : p.terminal = false) (hl : p.live = false) :
    p.Precedes .pending ∧ p.Precedes .distributing := by
  cases p <;> first | exact absurd hp (by decide) | exact absurd hl (by decide)
                    | exact ⟨by decide, by decide⟩

theorem nextPhase_precedes (hp : p.terminal = false) (total completed failed running : Int32) :
    p.Precedes (nextPhase p total completed failed running) := by
  unfold nextPhase
  split
  · exact precedes_of_rank hp (by decide)
  · split
    · exact precedes_of_rank hp (by decide)
    · split
      · exact precedes_of_rank hp (by decide)
      · exact Phase.precedes_refl p

theorem nextPhase_shown (h : p.live = true ∨ p.terminal = true)
    (total completed failed running : Int32) :
    (nextPhase p total completed failed running).live = true ∨
      (nextPhase p total completed failed running).terminal = true := by
  unfold nextPhase
  split
  · exact .inr rfl
  · split
    · exact .inr rfl
    · split
      · exact .inl rfl
      · exact h

/-- A run that has its assignments and is not over. -/
abbrev UnderWay (lt : CaptureLoadTest) (_ : List Event) : Prop :=
  lt.status.phase.terminal = false ∧ lt.status.assignments ≠ []

/-- The reports of a run under way are added up. -/
theorem PhaseObject.next {log : List Event} {lt : CaptureLoadTest} (h : PhaseObject log lt)
    (hway : UnderWay lt log) (total completed failed running : Int32) :
    lt.status.phase.Precedes (nextPhase lt.status.phase total completed failed running) ∧
      ((nextPhase lt.status.phase total completed failed running).live = true ∨
        (nextPhase lt.status.phase total completed failed running).terminal = true) :=
  ⟨nextPhase_precedes hway.1 .., nextPhase_shown (h.phased.shown hway.2) ..⟩

theorem phases_live : KeepRules ok PhaseInv
    (fun srv lt _ => lt.status.phase.live = true → targetDenied lt.spec = false → srv.isSome)
    UnderWay (fun lt _ => UnderWay lt) UnderWay where
  inv := phaseInv_stable ok
  api := fun _ h => h.api
  denied := by
    intro srv lt t hterm _ hI hG hf
    exact hI.wrote hf hG.undeleted (precedes_of_rank (q := .failed) hterm (by decide))
      ⟨nofun, fun _ => .inr rfl⟩
  noServer := by
    intro lt t hterm hden hI hG hf
    have hl : lt.status.phase.live = false := by
      cases hl : lt.status.phase.live with
      | false => rfl
      | true => cases hG.log hl hden
    refine hI.wrote hf hG.undeleted (precedes_early hterm hl).1 ⟨nofun, fun hne => ?_⟩
    -- with assignments it would be under way, and have found the server
    rcases (hI.objects hf).phased.shown hne with hlive | hover
    · exact absurd hlive (Bool.eq_false_iff.mp hl)
    · exact absurd hover (Bool.eq_false_iff.mp hterm)
  noSpokes := by
    intro srv lt t hterm _ hnil hI hG hf
    have hl : lt.status.phase.live = false :=
      Bool.eq_false_iff.mpr fun hl => (hI.objects hf).phased.planned hl hnil
    exact hI.wrote hf hG.undeleted (precedes_early hterm hl).1 ⟨nofun, fun hne => absurd hnil hne⟩
  assigned := by
    rintro srv lt t spokes now st rfl hterm _ hnil hne _ hI hG hf
    have hl : lt.status.phase.live = false :=
      Bool.eq_false_iff.mpr fun hl => (hI.objects hf).phased.planned hl hnil
    have hplan := planDistribution_ne_nil lt.spec hne
    exact ⟨hI.wrote hf hG.undeleted (precedes_early hterm hl).2 ⟨fun _ => hplan, fun _ => .inl rfl⟩,
      fun _ => ⟨rfl, hplan⟩⟩
  supervise := fun hterm _ hne _ => ⟨hterm, hne⟩
  reports := fun _ h _ => h.log
  start := fun _ hI hR => ⟨hI.note rfl hR.old, hR.log⟩
  finish := by
    intro srv lt l t now hnow hI hR hf
    have hnext := (hI.objects hf).next hR.log
    exact hI.wrote hf hR.undeleted (hnext ..).1 ⟨fun _ => hR.log.2, fun _ => (hnext ..).2⟩
  halt := id
  stop := fun hI hB => ⟨hI.note rfl hB.old, hB.log⟩
  aborting := by
    intro srv lt l t t₁ t₂ hnow hI hB hf
    have hnext := (hI.objects hf).next hB.log
    exact hI.wrote hf hB.undeleted (hnext ..).1 ⟨fun _ => hB.log.2, fun _ => (hnext ..).2⟩
  aborted := fun _ hI hB hf =>
    hI.wrote hf hB.undeleted (precedes_of_rank (q := .aborted) hB.log.1 (by decide))
      ⟨nofun, fun _ => .inr rfl⟩

theorem phases_delete (srv : Option Nat) (lt : CaptureLoadTest) :
    coordinator.Triple ok PhaseInv (Reading (fun _ => True) lt) (reconcileDelete srv lt)
      fun _ => PhaseInv := by
  refine triple_reconcileDelete_keep srv (phaseInv_stable ok) (reading_stable _ lt)
    (fun _ h => h.known) (fun _ _ _ _ hI hR => ⟨hI.note rfl hR.old, hR.note id⟩) ?_
  intro t hI _ hf
  exact hI.released (keeps_phaseObject ok) hf (.cons (fun _ _ => inPhaseOrder_silent rfl) hI.log)
    fun _ hJ => hJ.silent rfl

/-- In a run in which a reconcile that reads a run under way finds the gRPC server. -/
theorem reaches_phaseInv {c : Config Coord HubOp HubOp.Ans Result Key}
    (h : Reaches (fun l s => serverWhileLive l s = true) c) : PhaseInv c.state := by
  refine LogInv.reaches (F := fun srv lt _ => lt.deleting = false →
      lt.status.phase.live = true → targetDenied lt.spec = false → srv.isSome) h .nil
    (keeps_phaseObject _) (fun hs hu he _ _ => PhaseInv.note hs he hu) (fun _ _ h => h) ?_ ?_ ?_
  · intro t₀ t c lt _ _ hlog hok hd hl hden
    obtain ⟨api, server, servers, log⟩ := t
    cases hlog
    simpa [serverWhileLive, hd, hl, hden] using hok
  · exact fun srv lt _ => (phases_delete srv lt).pre fun t _ h => h.mono fun _ => trivial
  · exact fun srv lt => (phases_live.live.triple srv lt).pre
      fun t _ h => h.mono fun hF => hF h.undeleted

/-- **Phases go forward**, in every run in which a reconcile that reads a run under way
finds the gRPC server. -/
theorem phases_go_forward {c : Config Coord HubOp HubOp.Ans Result Key}
    (h : Reaches (fun l s => serverWhileLive l s = true) c) : PhasesForward c.state :=
  LogInv.log (reaches_phaseInv h)

theorem phases_go_forward_started : ∃ c, Reaches (fun l s => serverWhileLive l s = true) c ∧
    c.state.log.length = 6 ∧ PhasesForward c.state := by
  obtain ⟨c, hc, hlen⟩ := exists_run serverWhileLive startedRun (fun s => s.log.length == 6)
    (by decide +kernel)
  exact ⟨c, hc, beq_iff_eq.mp hlen, phases_go_forward hc⟩

/-- The server stops, and the next reconcile takes the run back to `Pending`. -/
theorem phase_goes_back : ∃ c, Reaches Machine.always c ∧ ¬ PhasesForward c.state := by
  obtain ⟨c, hc, h⟩ := exists_free_run
    (startedRun ++ [.act .stopServer] ++ readPass ++ [.op (.api .ok), .leave])
    (fun s => !decide (PhasesForward s)) (by decide +kernel)
  exact ⟨c, hc, by simpa using h⟩

end Kapture.Hub
