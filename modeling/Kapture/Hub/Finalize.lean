import Kapture.Hub.Rules

/-!
# When the finalizer goes

A load test that is deleted keeps its finalizer until every assigned spoke was told to
stop, or is gone. So it is while the gRPC server runs. A reconcile that finds no server
removes the finalizer at once: nobody is told, and the shards run on.
-/

namespace Kapture.Hub

open Go Storage Conc

/-- The spoke took a `STOP` for the load test, or the running server did not know it. -/
def Event.stops (lt : CaptureLoadTest) (spokeID : Str) : Event → Bool
  | .sent id d r running => id == spokeID && d.action == .stop && d.loadTest == lt.key &&
      d.incarnation == lt.uid && (r == .accepted || r == .notFound && running)
  | _ => false

def Stopped (lt : CaptureLoadTest) (log : List Event) (a : LoadTestAssignment) : Prop :=
  ∃ e ∈ thisPass log, e.stops lt a.spokeID = true

instance (lt : CaptureLoadTest) (log : List Event) (a : LoadTestAssignment) :
    Decidable (Stopped lt log a) :=
  inferInstanceAs (Decidable (∃ e ∈ thisPass log, e.stops lt a.spokeID = true))

/-- The finalizer was removed only in reconciles that had stopped every assigned spoke. -/
def FinalizeSound : List Event → Prop
  | [] => True
  | .finalized lt :: older =>
      (∀ a ∈ lt.status.assignments, Stopped lt older a) ∧ FinalizeSound older
  | _ :: older => FinalizeSound older

/-- A deletion that has spokes to stop finds the server, and the server it asks is still
the one that runs when a spoke is missing. -/
def serverWhileDeleting : CoordLabel → Coord → Bool
  | .op .server _, s => (lastRead s.log).all fun lt =>
      !(lt.deleting && lt.finalizer && !lt.status.assignments.isEmpty) || s.server.isSome
  | .op (.findSpoke srv _ _) (.entry none), s => (lastRead s.log).all fun lt =>
      !lt.deleting || s.runs srv
  | _, _ => true

/-! ## The invariant -/

abbrev FinalInv := PlainInv FinalizeSound

variable {ok : CoordLabel → Coord → Prop} {log : List Event} {lt : CaptureLoadTest}

theorem FinalizeSound.cons (h : FinalizeSound log) {e : Event} (he : e.finalizes = false) :
    FinalizeSound (e :: log) := by
  cases e with
  | finalized lt => cases he
  | _ => exact h

theorem FinalInv.note {s : Coord} (h : FinalInv s) {e : Event} (he : e.finalizes = false)
    (hu : e.uid ≤ s.api.revision) : FinalInv (s.note e) :=
  PlainInv.note h hu (h.log.cons he)

theorem FinalInv.wrote {s : Coord} (h : FinalInv s) (hfind : s.api.find lt.key = some lt)
    (hd : lt.deleting = false) (st : CaptureLoadTestStatus) : FinalInv (s.wrote lt st) :=
  PlainInv.wrote h hfind hd fun _ => h.log.cons rfl

theorem Stopped.cons {a : LoadTestAssignment} (h : Stopped lt log a) {e : Event}
    (he : e.begins = false) : Stopped lt (e :: log) a := by
  obtain ⟨e', hmem, he'⟩ := h
  exact ⟨e', thisPass_cons he log ▸ List.mem_cons_of_mem _ hmem, he'⟩

/-! ## The program -/

/-- A `STOP` that is counted as delivered stops its spoke. -/
theorem stopped_of_delivered {a : LoadTestAssignment} {r : SendResult} {running : Bool}
    (hr : r.delivered = true) (hrun : r = .notFound → running = true) :
    Stopped lt (.sent a.spokeID (stopDirective lt) r running :: log) a := by
  refine ⟨_, List.mem_cons_self, ?_⟩
  cases r with
  | accepted => simp [Event.stops, stopDirective]
  | notFound => simp [Event.stops, stopDirective, hrun]
  | _ => cases hr

theorem finalize_delete (hok : ∀ {l s}, ok l s → serverWhileDeleting l s = true)
    (srv : Option Nat) (lt : CaptureLoadTest) (hd : lt.deleting = true)
    (hsrv : lt.finalizer = true → lt.status.assignments ≠ [] → srv.isSome) :
    coordinator.Triple ok FinalInv (Reading (fun log => lastRead log = some lt) lt)
      (reconcileDelete srv lt) fun _ => FinalInv := by
  have hI := plainInv_stable ok FinalizeSound
  have hR : ∀ F, coordinator.Stable ok (Reading F lt) := fun F => reading_stable F lt
  have remove : coordinator.Triple ok FinalInv
      (Reading (fun log => ∀ a ∈ lt.status.assignments, Stopped lt log a) lt)
      (removeFinalizer lt) fun _ => FinalInv := by
    refine triple_removeFinalizer (M := fun _ => True) hI (hR _) (Machine.stable_const _)
      (fun _ h => h.known) (fun t hIt hFt hf => ⟨?_, trivial⟩) (fun _ h _ => h) (fun _ h _ => h)
    exact PlainInv.released hIt hf ⟨hFt.log, hIt.log⟩
  unfold reconcileDelete
  split
  · rename_i hfin
    cases srv with
    | none =>
        have hnil : lt.status.assignments = [] := by
          by_contra hne
          cases hsrv hfin hne
        refine remove.pre fun t _ h => h.mono fun _ => ?_
        rw [hnil]
        exact fun _ ha => absurd ha List.not_mem_nil
    | some srv =>
        refine .bind (triple_stopShards (L := fun rest b => Reading (fun log =>
          lastRead log = some lt ∧ (b = true → ∀ a ∈ lt.status.assignments, a ∈ rest ∨
            Stopped lt log a)) lt) srv lt hI (fun _ _ => hR _) ?_ ?_ _ _ |>.pre ?_) fun all => ?_
        · exact fun a rest b t _ h => h.mono fun hF => ⟨hF.1, nofun⟩
        · intro a rest b t r hIt hL hfound
          refine ⟨FinalInv.note hIt rfl hL.old, hL.api, hL.known, hL.old, hL.held, hL.log.1,
            fun hb a' ha' => ?_⟩
          obtain ⟨hb, hr⟩ := Bool.and_eq_true_iff.mp hb
          rcases hL.log.2 hb a' ha' with hmem | hst
          · rcases List.mem_cons.mp hmem with rfl | hmem
            · refine .inr (stopped_of_delivered hr fun hnf => ?_)
              -- the spoke was looked up on the server that runs
              simpa [serverWhileDeleting, hL.log.1, hd] using hok (hfound hnf)
            · exact .inl hmem
          · exact .inr (hst.cons rfl)
        · exact fun t _ h => h.mono fun hF => ⟨hF, fun _ a ha => .inl ha⟩
        · cases all with
          | false => exact .done hI fun _ h => h
          | true =>
              refine triple_silent hI (hR _) (fun _ _ _ _ h => exec_clearReplayStatuses h)
                fun _ => remove.pre fun t _ h => h.mono fun hF a ha => ?_
              exact (hF.2 rfl a ha).resolve_left List.not_mem_nil
  · exact .done hI fun _ h => h

/-- A reconcile of a load test that is not being deleted leaves the finalizer alone. -/
theorem finalize_live : KeepRules ok FinalInv (fun _ _ _ => True) (fun _ _ => True)
    (fun _ _ _ => True) (fun _ _ => True) where
  inv := plainInv_stable ok FinalizeSound
  api := fun _ h => h.api
  denied := fun _ _ hI hG hf => hI.wrote hf hG.undeleted _
  noServer := fun _ _ hI hG hf => hI.wrote hf hG.undeleted _
  noSpokes := fun _ _ _ hI hG hf => hI.wrote hf hG.undeleted _
  assigned := fun _ _ _ _ _ _ hI hG hf => ⟨hI.wrote hf hG.undeleted _, fun _ => trivial⟩
  supervise := fun _ _ _ h => h
  reports := fun _ _ _ => trivial
  start := fun _ hI hR => ⟨FinalInv.note hI rfl hR.old, trivial⟩
  finish := fun _ hI hR hf => hI.wrote hf hR.undeleted _
  halt := id
  stop := fun hI hB => ⟨FinalInv.note hI rfl hB.old, trivial⟩
  aborting := fun _ hI hB hf => hI.wrote hf hB.undeleted _
  aborted := fun _ hI hB hf => hI.wrote hf hB.undeleted _

/-- **The finalizer is removed only when every assigned spoke is stopped or gone**, in
every run in which deletions find the gRPC server. -/
theorem finalize_sound {c : Config Coord HubOp HubOp.Ans Result Key}
    (h : Reaches (fun l s => serverWhileDeleting l s = true) c) : FinalizeSound c.state.log := by
  refine (LogInv.reaches (F := fun srv lt log => lt.deleting = true → lastRead log = some lt ∧
      (lt.finalizer = true → lt.status.assignments ≠ [] → srv.isSome)) h trivial (keeps_nothing _)
    (fun hs hu _ _ he => FinalInv.note hs he hu) ?_ ?_ ?_ ?_).log
  · exact fun rv hd _ hd' => absurd (hd.symm.trans hd') Bool.false_ne_true
  · intro t₀ t c lt _ _ hlog hok hd
    rw [hlog]
    refine ⟨rfl, fun hfin hne => ?_⟩
    simpa [serverWhileDeleting, hlog, lastRead, hd, hfin, hne] using hok
  · intro srv lt hd t ht hR
    exact finalize_delete id srv lt hd (hR.log hd).2 t ht (hR.mono fun hF => (hF hd).1)
  · exact fun srv lt => (finalize_live.live.triple srv lt).pre
      fun t _ h => h.mono fun _ => trivial

/-- A load test under way is deleted. -/
def deletedRun : List CoordMove := startedRun ++ [.act (.delete smallKey)]

theorem finalize_sound_stopped : ∃ c, Reaches (fun l s => serverWhileDeleting l s = true) c ∧
    c.state.log.any Event.finalizes = true ∧ FinalizeSound c.state.log := by
  obtain ⟨c, hc, h⟩ := exists_run serverWhileDeleting
    (deletedRun ++ readPass ++ sendMoves true ++ [.op .none, .op (.api .ok), .leave])
    (fun s => s.log.any Event.finalizes) (by decide +kernel)
  exact ⟨c, hc, h, finalize_sound hc⟩

/-- The last finalizer that was removed left a spoke without its `STOP`. -/
def unstoppedEnd : List Event → Bool
  | .finalized lt :: older => lt.status.assignments.any fun a => !decide (Stopped lt older a)
  | _ => false

/-- Without a server the finalizer goes and nobody is told. -/
theorem finalized_without_stop : ∃ c, Reaches Machine.always c ∧ ¬ FinalizeSound c.state.log := by
  obtain ⟨c, hc, h⟩ := exists_free_run
    (deletedRun ++ [.act .stopServer] ++ readPass ++ [.op (.api .ok)])
    (fun s => unstoppedEnd s.log) (by decide +kernel)
  unfold unstoppedEnd at h
  split at h
  · rename_i lt older hlog
    obtain ⟨a, ha, hst⟩ := List.any_eq_true.mp h
    refine ⟨c, hc, fun hs => ?_⟩
    rw [hlog] at hs
    exact absurd (hs.1 a ha) (by simpa using hst)
  · cases h

end Kapture.Hub
