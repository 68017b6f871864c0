import Kapture.Hub.Denied
import Kapture.Spoke.Reconcile

/-!
# Denied targets on a spoke, and on both sides

A spoke looks at the allowlist of a replay again before it runs it. As on the hub the gate
is passed by every reconcile, and as there it only marks the replay as `Failed`: a job that
is already at work stays. So the target of a replay must not be edited into a denied one
once the replay has its finalizer, after which there may be a job.
-/

namespace Kapture.Spoke

open Go Storage Hub Conc Objects

/-- The replay was stopped at the gate. -/
def TrafficReplayStatus.deniesTarget (st : TrafficReplayStatus) : Bool :=
  st.conditions.any fun
    | .targetDenied .. => true
    | _ => false

/-- No job is left to run. -/
def JobDone (job : Option ReplayJob) : Prop := ∀ j ∈ job, j.finished = true

instance (job : Option ReplayJob) : Decidable (JobDone job) :=
  inferInstanceAs (Decidable (∀ j ∈ job, j.finished = true))

/-- A replay that failed because its target is denied has no job at work. -/
def DeniedFinished (s : Cluster) : Prop :=
  ∀ key tr, s.replays.find key = some tr → tr.status.phase = .failed →
    tr.status.deniesTarget = true → JobDone (s.job (replayJobKey key))

/-- A replay is not edited into one whose target is denied, once it has its finalizer and
until it is over. -/
def deniesUnstarted : ClusterLabel → Cluster → Bool
  | .act (.edit key spec), s => (s.replays.find key).all fun cur =>
      !cur.finalizer || cur.status.phase.terminal || !spec.denied
  | _, _ => true

/-! ## The invariant -/

/-- What holds of a replay and its job. -/
structure Paired (tr : Option TrafficReplay) (job : Option ReplayJob) : Prop where
  /-- There is no job before there is a finalizer. -/
  idle : (∀ x ∈ tr, x.finalizer = false) → job = none
  allowed : ∀ x ∈ tr, x.finalizer = true → x.status.phase.terminal = false →
    x.spec.denied = true → JobDone job
  denied : ∀ x ∈ tr, x.status.deniesTarget = true → x.status.phase = .failed ∧ JobDone job

structure ReplayInv (s : Cluster) : Prop where
  store : s.replays.Ok
  paired : ∀ key, Paired (s.replays.find key) (s.job (replayJobKey key))

theorem replayJobKey_inj {k k' : Key} (h : replayJobKey k = replayJobKey k') : k = k' := by
  obtain ⟨hns, hname⟩ := Key.mk.inj h
  obtain ⟨ns, name⟩ := k
  obtain ⟨ns', name'⟩ := k'
  rw [Key.mk.injEq]
  exact ⟨hns, List.append_cancel_right hname⟩

theorem replayInv_start : ReplayInv Cluster.start where
  store := Store.ok_empty
  paired := by
    intro key
    refine ⟨fun _ => rfl, ?_, ?_⟩
    · intro x hx
      cases hx
    · intro x hx
      cases hx

theorem jobDone_none : JobDone none := by
  intro j hj
  cases hj

/-- A replay changes, and its job does not. -/
theorem ReplayInv.replays {s : Cluster} (h : ReplayInv s) (key : Key)
    {objects : Store Key TrafficReplay} (hok : objects.Ok)
    (hother : ∀ k, k ≠ key → objects.find k = s.replays.find k)
    (hself : Paired (objects.find key) (s.job (replayJobKey key))) :
    ReplayInv { s with replays := objects } := by
  refine ⟨hok, fun k => ?_⟩
  by_cases hk : k = key
  · rw [hk]
    exact hself
  · show Paired (objects.find k) _
    rw [hother k hk]
    exact h.paired k

theorem ReplayInv.put {s : Cluster} (h : ReplayInv s) (x : TrafficReplay)
    (hself : Paired (some (s.replays.stamped x)) (s.job (replayJobKey x.key))) :
    ReplayInv { s with replays := s.replays.put x } := by
  refine h.replays x.key (h.store.put x) (fun k hk => Store.find_put_of_ne _ hk) ?_
  have hfind : (s.replays.put x).find x.key = some (s.replays.stamped x) := Store.find_put_eq _ rfl
  rw [hfind]
  exact hself

/-- A replay is stored, or goes away with its finalizer. -/
theorem ReplayInv.stored {s : Cluster} (h : ReplayInv s) (x : TrafficReplay)
    (hkeep : Paired (some (s.replays.stamped x)) (s.job (replayJobKey x.key)))
    (hdrop : x.deleting = true → x.finalizer = false → s.job (replayJobKey x.key) = none) :
    ReplayInv { s with replays := s.replays.store x } := by
  by_cases hgone : x.deleting = true ∧ x.finalizer = false
  · refine h.replays x.key (h.store.store x) (fun k hk => Store.find_store_of_ne _ hk) ?_
    have hfind : (s.replays.store x).find x.key = none :=
      Store.find_store_drop _ rfl hgone.1 hgone.2
    rw [hfind]
    refine ⟨fun _ => hdrop hgone.1 hgone.2, ?_, ?_⟩
    · intro y hy
      cases hy
    · intro y hy
      cases hy
  · have hput : s.replays.store x = s.replays.put x := if_neg hgone
    rw [hput]
    exact h.put x hkeep

theorem ReplayInv.pairedWith {s : Cluster} (h : ReplayInv s) {key : Key} {tr : TrafficReplay}
    (hfind : s.replays.find key = some tr) : Paired (some tr) (s.job (replayJobKey tr.key)) := by
  have hkey : tr.key = key := h.store.key hfind
  have hp := h.paired key
  rwa [hfind, ← hkey] at hp

/-- A job changes, and its replay does not. -/
theorem ReplayInv.jobs {s : Cluster} (h : ReplayInv s) {key : Key}
    {jobs : AList fun _ : Key => ReplayJob} (hother : ∀ k, k ≠ key → jobs.lookup k = s.job k)
    (hself : ∀ k, replayJobKey k = key → Paired (s.replays.find k) (jobs.lookup key)) :
    ReplayInv { s with jobs := jobs } := by
  refine ⟨h.store, fun k => ?_⟩
  show Paired (s.replays.find k) (jobs.lookup (replayJobKey k))
  by_cases hk : replayJobKey k = key
  · rw [hk]
    exact hself k hk
  · rw [hother _ hk]
    exact h.paired k

theorem Paired.finish {tr : Option TrafficReplay} {job : Option ReplayJob} (h : Paired tr job) :
    Paired tr none :=
  ⟨fun _ => rfl, fun _ _ _ _ _ => jobDone_none,
    fun x hx hden => ⟨(h.denied x hx hden).1, jobDone_none⟩⟩

/-- A job at work may do anything. -/
theorem Paired.progress {tr : Option TrafficReplay} {job job' : ReplayJob}
    (h : Paired tr (some job)) (hwork : job.finished = false) : Paired tr (some job') := by
  have hnot : ¬ JobDone (some job) := by
    intro hdone
    rw [hdone job rfl] at hwork
    cases hwork
  refine ⟨fun hfin => ?_, fun x hx hf ht hd => absurd (h.allowed x hx hf ht hd) hnot,
    fun x hx hd => absurd (h.denied x hx hd).2 hnot⟩
  cases h.idle hfin

/-- Another version of a replay with the same finalizer and status. -/
theorem Paired.edit {tr tr' : TrafficReplay} {job : Option ReplayJob} (h : Paired (some tr) job)
    (hfin : tr'.finalizer = tr.finalizer) (hst : tr'.status = tr.status)
    (hspec : tr.finalizer = true → tr.status.phase.terminal = false → tr'.spec.denied = true →
      tr.spec.denied = true) : Paired (some tr') job := by
  refine ⟨fun hno => h.idle ?_, ?_, ?_⟩
  · rintro x ⟨⟩
    rw [← hfin]
    exact hno tr' rfl
  · rintro x ⟨⟩ hf ht hd
    rw [hfin] at hf
    rw [hst] at ht
    exact h.allowed tr rfl hf ht (hspec hf ht hd)
  · rintro x ⟨⟩ hd
    rw [hst] at hd ⊢
    exact h.denied tr rfl hd

variable {ok : ClusterLabel → Cluster → Prop}

/-- **The others keep the invariant.** -/
theorem replayInv_stable (hok : ∀ {l s}, ok l s → deniesUnstarted l s = true) :
    cluster.Stable ok ReplayInv := by
  intro a s s' ha h hs
  have hrevised : ∀ {key tr new}, s.replays.find key = some tr → ReplayRevised a key tr new →
      Paired (some (s.replays.stamped new)) (s.job (replayJobKey new.key)) := by
    rintro key tr new hfind (⟨spec, rfl, rfl⟩ | rfl)
    · refine (hs.pairedWith hfind).edit rfl rfl fun hf ht hd => ?_
      have hno := hok ha
      simp only [deniesUnstarted, hfind, Option.all_some, hf, ht, Bool.not_true, Bool.or_self,
        Bool.false_or, Bool.not_eq_true'] at hno
      have hden : spec.denied = true := hd
      rw [hno] at hden
      cases hden
    · exact (hs.pairedWith hfind).edit rfl rfl fun _ _ h => h
  obtain ⟨_, hch, rfl⟩ | ⟨key, job, job', hjob, hwork, rfl⟩ | ⟨key, rfl⟩ | ⟨storages, rfl⟩ :=
    cluster_act_cases h
  · cases hch with
    | same => exact hs
    | created hnone hnew =>
        obtain ⟨tr, rfl⟩ := hnew
        have hjob : s.job (replayJobKey tr.key) = none := by
          refine (hs.paired tr.key).idle fun x hx => ?_
          rw [show s.replays.find tr.key = none from hnone] at hx
          cases hx
        refine hs.put tr.fresh ⟨fun _ => hjob, ?_, ?_⟩
        · rintro x ⟨⟩ hf
          cases hf
        · rintro x ⟨⟩ hd
          cases hd
    | edited hfind _ hover => exact hs.put _ (hrevised hfind hover)
    | deleted hfind _ hover =>
        have hp := hrevised hfind hover
        refine hs.stored _ hp fun _ hf => hp.idle ?_
        rintro x ⟨⟩
        exact hf
  · refine hs.jobs (fun k hk => AList.lookup_insert_ne hk) fun k hk => ?_
    rw [AList.lookup_insert]
    have hp := hs.paired k
    rw [hk, hjob] at hp
    exact hp.progress hwork
  · refine hs.jobs (fun k hk => AList.lookup_erase_ne hk) fun k hk => ?_
    rw [AList.lookup_erase]
    exact (hs.paired k).finish
  · exact ⟨hs.store, hs.paired⟩

/-! ## The reconciler -/

variable {s s' : Cluster} {c : Cluster.Choice}

/-- What a reconcile knows of a replay that it works on and that has its finalizer. -/
structure Working (tr : TrafficReplay) (s : Cluster) : Prop where
  store : s.replays.Ok
  known : s.replays.Known tr
  finalizer : tr.finalizer = true
  /-- The stored replay is still that one, but for edits and for being deleted. -/
  held : ∃ cur, s.replays.find tr.key = some cur ∧ cur.finalizer = true ∧ cur.status = tr.status
  /-- No edit has denied its target. -/
  kept : tr.status.phase.terminal = false → tr.spec.denied = false →
    ∀ cur, s.replays.find tr.key = some cur → cur.spec.denied = false

theorem Working.of_find {tr : TrafficReplay} (hs : s.replays.Ok)
    (h : s.replays.find tr.key = some tr) (hf : tr.finalizer = true) : Working tr s := by
  refine ⟨hs, Store.known_of_find hs h, hf, ⟨tr, h, hf, rfl⟩, fun _ hden cur hcur => ?_⟩
  rw [h] at hcur
  cases hcur
  exact hden

/-- **Nobody denies the target of a replay that a reconcile works on.** -/
theorem working_stable (hok : ∀ {l s}, ok l s → deniesUnstarted l s = true) (tr : TrafficReplay) :
    cluster.Stable ok (Working tr) := by
  intro a s s' ha h hw
  obtain ⟨cur, hfind, hfin, hst⟩ := hw.held
  obtain ⟨x, hx, hxf, hxst, hspec⟩ := cluster_act_find h hw.store hfind hfin
  refine ⟨(replays_change h).ok hw.store, (replays_change h).known hw.known, hw.finalizer,
    ⟨x, hx, hxf, hxst.trans hst⟩, fun hlive hden y hy => ?_⟩
  rw [hx] at hy
  cases hy
  rcases hspec with hspec | rfl
  · rw [hspec]
    exact hw.kept hlive hden cur hfind
  · simpa [deniesUnstarted, hfind, hfin, hst, hlive] using hok ha

/-- The same of a replay that has passed the gate. -/
def Gated (tr : TrafficReplay) (s : Cluster) : Prop :=
  (tr.status.phase.terminal = false ∧ tr.spec.denied = false) ∧ Working tr s

theorem gated_stable (hok : ∀ {l s}, ok l s → deniesUnstarted l s = true) (tr : TrafficReplay) :
    cluster.Stable ok (Gated tr) :=
  (Machine.stable_const _).and (working_stable hok tr)

/-- A status that is written over `tr`. -/
theorem ReplayInv.status (h : ReplayInv s) {tr : TrafficReplay} (hfin : tr.finalizer = true)
    {st : TrafficReplayStatus}
    (hallowed : st.phase.terminal = false → tr.spec.denied = true →
      JobDone (s.job (replayJobKey tr.key)))
    (hden : st.deniesTarget = true → st.phase = .failed ∧ JobDone (s.job (replayJobKey tr.key))) :
    ReplayInv { s with replays := s.replays.store { tr with status := st } } := by
  refine h.stored { tr with status := st } ⟨fun hno => ?_, ?_, ?_⟩ fun _ hf => ?_
  · have : tr.finalizer = false := hno (s.replays.stamped { tr with status := st }) rfl
    rw [hfin] at this
    cases this
  · rintro x ⟨⟩ _ ht hd
    exact hallowed ht hd
  · rintro x ⟨⟩ hd
    exact hden hd
  · have : tr.finalizer = false := hf
    rw [hfin] at this
    cases this

/-- A replay that is not over was not denied. -/
theorem ReplayInv.notDenied (h : ReplayInv s) {tr : TrafficReplay}
    (hfind : s.replays.find tr.key = some tr) (hlive : tr.status.phase.terminal = false) :
    tr.status.deniesTarget = false := by
  rw [Bool.eq_false_iff]
  intro hden
  rw [((h.pairedWith hfind).denied tr rfl hden).1] at hlive
  cases hlive

/-- A condition other than the denial does not bring one. -/
theorem deniesTarget_setCondition {st st' : TrafficReplayStatus} {c : ReplayCondition}
    (hc : ∀ host hosts, c ≠ .targetDenied host hosts)
    (hst : st'.conditions = setCondition st.conditions c) (h : st.deniesTarget = false) :
    st'.deniesTarget = false := by
  rw [TrafficReplayStatus.deniesTarget, hst, setCondition, List.any_append, Bool.or_eq_false_iff]
  refine ⟨?_, ?_⟩
  · rw [TrafficReplayStatus.deniesTarget, List.any_eq_false] at h
    rw [List.any_eq_false]
    exact fun x hx => h x (List.mem_of_mem_filter hx)
  · cases c with
    | targetDenied host hosts => exact absurd rfl (hc host hosts)
    | _ => rfl

section Program

variable (hok : ∀ {l s}, ok l s → deniesUnstarted l s = true)

/-- After the last write only the invariant is left to keep. -/
theorem triple_report (hI : cluster.Stable ok ReplayInv) (tr : TrafficReplay) (result : Result) :
    cluster.Triple ok ReplayInv (fun _ => True) ((reportToHub tr).bind fun _ => .ret result)
      fun _ => ReplayInv := by
  unfold reportToHub
  split
  · exact .done hI fun _ h => h
  · refine .call (fun _ _ => True) hI (Machine.stable_const True) ?_ fun _ => ?_
    · intro t c r t' hIt _ _ hex
      rw [exec_reads rfl hex]
      exact ⟨hIt, trivial⟩
    · exact .done hI fun _ h => h

/-- A status is written over the replay that was read. -/
theorem triple_writeReplay {F : Cluster → Prop} {tr new : TrafficReplay} {result : Result}
    (hI : cluster.Stable ok ReplayInv) (hF : cluster.Stable ok F)
    (hK : ∀ t, F t → t.replays.Known tr) (hkey : new.key = tr.key)
    (hrv : new.resourceVersion = tr.resourceVersion)
    (hw : ∀ t, ReplayInv t → F t → t.replays.find tr.key = some tr →
      ReplayInv { t with replays := t.replays.store { tr with status := new.status } }) :
    cluster.Triple ok ReplayInv F (writeReplayStatus new result) fun _ => ReplayInv := by
  refine .call (fun _ _ => True) hI hF ?_ fun r => ?_
  · intro t c r t' hIt hFt _ hex
    rcases exec_replayStatus (hK t hFt) hkey hrv hex with ⟨_, rfl⟩ | ⟨hfind, rfl, _⟩
    · exact ⟨hIt, trivial⟩
    · exact ⟨hw t hIt hFt hfind, trivial⟩
  · cases r with
    | none => exact .done hI fun _ h => h
    | some tr' => exact triple_report hI tr' result

/-- An operation that only reads. -/
theorem triple_reads {F : Cluster → Prop} {op : ReplayOp} (hop : op.reads = true)
    {k : op.Ans → ReplayPass Result} (hI : cluster.Stable ok ReplayInv) (hF : cluster.Stable ok F)
    (hk : ∀ r, cluster.Triple ok ReplayInv F (k r) fun _ => ReplayInv) :
    cluster.Triple ok ReplayInv F (.call op k) fun _ => ReplayInv := by
  refine .call (fun _ => F) hI hF ?_ hk
  intro t c r t' hIt hFt _ hex
  rw [exec_reads hop hex]
  exact ⟨hIt, hFt⟩

include hok in
/-- Past the gate any status may be written that does not speak of a denial. -/
theorem triple_proceed {tr new : TrafficReplay} {result : Result} (hkey : new.key = tr.key)
    (hrv : new.resourceVersion = tr.resourceVersion)
    (hno : tr.status.deniesTarget = false → new.status.deniesTarget = false) :
    cluster.Triple ok ReplayInv (Gated tr) (writeReplayStatus new result) fun _ => ReplayInv := by
  refine triple_writeReplay (replayInv_stable hok) (gated_stable hok tr) (fun _ h => h.2.known)
    hkey hrv ?_
  intro t hIt hg hfind
  refine hIt.status hg.2.finalizer (fun _ hden => ?_) fun hden => ?_
  · rw [hg.1.2] at hden
    cases hden
  · rw [hno (hIt.notDenied hfind hg.1.1)] at hden
    cases hden

include hok in
theorem triple_advance (tr : TrafficReplay) (job : ReplayJob) :
    cluster.Triple ok ReplayInv (Gated tr) (advance tr job) fun _ => ReplayInv := by
  have hI := replayInv_stable hok
  have hF := gated_stable hok tr
  unfold advance
  split
  · refine triple_reads rfl hI hF fun report => triple_reads rfl hI hF fun now => ?_
    exact triple_proceed hok rfl rfl (deniesTarget_setCondition (fun _ _ h => by cases h) rfl)
  · split
    · refine triple_reads rfl hI hF fun report => triple_reads rfl hI hF fun now => ?_
      exact triple_proceed hok rfl rfl (deniesTarget_setCondition (fun _ _ h => by cases h) rfl)
    · split
      · split
        · exact triple_proceed hok rfl rfl id
        · exact triple_reads rfl hI hF fun now => triple_proceed hok rfl rfl id
      · exact triple_proceed hok rfl rfl id

include hok in
theorem triple_setPhase {tr : TrafficReplay} {phase : TrafficReplayPhase} {c : ReplayCondition}
    (hc : ∀ host hosts, c ≠ .targetDenied host hosts) :
    cluster.Triple ok ReplayInv (Gated tr) (setPhase tr phase c) fun _ => ReplayInv :=
  triple_proceed hok rfl rfl (deniesTarget_setCondition hc rfl)

include hok in
/-- **A job is only made for a replay whose target is allowed.** -/
theorem triple_ensureJob (tr : TrafficReplay) (storage : CaptureStorage) :
    cluster.Triple ok ReplayInv (Gated tr) (ensureJob tr storage) fun _ => ReplayInv := by
  have hI := replayInv_stable hok
  have hF := gated_stable hok tr
  refine triple_reads rfl hI hF fun r => ?_
  rcases r with _ | _ | job
  · exact .done hI fun _ h => h
  · dsimp only
    split
    · exact triple_setPhase hok nofun
    · rename_i job hjob
      have hkey : job.key = replayJobKey tr.key := by
        unfold buildReplayJob at hjob
        cases hargs : buildReplayArgs tr storage with
        | error err =>
            rw [hargs] at hjob
            cases hjob
        | ok args =>
            rw [hargs] at hjob
            cases hjob
            rfl
      refine .call (fun _ => Gated tr) hI hF ?_ fun r => ?_
      · intro t c r t' hIt hg _ hex
        rcases exec_createJob hex with rfl | rfl
        · exact ⟨hIt, hg⟩
        · refine ⟨?_, hg.1, hg.2.store, hg.2.known, hg.2.finalizer, hg.2.held, hg.2.kept⟩
          refine hIt.jobs (fun k hk => AList.lookup_insert_ne hk) fun k hk => ?_
          obtain rfl : k = tr.key := replayJobKey_inj (hk.trans hkey)
          obtain ⟨cur, hfind, hfin, hst⟩ := hg.2.held
          rw [hfind]
          refine ⟨fun hno => ?_, ?_, ?_⟩
          · rw [hno cur rfl] at hfin
            cases hfin
          · rintro x ⟨⟩ _ _ hden
            rw [hg.2.kept hg.1.1 hg.1.2 cur hfind] at hden
            cases hden
          · rintro x ⟨⟩ hden
            have hlive := hg.1.1
            rw [← hst, ((hIt.pairedWith hfind).denied cur rfl hden).1] at hlive
            cases hlive
      · cases r with
        | false => exact .done hI fun _ h => h
        | true => exact triple_setPhase hok nofun
  · exact triple_advance hok tr job

include hok in
theorem triple_runReplay (tr : TrafficReplay) :
    cluster.Triple ok ReplayInv (Working tr) (runReplay tr) fun _ => ReplayInv := by
  have hI := replayInv_stable hok
  have hW := working_stable hok tr
  unfold runReplay
  split
  · exact .done hI fun _ h => h
  · rename_i hlive
    have hlive : tr.status.phase.terminal = false := Bool.not_eq_true _ ▸ hlive
    split
    · rename_i hden
      -- the gate: a denied replay that is not over has no job at work
      refine triple_writeReplay hI hW (fun _ h => h.known) rfl rfl ?_
      intro t hIt hw hfind
      have hdone := (hIt.pairedWith hfind).allowed tr rfl hw.finalizer hlive hden
      exact hIt.status hw.finalizer (fun _ _ => hdone) fun _ => ⟨rfl, hdone⟩
    · rename_i hden
      have hpass : ∀ t, ReplayInv t → Working tr t → Gated tr t :=
        fun t _ hw => ⟨⟨hlive, Bool.not_eq_true _ ▸ hden⟩, hw⟩
      refine .pre ?_ hpass
      refine triple_reads rfl hI (gated_stable hok tr) fun r => ?_
      rcases r with _ | _ | storage
      · exact .done hI fun _ h => h
      · exact triple_setPhase hok nofun
      · exact triple_ensureJob hok tr storage

/-- Without a job a replay stays without one: only a reconcile makes jobs. -/
theorem jobGone_stable (key : Key) : cluster.Stable ok fun s => s.job key = none := by
  intro a s s' _ h hs
  obtain ⟨_, _, rfl⟩ | ⟨k, job, job', hjob, _, rfl⟩ | ⟨k, rfl⟩ | ⟨_, rfl⟩ := cluster_act_cases h
  · exact hs
  · have hne : key ≠ k := by
      rintro rfl
      rw [hs] at hjob
      cases hjob
    exact (AList.lookup_insert_ne hne).trans hs
  · by_cases hk : key = k
    · subst hk
      exact AList.lookup_erase ..
    · exact (AList.lookup_erase_ne hk).trans hs
  · exact hs

/-- A replay that is being deleted loses its job before its finalizer. -/
theorem triple_deleteReplay (tr : TrafficReplay) (hI : cluster.Stable ok ReplayInv) :
    cluster.Triple ok ReplayInv (fun s => s.replays.Known tr) (deleteReplay tr) fun _ =>
      ReplayInv := by
  have hK : cluster.Stable ok fun s => s.replays.Known tr :=
    fun _ _ _ _ h hs => (replays_change h).known hs
  have hG := hK.and (jobGone_stable (replayJobKey tr.key))
  refine .call (fun r s => r = true → s.replays.Known tr ∧ s.job (replayJobKey tr.key) = none)
    hI hK ?_ fun r => ?_
  · intro t c r t' hIt hKt _ hex
    rcases exec_deleteJob hex with ⟨rfl, rfl⟩ | rfl
    · exact ⟨hIt, nofun⟩
    · refine ⟨?_, fun _ => ⟨hKt, AList.lookup_erase ..⟩⟩
      refine hIt.jobs (fun k hk => AList.lookup_erase_ne hk) fun k hk => ?_
      rw [AList.lookup_erase]
      exact (hIt.paired k).finish
  · cases r with
    | false => exact .done hI fun _ h => h
    | true =>
        refine .pre ?_ fun _ _ h => h rfl
        refine .call (fun _ _ => True) hI hG ?_ fun r => ?_
        · intro t c r t' hIt hGt _ hex
          rcases exec_replayUpdate hGt.1 hex with ⟨_, rfl⟩ | ⟨hfind, rfl, _⟩
          · exact ⟨hIt, trivial⟩
          · refine ⟨hIt.stored _ ⟨fun _ => hGt.2, ?_, ?_⟩ fun _ _ => hGt.2, trivial⟩
            · rintro x ⟨⟩ hf
              cases hf
            · rintro x ⟨⟩ hden
              exact (hIt.pairedWith hfind).denied tr rfl hden
        · cases r with
          | none => exact .done hI fun _ h => h
          | some _ => exact .done hI fun _ h => h

/-- The finalizer is added before there is a job. -/
theorem ReplayInv.addFinalizer (h : ReplayInv s) {tr : TrafficReplay}
    (hfind : s.replays.find tr.key = some tr) (hfin : tr.finalizer = false) :
    ReplayInv { s with replays := s.replays.store { tr with finalizer := true } } := by
  have hp := h.pairedWith hfind
  have hjob : s.job (replayJobKey tr.key) = none := by
    refine hp.idle ?_
    rintro x ⟨⟩
    exact hfin
  have hdone : JobDone (s.job (replayJobKey tr.key)) := by
    rw [hjob]
    exact jobDone_none
  refine h.stored _ ⟨fun _ => hjob, ?_, ?_⟩ nofun
  · rintro x ⟨⟩ _ _ _
    exact hdone
  · rintro x ⟨⟩ hden
    exact hp.denied tr rfl hden

include hok in
/-- **A reconcile keeps the invariant.** -/
theorem triple_reconcileReplay (key : Key) :
    cluster.Triple ok ReplayInv (fun _ => True) (reconcileReplay key) fun _ => ReplayInv := by
  have hI := replayInv_stable hok
  refine .call (fun r s => ∀ tr, r = .ok (some tr) → s.replays.Known tr ∧
    (tr.finalizer = true → Working tr s)) hI (Machine.stable_const True) ?_ fun r => ?_
  · intro t c r t' hIt _ _ hex
    obtain rfl := exec_reads rfl hex
    refine ⟨hIt, ?_⟩
    rintro tr rfl
    have hfind := exec_getReplay hex
    have hkey : tr.key = key := hIt.store.key hfind
    rw [← hkey] at hfind
    exact ⟨Store.known_of_find hIt.store hfind, Working.of_find hIt.store hfind⟩
  · rcases r with _ | _ | tr
    · exact .done hI fun _ h => h
    · exact .done hI fun _ h => h
    · dsimp only
      split
      · exact (triple_deleteReplay tr hI).pre fun _ _ h => (h tr rfl).1
      · split
        · rename_i hfin
          exact (triple_runReplay hok tr).pre fun _ _ h => (h tr rfl).2 hfin
        · rename_i hfin
          have hfin : tr.finalizer = false := Bool.not_eq_true _ ▸ hfin
          refine .pre (F := fun s => s.replays.Known tr) ?_ fun _ _ h => (h tr rfl).1
          refine .call (fun r s => ∀ tr', r = some tr' → Working tr' s) hI
            (fun _ _ _ _ h hs => (replays_change h).known hs) ?_ fun r => ?_
          · intro t c r t' hIt hK _ hex
            rcases exec_replayUpdate hK hex with ⟨rfl, rfl⟩ | ⟨hfind, rfl, hr⟩
            · exact ⟨hIt, fun _ h => by cases h⟩
            · have hI' := hIt.addFinalizer hfind hfin
              refine ⟨hI', fun tr' h => ?_⟩
              obtain rfl := hr tr' h
              refine Working.of_find hI'.store ?_ rfl
              exact Store.find_store_keep t.replays rfl fun h => by cases h.2
          · cases r with
            | none => exact .done hI fun _ h => h
            | some tr' => exact (triple_runReplay hok tr').pre fun _ _ h => h tr' rfl

end Program

/-- **A denied replay leaves no job at work**, in every run in which no replay with a finalizer
is edited into a denied one. -/
theorem reaches_deniedFinished {c : Config Cluster ReplayOp ReplayOp.Ans Result Key}
    (h : ClusterReaches (fun l s => deniesUnstarted l s = true) c) : DeniedFinished c.state := by
  have hinv : ReplayInv c.state := by
    refine Machine.Reach.holds h replayInv_start (replayInv_stable id) ?_ fun _ _ hs => hs
    exact fun key s _ hs => triple_reconcileReplay id key s hs trivial
  intro key tr hfind _ hden
  have hp := hinv.paired key
  rw [hfind] at hp
  exact (hp.denied tr rfl hden).2

/-! ## Both sides -/

/-- **A denied target gets no load**, in every run of the hub and every run of a spoke in which
nothing that is under way is edited into something denied: the spokes of a load test that
failed at the gate were stopped, and the jobs of a replay that did are finished. -/
theorem denied_target_idle {c : Config Coord HubOp HubOp.Ans Result Key}
    {d : Config Cluster ReplayOp ReplayOp.Ans Result Key}
    (hc : Reaches (fun l s => deniesIdle l s = true) c)
    (hd : ClusterReaches (fun l s => deniesUnstarted l s = true) d) :
    DeniedStopped c.state ∧ DeniedFinished d.state :=
  ⟨reaches_deniedStopped hc, reaches_deniedFinished hd⟩

abbrev ClusterMove := Machine.Move Key ClusterAct Cluster.Choice

/-- A replay by a user, of a target that its allowlist matches or not. -/
def userReplay (host : Str) : TrafficReplay where
  key := ⟨lit "perf", lit "smoke"⟩
  loadTestLabel := none
  shardIndexLabel := none
  creationTimestamp := 0
  resourceVersion := 0
  deleting := false
  finalizer := false
  spec := ⟨lit "capture", lit "store", ⟨host, none, none⟩, none, none, none, none, none, none,
    some [lit "*.internal"]⟩
  status := .empty
  incarnation := 0

def allowedReplay : TrafficReplay := userReplay (lit "staging.internal")

def deniedReplay : TrafficReplay := userReplay (lit "www.example.com")

def bucketStore : CaptureStorage :=
  ⟨lit "store", .s3, some ⟨lit "captures", lit "eu-west-1", none⟩, none, none, none, none⟩

/-- A replay is reconciled up to its job, which is then at work. -/
def jobRun : List ClusterMove :=
  [.act (.setStorage ⟨lit "perf", lit "store"⟩ bucketStore), .act (.create allowedReplay),
    .enter allowedReplay.key, .op (.api .ok), .op (.api .ok), .op (.api .ok), .op (.api .ok),
    .op (.api .ok), .op (.api .ok), .leave,
    .act (.progress (replayJobKey allowedReplay.key) 0 1 none)]

theorem exists_cluster_run (check : ClusterLabel → Cluster → Bool) (mvs : List ClusterMove)
    (P : Cluster → Bool)
    (h : (cluster.run check mvs ⟨Cluster.start, none⟩).any (fun c => P c.state) = true) :
    ∃ d, ClusterReaches (fun l s => check l s = true) d ∧ P d.state = true :=
  Machine.exists_of_run (fun _ _ h => h) h

/-- The next reconcile finds the target denied. -/
def gatePass : List ClusterMove :=
  [.enter allowedReplay.key, .op (.api .ok), .op (.api .ok), .leave]

/-- The load test of a started run, with a target that its allowlist does not match. -/
def deniedTest : CaptureLoadTestSpec :=
  { smallTest with target := ⟨lit "www.example.com", none, none⟩ }

/-- A load test and a replay with a denied target are stopped at the gate. -/
theorem denied_target_idle_created : ∃ (c : Config Coord HubOp HubOp.Ans Result Key)
    (d : Config Cluster ReplayOp ReplayOp.Ans Result Key),
    Reaches (fun l s => deniesIdle l s = true) c
      ∧ ClusterReaches (fun l s => deniesUnstarted l s = true) d
      ∧ (c.state.api.find smallKey).any (·.status.deniesTarget) = true
      ∧ (d.state.replays.find deniedReplay.key).any (·.status.deniesTarget) = true
      ∧ DeniedStopped c.state ∧ DeniedFinished d.state := by
  obtain ⟨c, hc, hfailed⟩ := exists_run deniesIdle
    ([.act .startServer, .act (.create smallKey deniedTest)] ++ readPass
      ++ [.op (.api .ok), .op (.api .ok), .leave])
    (fun s => (s.api.find smallKey).any (·.status.deniesTarget)) (by decide +kernel)
  obtain ⟨d, hd, hden⟩ := exists_cluster_run deniesUnstarted
    (.act (.create deniedReplay) :: .enter deniedReplay.key :: .op (.api .ok) :: gatePass.tail)
    (fun s => (s.replays.find deniedReplay.key).any (·.status.deniesTarget)) (by decide +kernel)
  exact ⟨c, d, hc, hd, hfailed, hden, denied_target_idle hc hd⟩

/-- **An edit denies what is under way**: the run fails and its spoke is not stopped, the replay
fails and its job works on. -/
theorem denied_target_loaded : (∃ c, Reaches Machine.always c ∧ ¬ DeniedStopped c.state) ∧
    ∃ d, ClusterReaches Machine.always d ∧ ¬ DeniedFinished d.state := by
  refine ⟨?_, ?_⟩
  · obtain ⟨c, hc, h⟩ := exists_free_run
      (startedRun ++ [.act (.edit smallKey deniedTest)] ++ readPass ++ [.op (.api .ok), .leave])
      (fun s => (s.api.find smallKey).any fun cur => cur.status.phase = .failed &&
        cur.status.deniesTarget
          && cur.status.assignments.any fun a => !Quiet cur.uid a.spokeID s.log)
      (by decide +kernel)
    refine ⟨c, hc, fun hstop => ?_⟩
    obtain ⟨cur, hfind, h⟩ := (Option.any_eq_true _ _).mp h
    simp only [Bool.and_eq_true, decide_eq_true_eq, List.any_eq_true, Bool.not_eq_true',
      decide_eq_false_iff_not] at h
    obtain ⟨⟨hph, hden⟩, a, ha, hnot⟩ := h
    exact hnot (hstop smallKey cur hfind hph hden a ha)
  · obtain ⟨d, hd, h⟩ := exists_cluster_run (fun _ _ => true)
      (jobRun ++ [.act (.edit allowedReplay.key deniedReplay.spec)] ++ gatePass)
      (fun s => (s.replays.find allowedReplay.key).any fun tr => tr.status.phase = .failed &&
        tr.status.deniesTarget && !JobDone (s.job (replayJobKey allowedReplay.key)))
      (by decide +kernel)
    refine ⟨d, hd.mono _ _ fun _ _ _ => trivial, fun hdone => ?_⟩
    obtain ⟨tr, hfind, h⟩ := (Option.any_eq_true _ _).mp h
    simp only [Bool.and_eq_true, decide_eq_true_eq, Bool.not_eq_true', decide_eq_false_iff_not] at h
    exact h.2 (hdone allowedReplay.key tr hfind h.1.1 h.1.2)

end Kapture.Spoke
