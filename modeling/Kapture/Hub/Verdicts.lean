import Kapture.Hub.Aborts

/-!
# Aborting is not a decision

What a reconcile does with a run that another reconcile began to abort. It is to try the
`STOP`s again until the phase is `Aborted`, and never to end the run as `Completed` or
`Failed`. Since it only looks at the reports, it does so if they keep telling it to: the
server is there, the target is allowed, shards are still under way and the policy still
trips.
-/

namespace Kapture.Hub

open Go Storage Conc

/-- Some spoke has accepted a `STOP` for the load test. -/
def Event.stopsRun (uid : Nat) : Event → Bool
  | .sent _ d .accepted _ => d.action == .stop && d.incarnation == uid
  | _ => false

def Stopping (uid : Nat) (log : List Event) : Bool := log.any (·.stopsRun uid)

/-- The log before the reconcile under way. -/
def beforePass (log : List Event) : List Event := log.dropWhile fun e => !e.begins

def Phase.verdict : Phase → Bool
  | .completed | .failed => true
  | _ => false

/-- Of two events, newer and older: a run is called `Completed` or `Failed` after a `STOP`
for it was accepted. -/
def verdictAfterStop : Event → Event → Bool
  | .stored lt, older => lt.status.phase.verdict && older.stopsRun lt.uid
  | _, _ => false

/-- This reconcile has sent a `STOP` to every spoke of the load test. -/
def Retried (lt : CaptureLoadTest) (log : List Event) : Prop :=
  ∀ a ∈ lt.status.assignments, a.spokeID ≠ [] →
    ∃ r b, .sent a.spokeID (stopDirective lt) r b ∈ thisPass log

/-- The reconcile under way may end: if it has read a run that was being stopped, and was
not over, it has tried again. -/
def MayEnd (log : List Event) : Prop :=
  ∀ lt, lastRead (thisPass log) = some lt → lt.deleting = false →
    lt.status.phase.terminal = false → Stopping lt.uid (beforePass log) = true → Retried lt log

/-- No reconcile has gone on, without an error, as if there had been no `STOP`. -/
def StopsRetried : List Event → Prop
  | [] => True
  | .ended _ r :: older => (r ≠ .err → MayEnd older) ∧ StopsRetried older
  | _ :: older => StopsRetried older

structure AbortsStable (log : List Event) : Prop where
  verdicts : log.Pairwise fun newer older => verdictAfterStop newer older = false
  retried : StopsRetried log

/-- The reports leave shards under way, and the run is too long or fails too often. (If the clock
does not go back, a run that was too long is too long.) -/
def stillTrips (lt : CaptureLoadTest) (l : List ReplayStatusSnapshot) (now : Time) : Bool :=
  (ShownLive lt l ∧ ¬ CountedOver lt l) ∧ (Late lt now ∨ Failing lt l)

/-- Once a `STOP` was accepted, reconciles find the server, the target is allowed, and the
policy trips whenever the run is judged. -/
def keepsTripping : CoordLabel → Coord → Bool
  | .op .server _, s => (lastRead s.log).all fun lt =>
      lt.deleting || lt.status.phase.terminal || !Stopping lt.uid s.log ||
        (s.server.isSome && !targetDenied lt.spec)
  | .op (.judge lt l) (.time now), s => !Stopping lt.uid s.log || stillTrips lt l now
  | _, _ => true

/-! ## The policy -/

variable {lt : CaptureLoadTest} {log : List Event} {e : Event} {st : CaptureLoadTestStatus}

theorem shouldAbort_of_stillTrips {l : List ReplayStatusSnapshot} {t₁ t₂ : Time}
    (h : stillTrips lt l t₂ = true) : shouldAbort lt.spec (aggregate lt.status l t₁) t₂ ≠ none :=
  Option.isSome_iff_ne_none.mp (shouldAbort_isSome_iff.mpr (of_decide_eq_true h))

theorem live_of_shouldAbort {spec : CaptureLoadTestSpec} {now : Time} {reason : AbortReason}
    (h : shouldAbort spec st now = some reason) : st.phase.live = true := by
  unfold shouldAbort at h
  split at h
  · cases h
  · split at h
    · rename_i hphase
      simpa [Phase.live] using hphase
    · cases h

theorem verdict_of_live {p : Phase} (h : p.live = true) : p.verdict = false := by
  cases p <;> first | rfl | cases h

/-! ## The log -/

theorem Stopping.of_before {uid : Nat} (h : Stopping uid (beforePass log) = true) :
    Stopping uid log = true := by
  obtain ⟨e, he, hs⟩ := List.any_eq_true.mp h
  exact List.any_eq_true.mpr ⟨e, (List.dropWhile_sublist _).subset he, hs⟩

theorem beforePass_cons (he : e.begins = false) (log : List Event) :
    beforePass (e :: log) = beforePass log := by
  rw [beforePass, List.dropWhile_cons, he]
  rfl

def Event.reads : Event → Bool
  | .read _ => true
  | _ => false

theorem lastRead_cons (he : e.reads = false) (log : List Event) :
    lastRead (e :: log) = lastRead log := by
  cases e with
  | read lt => cases he
  | _ => rfl

theorem MayEnd.cons (h : MayEnd log) (hb : e.begins = false) (hr : e.reads = false) :
    MayEnd (e :: log) := by
  intro lt
  rw [thisPass_cons hb, lastRead_cons hr, beforePass_cons hb]
  intro hlt hd hterm hstop a ha hid
  obtain ⟨r, b, hmem⟩ := h lt hlt hd hterm hstop a ha hid
  exact ⟨r, b, thisPass_cons hb log ▸ List.mem_cons_of_mem _ hmem⟩

def Event.ends : Event → Bool
  | .ended .. => true
  | _ => false

/-- An event that neither ends a reconcile nor a run. -/
theorem AbortsStable.cons (h : AbortsStable log) (he : e.ends = false)
    (hv : ∀ older ∈ log, verdictAfterStop e older = false) : AbortsStable (e :: log) where
  verdicts := List.Pairwise.cons hv h.verdicts
  retried := by
    cases e with
    | ended => cases he
    | _ => exact h.retried

/-- A status that is no verdict, or is written when nobody was told to stop. -/
theorem AbortsStable.stored (h : AbortsStable log)
    (hv : Stopping lt.uid log = true → lt.status.phase.verdict = false) :
    AbortsStable (.stored lt :: log) := by
  refine h.cons rfl fun older hmem => ?_
  rw [verdictAfterStop, Bool.and_eq_false_iff]
  cases hst : older.stopsRun lt.uid with
  | false => exact .inr rfl
  | true => exact .inl (hv (List.any_eq_true.mpr ⟨older, hmem, hst⟩))

abbrev VerdictInv := PlainInv AbortsStable

theorem VerdictInv.sent {s : Coord} (h : VerdictInv s) {spokeID : Str} {d : ReplayDirective}
    {r : SendResult} {b : Bool} (hu : d.incarnation ≤ s.api.revision) :
    VerdictInv (s.note (.sent spokeID d r b)) :=
  h.note hu (h.log.cons rfl fun _ _ => rfl)

/-! ## The program -/

/-- The reconcile under way has read `lt`, or its version before it was distributed. -/
def PassOf (lt : CaptureLoadTest) (log : List Event) : Prop :=
  ∃ lt₀, lastRead (thisPass log) = some lt₀ ∧ lt₀.uid = lt.uid ∧ lt₀.key = lt.key ∧
    (lt₀.status.assignments = lt.status.assignments ∨ lt₀.status.assignments = [])

theorem PassOf.cons (h : PassOf lt log) (hb : e.begins = false) (hr : e.reads = false) :
    PassOf lt (e :: log) := by
  obtain ⟨lt₀, hread, hlt₀⟩ := h
  exact ⟨lt₀, by rw [thisPass_cons hb, lastRead_cons hr]; exact hread, hlt₀⟩

/-- At its start: what it has read is `lt`, and a run that is being stopped is met with
a server and an allowed target. -/
structure Entered (srv : Option Nat) (lt : CaptureLoadTest) (log : List Event) : Prop where
  read : ∃ lt₀, lastRead (thisPass log) = some lt₀ ∧ lt₀.uid = lt.uid ∧ lt₀.key = lt.key ∧
    lt₀.status = lt.status ∧ lt₀.deleting = lt.deleting
  ready : lt.deleting = false → lt.status.phase.terminal = false → Stopping lt.uid log = true →
    srv.isSome ∧ targetDenied lt.spec = false

theorem Entered.passOf {srv : Option Nat} (h : Entered srv lt log) : PassOf lt log := by
  obtain ⟨lt₀, hread, huid, hkey, hst, _⟩ := h.read
  exact ⟨lt₀, hread, huid, hkey, .inl (by rw [hst])⟩

/-- What the reconcile under way has read is deleted if `lt` is. -/
def PassRead (lt : CaptureLoadTest) (log : List Event) : Prop :=
  ∃ lt₀, lastRead (thisPass log) = some lt₀ ∧ lt₀.deleting = lt.deleting

theorem PassRead.cons (h : PassRead lt log) (hb : e.begins = false) (hr : e.reads = false) :
    PassRead lt (e :: log) := by
  obtain ⟨lt₀, hread, hlt₀⟩ := h
  exact ⟨lt₀, by rw [thisPass_cons hb, lastRead_cons hr]; exact hread, hlt₀⟩

/-- When nobody was told to stop, a reconcile may end. -/
theorem PassOf.mayEnd (h : PassOf lt log) (hstop : Stopping lt.uid log = false) : MayEnd log := by
  obtain ⟨lt₀, hread, huid, _⟩ := h
  intro lt' hlt' _ _ hbefore
  obtain rfl : lt₀ = lt' := Option.some.inj (hread.symm.trans hlt')
  rw [huid] at hbefore
  rw [Stopping.of_before hbefore] at hstop
  cases hstop

/-- When it has tried again, too. -/
theorem PassOf.mayEnd_retried (h : PassOf lt log) (hret : Retried lt log) : MayEnd log := by
  obtain ⟨lt₀, hread, huid, hkey, hasg⟩ := h
  intro lt' hlt' _ _ _ a ha hid
  obtain rfl : lt₀ = lt' := Option.some.inj (hread.symm.trans hlt')
  rcases hasg with hasg | hnil
  · obtain ⟨r, b, hmem⟩ := hret a (hasg ▸ ha) hid
    refine ⟨r, b, ?_⟩
    rwa [show stopDirective lt₀ = stopDirective lt by simp only [stopDirective, hkey, huid]]
  · rw [hnil] at ha
    cases ha

/-- How a reconcile may leave things. -/
def Left (r : Result) (t : Coord) : Prop := VerdictInv t ∧ (r ≠ .err → MayEnd t.log)

variable {ok : CoordLabel → Coord → Prop}

theorem left_stable (r : Result) : coordinator.Stable ok (Left r) :=
  (plainInv_stable ok _).and (stable_of_log fun log => r ≠ .err → MayEnd log)

/-- The end of a reconcile that writes a status. -/
theorem VerdictInv.ends {s : Coord} (h : VerdictInv s) (hfind : s.api.find lt.key = some lt)
    (hd : lt.deleting = false) (hv : Stopping lt.uid s.log = true → st.phase.verdict = false)
    (hend : MayEnd s.log) : Ends VerdictInv Left (s.wrote lt st) := by
  have hI : VerdictInv (s.wrote lt st) := h.wrote hfind hd fun rv => h.log.stored hv
  exact ⟨hI, fun r => ⟨hI, fun _ => hend.cons rfl rfl⟩⟩

theorem verdicts_stops (srv : Nat) (lt : CaptureLoadTest) (l : List ReplayStatusSnapshot)
    (t₁ : Time) :
    coordinator.Triple ok VerdictInv (Working (PassOf lt) lt)
      (stopAllShards srv (lt.aggregated l t₁))
      fun _ => Working (fun log => PassOf lt log ∧ Retried lt log) lt := by
  have hI := plainInv_stable ok AbortsStable
  have hloop := triple_stopShards (L := fun rest _ => Working (fun log => PassOf lt log ∧
      ∀ a ∈ lt.status.assignments, a.spokeID ≠ [] → a ∈ rest ∨
        ∃ r b, .sent a.spokeID (stopDirective lt) r b ∈ thisPass log) lt) srv
    (lt.aggregated l t₁) hI (fun _ _ => working_stable _ lt) ?_ ?_ lt.status.assignments true
  · refine (hloop.pre fun t _ h => h.mono fun hF => ⟨hF, fun a ha _ => .inl ha⟩).post ?_
    exact fun _ t _ h => h.mono fun hF => ⟨hF.1, fun a ha hid =>
      (hF.2 a ha hid).resolve_left List.not_mem_nil⟩
  · intro a rest b t hid h
    refine h.mono fun hF => ⟨hF.1, fun a' ha' hid' => ?_⟩
    rcases hF.2 a' ha' hid' with hmem | hsent
    · rcases List.mem_cons.mp hmem with rfl | hmem
      · exact absurd hid hid'
      · exact .inl hmem
    · exact .inr hsent
  · intro a rest b t r hIt h _
    refine ⟨VerdictInv.sent hIt h.old, h.note fun hF => ⟨hF.1.cons rfl rfl, fun a' ha' hid' => ?_⟩⟩
    rw [thisPass_cons rfl]
    rcases hF.2 a' ha' hid' with hmem | ⟨r', b', hsent⟩
    · rcases List.mem_cons.mp hmem with rfl | hmem
      · exact .inr ⟨r, _, List.mem_cons_self⟩
      · exact .inl hmem
    · exact .inr ⟨r', b', List.mem_cons_of_mem _ hsent⟩

theorem verdicts_live (hok : ∀ {l s}, ok l s → keepsTripping l s = true) :
    LiveRules ok VerdictInv (fun srv lt => Working (Entered srv lt) lt)
      (fun _ lt => Working (PassOf lt) lt) (fun _ lt _ => Working (PassOf lt) lt)
      (fun lt l now => Working (fun log => PassOf lt log ∧
        (Stopping lt.uid log = true → stillTrips lt l now = true)) lt)
      (fun _ lt _ => Working (fun log => PassOf lt log ∧ Retried lt log) lt) Left where
  inv := plainInv_stable ok _
  api := fun _ h => h.api
  stableQ := left_stable
  stableG := fun _ lt => working_stable _ lt
  stableD := fun _ lt => working_stable _ lt
  stableR := fun _ lt _ => working_stable _ lt
  stableV := fun lt _ _ => working_stable _ lt
  stableB := fun _ lt _ => working_stable _ lt
  knownG := fun h => h.known
  knownD := fun h => h.known
  knownR := fun h => h.known
  knownV := fun h => h.known
  knownB := fun h => h.known
  errG := fun h _ => ⟨h, fun hr => absurd rfl hr⟩
  errV := fun h _ => ⟨h, fun hr => absurd rfl hr⟩
  errB := fun h _ => ⟨h, fun hr => absurd rfl hr⟩
  ended := by
    intro srv lt t hterm hI hG
    refine ⟨hI, fun _ lt' hlt' _ hterm' => ?_⟩
    obtain ⟨lt₀, hread, _, _, hst, _⟩ := hG.log.read
    obtain rfl : lt₀ = lt' := Option.some.inj (hread.symm.trans hlt')
    rw [hst, hterm] at hterm'
    cases hterm'
  denied := by
    intro srv lt t hterm hden hI hG hf
    have hstop : Stopping lt.uid t.log = false := by
      rw [Bool.eq_false_iff]
      intro hstop
      rw [(hG.log.ready hG.undeleted hterm hstop).2] at hden
      cases hden
    exact VerdictInv.ends hI hf hG.undeleted (fun h => absurd h (Bool.eq_false_iff.mp hstop))
      (hG.log.passOf.mayEnd hstop)
  noServer := by
    rintro lt t st rfl hterm _ hI hG hf
    have hstop : Stopping lt.uid t.log = false := by
      rw [Bool.eq_false_iff]
      intro hstop
      cases (hG.log.ready hG.undeleted hterm hstop).1
    exact VerdictInv.ends hI hf hG.undeleted (fun h => absurd h (Bool.eq_false_iff.mp hstop))
      (hG.log.passOf.mayEnd hstop)
  noSpokes := by
    rintro srv lt t st rfl _ _ hnil hI hG hf
    refine VerdictInv.ends hI hf hG.undeleted (fun _ => rfl)
      (hG.log.passOf.mayEnd_retried fun a ha => ?_)
    rw [hnil] at ha
    cases ha
  assigned := by
    rintro srv lt t spokes now st rfl _ _ hnil _ _ hI hG hf
    have hI' : VerdictInv (t.wrote lt (lt.distributed spokes now).status) :=
      PlainInv.wrote hI hf hG.undeleted fun rv => hI.log.stored fun _ => rfl
    refine ⟨hI', ⟨hI', fun hr => absurd rfl hr⟩, hG.wrote hf ?_⟩
    obtain ⟨lt₀, hread, huid, hkey, hst, _⟩ := hG.log.read
    have hpass : PassOf (lt.rewritten (lt.distributed spokes now).status (t.api.revision + 1))
        t.log :=
      ⟨lt₀, hread, huid, hkey, .inr (hst ▸ hnil)⟩
    exact hpass.cons rfl rfl
  supervise := fun _ _ _ _ hG => hG.mono fun hF => hF.passOf
  reports := fun _ hD _ => hD
  starts := by
    intro srv lt l
    refine triple_sendStarts_keep (plainInv_stable ok _) (working_stable _ lt) ?_ _
    exact fun _ _ _ _ _ hI hR => ⟨VerdictInv.sent hI hR.old, hR.note (·.cons rfl rfl)⟩
  judged := by
    intro srv lt l now t _ hR hlabel
    refine hR.mono fun hF => ⟨hF, fun hstop => ?_⟩
    simpa [keepsTripping, hstop] using hok hlabel
  finish := by
    rintro lt l t t₁ t₂ st rfl hnone hI hV hf
    have hstop : Stopping lt.uid t.log = false := by
      rw [Bool.eq_false_iff]
      exact fun hstop => shouldAbort_of_stillTrips (hV.log.2 hstop) hnone
    exact VerdictInv.ends hI hf hV.undeleted (fun h => absurd h (Bool.eq_false_iff.mp hstop))
      (hV.log.1.mayEnd hstop)
  stops := by
    intro srv lt l t₁ t₂ reason _
    exact (verdicts_stops srv lt l t₁).pre fun t _ h => h.mono fun hF => hF.1
  aborting := by
    rintro srv lt l t t₁ t₂ reason st habort rfl hI hB hf
    exact VerdictInv.ends hI hf hB.undeleted
      (fun _ => verdict_of_live (live_of_shouldAbort habort)) (hB.log.1.mayEnd_retried hB.log.2)
  aborted := by
    rintro srv lt l t t₁ t₂ t₃ reason st _ rfl hI hB hf
    exact VerdictInv.ends hI hf hB.undeleted (fun _ => rfl)
      (hB.log.1.mayEnd_retried hB.log.2)

theorem verdicts_delete (srv : Option Nat) (hd : lt.deleting = true) :
    coordinator.Triple ok VerdictInv (Reading (Entered srv lt) lt) (reconcileDelete srv lt)
      Left := by
  -- a reconcile that has read a deletion may end in any way
  have hmay : ∀ log, PassRead lt log → MayEnd log := by
    intro log ⟨lt₀, hread, hdel⟩ lt' hlt' hd'
    obtain rfl : lt₀ = lt' := Option.some.inj (hread.symm.trans hlt')
    rw [hdel, hd] at hd'
    cases hd'
  refine (triple_reconcileDelete (F := Reading (PassRead lt) lt) srv (plainInv_stable ok _)
    (reading_stable _ lt) left_stable (fun _ h => h.known) ?_ ?_ ?_).pre ?_
  · exact fun t _ _ _ hI hR => ⟨VerdictInv.sent hI hR.old, hR.note (·.cons rfl rfl)⟩
  · intro t hI hR hf
    have hI' : VerdictInv (t.released lt) :=
      PlainInv.released hI hf (hI.log.cons rfl fun _ _ => rfl)
    exact ⟨hI', fun r => ⟨hI', fun _ => (hmay _ hR.log).cons rfl rfl⟩⟩
  · exact fun r t hI hR => ⟨hI, fun _ => hmay _ hR.log⟩
  · intro t _ h
    obtain ⟨lt₀, hread, _, _, _, hdel⟩ := h.log.read
    exact h.mono fun _ => ⟨lt₀, hread, hdel⟩

/-- **Aborts are stable**, in every run in which the policy keeps tripping once a `STOP`
was accepted. -/
theorem aborts_stable {c : Config Coord HubOp HubOp.Ans Result Key}
    (h : Reaches (fun l s => keepsTripping l s = true) c) : AbortsStable c.state.log := by
  refine LogInv.log (J := fun _ _ => True) (reaches_passes h (logInv_start ⟨.nil, trivial⟩)
    (plainInv_stable _ _) ?_ (fun s hs => ⟨hs.api, hs.old, hs.log, hs.objects⟩) fun key => ?_)
  · exact fun s key hs => PlainInv.note hs (Nat.zero_le _) (hs.log.cons rfl fun _ _ => rfl)
  have hpass : coordinator.Triple (fun l s => keepsTripping l s = true) VerdictInv
      (fun s => s.log.head? = some (.began key)) (reconcile key) Left := by
    refine LogInv.triple_pass (F := Entered) (keeps_nothing _) ?_ ?_ ?_ ?_ ?_ (left_stable _)
      (fun srv lt hd => verdicts_delete srv hd) fun srv lt => (verdicts_live id).triple srv lt
    · exact fun rv _ h => ⟨h.read, h.ready⟩
    · exact fun t lt ht hf => PlainInv.note ht (ht.api.uid hf) (ht.log.cons rfl fun _ _ => rfl)
    · intro t₀ t c lt _ _ _ hlog hok
      rw [hlog]
      refine ⟨⟨lt, rfl, rfl, rfl, rfl, rfl⟩, fun hd hterm hstop => ?_⟩
      simpa [keepsTripping, hlog, lastRead, hd, hterm, hstop] using hok
    · -- nothing was read
      intro r t ht hbegan
      refine ⟨ht, fun _ lt hlt => ?_⟩
      cases hlog : t.log with
      | nil =>
          rw [hlog] at hbegan
          cases hbegan
      | cons e rest =>
          rw [hlog] at hbegan hlt
          cases hbegan
          cases hlt
    · exact fun t ht => ⟨ht, fun hr => absurd rfl hr⟩
  refine hpass.post fun r s _ hs => PlainInv.note hs.1 (Nat.zero_le _) ?_
  exact ⟨.cons (fun _ _ => rfl) hs.1.log.verdicts, hs.2, hs.1.log.retried⟩

theorem aborts_stable_retried :
    ∃ c, Reaches (fun l s => keepsTripping l s = true) c ∧
      StopAccepted 1 (lit "east") c.state.log = true ∧ AbortsStable c.state.log := by
  obtain ⟨c, hc, h⟩ := exists_run keepsTripping
    (twoSpokesRun ++ abortMoves (bothShards .running) [] ++ abortMoves (bothShards .running) [])
    (fun s => StopAccepted 1 (lit "east") s.log) (by decide +kernel)
  exact ⟨c, hc, h, aborts_stable hc⟩

/-- `east` has its `STOP`; then both shards are reported to be complete. -/
theorem completed_after_stop : ∃ c, Reaches Machine.always c ∧ ¬ AbortsStable c.state.log := by
  obtain ⟨c, hc, h⟩ := exists_free_run
    (twoSpokesRun ++ abortMoves (bothShards .running) [] ++ readPass
      ++ [.op (.statuses (bothShards .completed))] ++ concludeMoves 62000000000)
    (fun s => !decide (s.log.Pairwise fun newer older => verdictAfterStop newer older = false))
    (by decide +kernel)
  exact ⟨c, hc, fun hs => absurd hs.verdicts (by simpa using h)⟩

end Kapture.Hub
