import Kapture.Hub.Rules

/-!
# Aborting a run

A run is aborted when its policy trips: every assigned spoke is sent a `STOP`, and once
all of them have it the phase is `Aborted`. When some buffer is full the reconcile comes
back later. The decision is not stored anywhere. The next reconcile sends `START` again
for shards that nobody has reported on, to spokes that may have their `STOP` already, and
then judges the run anew by the reports it finds, which need not say the same.
-/

namespace Kapture.Hub

open Go Storage Conc

/-- A spoke took such a directive for the load test `uid`. -/
def Event.accepts (action : ReplayAction) (uid : Nat) (spokeID : Str) : Event → Bool
  | .sent id d .accepted _ => d.action == action && d.incarnation == uid && id == spokeID
  | _ => false

/-- The spoke has accepted a `STOP` for the load test. -/
def StopAccepted (uid : Nat) (spokeID : Str) (log : List Event) : Bool :=
  log.any (·.accepts .stop uid spokeID)

variable {ok : CoordLabel → Coord → Prop} {log : List Event} {lt : CaptureLoadTest} {r : SendResult}
  {spokeID : Str}

/-! ## No `START` after a `STOP` -/

/-- Of two events, newer and older: a `START` and a `STOP` for one load test and spoke. -/
def startAfterStop : Event → Event → Bool
  | .sent id d .accepted _, older => d.action == .start && older.accepts .stop d.incarnation id
  | _, _ => false

/-- No spoke accepted a `START` after a `STOP` for the same load test. -/
def NoStartAfterStop (log : List Event) : Prop :=
  log.Pairwise fun newer older => startAfterStop newer older = false

instance (log : List Event) : Decidable (NoStartAfterStop log) :=
  inferInstanceAs (Decidable (List.Pairwise ..))

/-- When the reports of a load test are read, every shard of a spoke that has accepted its
`STOP` is among them. -/
def stoppedReported : CoordLabel → Coord → Bool
  | .op (.replayStatuses _ key) (.statuses l), s => (s.api.find key).all fun cur =>
      cur.status.assignments.all fun a =>
        !StopAccepted cur.uid a.spokeID s.log || a.shardIndexes.all (reported l)
  | _, _ => true

theorem NoStartAfterStop.cons (h : NoStartAfterStop log) {e : Event}
    (he : ∀ older ∈ log, startAfterStop e older = false) : NoStartAfterStop (e :: log) :=
  List.Pairwise.cons he h

/-- Nothing but a `START` can go wrong. -/
theorem startAfterStop_stop {b : Bool} {older : Event} :
    startAfterStop (.sent spokeID (stopDirective lt) r b) older = false := by
  cases r <;> rfl

theorem startAfterStop_start {shard : Int32} {b : Bool}
    (h : StopAccepted lt.uid spokeID log = false) :
    ∀ older ∈ log,
      startAfterStop (.sent spokeID (buildStartDirective lt shard) r b) older = false := by
  intro older hmem
  cases r with
  | accepted => exact Bool.eq_false_iff.mpr (List.any_eq_false.mp h older hmem)
  | _ => rfl

/-- The reports that were read cover the spokes that have their `STOP`. -/
def Covered (lt : CaptureLoadTest) (l : List ReplayStatusSnapshot) (log : List Event) : Prop :=
  ∀ a ∈ lt.status.assignments, StopAccepted lt.uid a.spokeID log = true →
    ∀ shard ∈ a.shardIndexes, reported l shard = true

theorem stopAccepted_start {uid : Nat} {id : Str} {shard : Int32} {b : Bool} :
    StopAccepted uid id (.sent spokeID (buildStartDirective lt shard) r b :: log) =
      StopAccepted uid id log := by
  cases r <;> rfl

theorem unreported_not_stopped {l : List ReplayStatusSnapshot} (h : Covered lt l log)
    {x : Str × Int32} (hx : x ∈ unreported lt.status.assignments l) :
    StopAccepted lt.uid x.1 log = false := by
  obtain ⟨a, ha, hx⟩ := List.mem_flatMap.mp hx
  obtain ⟨shard, hs, rfl⟩ := List.mem_map.mp hx
  obtain ⟨hs, hrep⟩ := List.mem_filter.mp hs
  rw [Bool.eq_false_iff]
  intro hst
  rw [h a ha hst shard hs] at hrep
  cases hrep

theorem stops_live (hok : ∀ {l s}, ok l s → stoppedReported l s = true) :
    KeepRules ok (PlainInv NoStartAfterStop) (fun _ _ _ => True) (fun _ _ => True) Covered
      (fun _ _ => True) where
  inv := plainInv_stable ok _
  api := fun _ h => h.api
  denied := fun _ _ hI hG hf => hI.wrote hf hG.undeleted fun _ => hI.log.cons fun _ _ => rfl
  noServer := fun _ _ hI hG hf => hI.wrote hf hG.undeleted fun _ => hI.log.cons fun _ _ => rfl
  noSpokes := fun _ _ _ hI hG hf => hI.wrote hf hG.undeleted fun _ => hI.log.cons fun _ _ => rfl
  assigned := fun _ _ _ _ _ _ hI hG hf =>
    ⟨hI.wrote hf hG.undeleted fun _ => hI.log.cons fun _ _ => rfl, fun _ => trivial⟩
  supervise := fun _ _ _ _ => trivial
  reports := by
    intro srv lt l t _ hD hlabel a ha hst shard hs
    -- the stored object has the status the reconcile works with
    obtain ⟨cur, hfind, huid, _, hstatus⟩ := hD.held hD.finalizer
    have hall := hok hlabel
    simp only [stoppedReported, hfind, Option.all_some, huid, hstatus, List.all_eq_true] at hall
    have hshards := hall a ha
    rw [hst, Bool.not_true, Bool.false_or] at hshards
    exact List.all_eq_true.mp hshards shard hs
  start := by
    intro lt l t spokeID shard r b hx hI hR
    have hnot := unreported_not_stopped hR.log hx
    refine ⟨hI.note hR.old (hI.log.cons (startAfterStop_start hnot)), fun a ha => ?_⟩
    rw [stopAccepted_start]
    exact hR.log a ha
  finish := fun _ hI hR hf => hI.wrote hf hR.undeleted fun _ => hI.log.cons fun _ _ => rfl
  halt := fun _ => trivial
  stop := fun hI hB => ⟨hI.note hB.old (hI.log.cons fun _ _ => startAfterStop_stop), trivial⟩
  aborting := fun _ hI hB hf => hI.wrote hf hB.undeleted fun _ => hI.log.cons fun _ _ => rfl
  aborted := fun _ hI hB hf => hI.wrote hf hB.undeleted fun _ => hI.log.cons fun _ _ => rfl

theorem stops_delete (srv : Option Nat) (lt : CaptureLoadTest) :
    coordinator.Triple ok (PlainInv NoStartAfterStop) (Reading (fun _ => True) lt)
      (reconcileDelete srv lt) fun _ => PlainInv NoStartAfterStop := by
  refine triple_reconcileDelete_keep srv (plainInv_stable ok _) (reading_stable _ lt)
    (fun _ h => h.known) ?_ fun t hI _ hf => hI.released hf (hI.log.cons fun _ _ => rfl)
  exact fun _ _ _ _ hI hR => ⟨hI.note hR.old (hI.log.cons fun _ _ => startAfterStop_stop),
    hR.note id⟩

/-- **No spoke accepts a `START` after a `STOP`**, in every run in which the shards of
stopped spokes are reported. -/
theorem no_start_after_stop {c : Config Coord HubOp HubOp.Ans Result Key}
    (h : Reaches (fun l s => stoppedReported l s = true) c) : NoStartAfterStop c.state.log := by
  refine (LogInv.reaches (F := fun _ _ _ => True) h .nil (keeps_nothing _) ?_ (fun _ _ h => h)
    (fun _ _ _ _ _ _ _ _ => trivial) (fun srv lt _ => stops_delete srv lt)
    fun srv lt => (stops_live id).live.triple srv lt).log
  intro s e hs hu _ he _
  refine PlainInv.note hs hu (hs.log.cons fun older _ => ?_)
  cases e with
  | sent => cases he
  | _ => rfl

/-- A run on two spokes; both have their shards. -/
def twoSpokesRun : List CoordMove :=
  [.act .startServer, .act (.create smallKey smallTest)]
    ++ assignPass [⟨lit "east", []⟩, ⟨lit "west", []⟩] ++ [.op (.statuses [])]
    ++ sendMoves true ++ sendMoves true ++ concludeMoves 5

/-- A shard of two of the first load test, as its spoke reports it. -/
def shardReport (spokeID : Str) (shard : Int32) (phase : ReplayPhase) : ReplayStatusSnapshot :=
  ⟨spokeID, [], ⟨smallKey, lit "shard", shard, 2, phase, 0, 0, 0, 0, 1⟩⟩

/-- Both shards in one phase. -/
def bothShards (phase : ReplayPhase) : List ReplayStatusSnapshot :=
  [shardReport (lit "east") 0 phase, shardReport (lit "west") 1 phase]

/-- After a minute the run is to be aborted; `west` has no room for its `STOP`. -/
def abortMoves (l : List ReplayStatusSnapshot) (starts : List CoordMove) : List CoordMove :=
  readPass ++ [.op (.statuses l)] ++ starts ++ [.op (.time 61000000000), .op (.time 61000000000)]
    ++ sendMoves true ++ sendMoves false ++ [.op (.api .ok), .leave]

theorem no_start_after_stop_reported :
    ∃ c, Reaches (fun l s => stoppedReported l s = true) c ∧
      StopAccepted 1 (lit "east") c.state.log = true ∧ NoStartAfterStop c.state.log := by
  obtain ⟨c, hc, h⟩ := exists_run stoppedReported
    (twoSpokesRun ++ abortMoves (bothShards .running) [] ++ abortMoves (bothShards .running) [])
    (fun s => StopAccepted 1 (lit "east") s.log) (by decide +kernel)
  exact ⟨c, hc, h, no_start_after_stop hc⟩

/-- `east` has its `STOP`, and is sent a `START` because nobody has reported yet. -/
theorem start_follows_stop : ∃ c, Reaches Machine.always c ∧ ¬ NoStartAfterStop c.state.log := by
  obtain ⟨c, hc, h⟩ := exists_free_run
    (twoSpokesRun ++ abortMoves [] (sendMoves true ++ sendMoves true) ++ readPass
      ++ [.op (.statuses [])] ++ sendMoves true)
    (fun s => !decide (NoStartAfterStop s.log)) (by decide +kernel)
  exact ⟨c, hc, by simpa using h⟩

end Kapture.Hub
