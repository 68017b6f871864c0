import Kapture.Hub.Coordinator
import Kapture.Lib.Objects
import Kapture.Spoke.ReplayArgs

/-!
# Reconciling a replay

`TrafficReplayReconciler.Reconcile` as a program on the spoke's cluster, where users and
directives create, edit and delete replays, and the job controller runs their jobs. One
replay is reconciled at a time.

Reads return the latest version. A write may fail, or take effect and fail to say so. The
job controller leaves a finished job as it is.
-/

namespace Kapture.Spoke

open Go Storage Hub Conc Objects

/-! ## Jobs -/

/-- A replay `Job`: the arguments of its worker, and its status. -/
structure ReplayJob where
  key : Key
  args : List Str
  succeeded : Int32
  active : Int32
  /-- The message and the reason of its `Failed` condition. -/
  failed : Option (Str × Str)
deriving DecidableEq, Repr

/-- `ReplayJobName`, with the namespace. -/
def replayJobKey (key : Key) : Key := ⟨key.ns, key.name ++ lit "-replay"⟩

def buildReplayJob (tr : TrafficReplay) (storage : CaptureStorage) : Except BuildError ReplayJob :=
  (buildReplayArgs tr storage).map fun args => ⟨replayJobKey tr.key, args, 0, 0, none⟩

/-- The job has come to an end. -/
def ReplayJob.finished (job : ReplayJob) : Bool := 0 < job.succeeded || job.failed.isSome

def jobFailureMessage (job : ReplayJob) : Str :=
  match job.failed with
  | none => lit "replay job failed"
  | some (message, reason) => if message ≠ [] then message else reason

/-- The counts of a `replay.RunReport`. -/
structure RunCounts where
  totalRequests : Int64
  sentRequests : Int64
  failedRequests : Int64
  filteredRequests : Int64
deriving DecidableEq, Repr

/-! ## The program -/

inductive ReplayOp where
  | get (key : Key)
  | update (tr : TrafficReplay)
  | updateStatus (tr : TrafficReplay)
  | getStorage (key : Key)
  | getJob (key : Key)
  | createJob (job : ReplayJob)
  | deleteJob (key : Key)
  /-- `scrapeRunReport`. -/
  | runReport (job : ReplayJob)
  | now
  /-- `ReportReplayStatus`, whose error is only logged. -/
  | report (summary : ReplayStatusSummary)
deriving DecidableEq, Repr

@[reducible] def ReplayOp.Ans : ReplayOp → Type
  | .get _ => Except Unit (Option TrafficReplay)
  | .update _ => Option TrafficReplay
  | .updateStatus _ => Option TrafficReplay
  | .getStorage _ => Except Unit (Option CaptureStorage)
  | .getJob _ => Except Unit (Option ReplayJob)
  | .createJob _ => Bool
  | .deleteJob _ => Bool
  | .runReport _ => Option RunCounts
  | .now => Time
  | .report _ => Unit

abbrev ReplayPass := Prog ReplayOp ReplayOp.Ans

def reportToHub (tr : TrafficReplay) : ReplayPass Unit :=
  match replaySummaryFromStatus tr with
  | none => .ret ()
  | some summary => .call (.report summary) fun _ => .ret ()

/-- `Status().Update`, and the report to the hub. -/
def writeReplayStatus (tr : TrafficReplay) (result : Result) : ReplayPass Result :=
  .call (.updateStatus tr) fun
    | none => .ret .err
    | some tr => (reportToHub tr).bind fun _ => .ret result

/-- The replay with a phase and a condition. -/
def TrafficReplay.mark (tr : TrafficReplay) (phase : TrafficReplayPhase) (c : ReplayCondition) :
    TrafficReplay :=
  { tr with status := { tr.status with
    phase := phase
    conditions := setCondition tr.status.conditions c } }

def setPhase (tr : TrafficReplay) (phase : TrafficReplayPhase) (c : ReplayCondition) :
    ReplayPass Result :=
  writeReplayStatus (tr.mark phase c) (if phase = .failed then .done else .requeue)

def applyReport (status : TrafficReplayStatus) : Option RunCounts → TrafficReplayStatus
  | none => status
  | some r => { status with
      totalRequests := r.totalRequests + r.filteredRequests
      sentRequests := r.sentRequests
      failedRequests := r.failedRequests
      filteredRequests := r.filteredRequests }

/-- The replay at the end of its job. -/
def TrafficReplay.ended (tr : TrafficReplay) (report : Option RunCounts)
    (phase : TrafficReplayPhase) (c : ReplayCondition) (now : Time) : TrafficReplay :=
  { tr with status := { applyReport tr.status report with
    phase := phase
    completionTime := some now
    conditions := setCondition tr.status.conditions c } }

/-- The phase follows the job. -/
def advance (tr : TrafficReplay) (job : ReplayJob) : ReplayPass Result :=
  if 0 < job.succeeded then
    .call (.runReport job) fun report => .call .now fun now =>
      writeReplayStatus (tr.ended report .completed .replayFinished now) .done
  else if job.failed.isSome then
    .call (.runReport job) fun report => .call .now fun now =>
      writeReplayStatus (tr.ended report .failed (.replayFailed (jobFailureMessage job)) now) .done
  else if 0 < job.active then
    match tr.status.startTime with
    | some _ =>
        writeReplayStatus { tr with status := { tr.status with phase := .running } } .requeue
    | none => .call .now fun now => writeReplayStatus
        { tr with status := { tr.status with phase := .running, startTime := some now } } .requeue
  else writeReplayStatus { tr with status := { tr.status with phase := .pending } } .requeue

/-- Ensures that the job exists. -/
def ensureJob (tr : TrafficReplay) (storage : CaptureStorage) : ReplayPass Result :=
  .call (.getJob (replayJobKey tr.key)) fun
    | .error _ => .ret .err
    | .ok (some job) => advance tr job
    | .ok none =>
        match buildReplayJob tr storage with
        | .error err => setPhase tr .failed (.invalidSpec err)
        | .ok job => .call (.createJob job) fun
            | false => .ret .err
            | true => setPhase tr .pending .jobCreated

/-- A replay that is not being deleted and has its finalizer. -/
def runReplay (tr : TrafficReplay) : ReplayPass Result :=
  if tr.status.phase.terminal then .ret .done
  else if tr.spec.denied then
    setPhase tr .failed (.targetDenied tr.spec.target.host (tr.spec.safety.getD []))
  else .call (.getStorage ⟨tr.key.ns, tr.spec.storageRef⟩) fun
    | .error _ => .ret .err
    | .ok none => setPhase tr .pending (.storageNotFound ⟨tr.key.ns, tr.spec.storageRef⟩)
    | .ok (some storage) => ensureJob tr storage

/-- `reconcileDelete`. -/
def deleteReplay (tr : TrafficReplay) : ReplayPass Result :=
  .call (.deleteJob (replayJobKey tr.key)) fun
    | false => .ret .err
    | true => .call (.update { tr with finalizer := false }) fun
        | none => .ret .err
        | some _ => .ret .done

/-- `Reconcile`. -/
def reconcileReplay (key : Key) : ReplayPass Result :=
  .call (.get key) fun
    | .error _ => .ret .err
    | .ok none => .ret .done
    | .ok (some tr) =>
        if tr.deleting then deleteReplay tr
        else if tr.finalizer then runReplay tr
        else .call (.update { tr with finalizer := true }) fun
          | none => .ret .err
          | some tr => runReplay tr

/-! ## The cluster -/

instance : Resource Key TrafficReplay where
  key := TrafficReplay.key
  version := TrafficReplay.resourceVersion
  stamp tr n := { tr with resourceVersion := n }
  deleting := TrafficReplay.deleting
  finalizer := TrafficReplay.finalizer
  key_stamp _ _ := rfl
  version_stamp _ _ := rfl

/-- A replay as it is created. -/
def TrafficReplay.fresh (tr : TrafficReplay) : TrafficReplay :=
  { tr with deleting := false, finalizer := false, status := .empty }

structure Cluster where
  replays : Store Key TrafficReplay
  jobs : AList fun _ : Key => ReplayJob
  storages : AList fun _ : Key => CaptureStorage

namespace Cluster

def start : Cluster := ⟨.empty, ∅, ∅⟩

def job (s : Cluster) (key : Key) : Option ReplayJob := s.jobs.lookup key

end Cluster

/-- What others do to it. -/
inductive ClusterAct where
  /-- A directive or a user creates a replay. -/
  | create (tr : TrafficReplay)
  | edit (key : Key) (spec : TrafficReplaySpec)
  | delete (key : Key)
  | setStorage (key : Key) (storage : CaptureStorage)
  | removeStorage (key : Key)
  /-- The job controller updates the status of a job. -/
  | progress (key : Key) (succeeded active : Int32) (failed : Option (Str × Str))
  | removeJob (key : Key)
deriving DecidableEq, Repr

namespace Cluster

def act : ClusterAct → Cluster → Option Cluster
  | .create tr, s =>
      match s.replays.find tr.key with
      | some _ => none
      | none => some { s with
          replays := s.replays.put tr.fresh }
  | .edit key spec, s =>
      match s.replays.find key with
      | none => none
      | some tr => some { s with replays := s.replays.put { tr with spec := spec } }
  | .delete key, s =>
      match s.replays.find key with
      | none => none
      | some tr => some { s with replays := s.replays.store { tr with deleting := true } }
  | .setStorage key storage, s => some { s with storages := s.storages.insert key storage }
  | .removeStorage key, s => some { s with storages := s.storages.erase key }
  | .progress key succeeded active failed, s =>
      match s.job key with
      | none => none
      | some job =>
          if job.finished then none
          else some { s with
            jobs := s.jobs.insert key { job with
              succeeded := succeeded, active := active, failed := failed } }
  | .removeJob key, s => some { s with jobs := s.jobs.erase key }

/-- The outcome of an operation, as far as it is open. -/
inductive Choice where
  | api (o : Outcome)
  | counts (r : Option RunCounts)
  | time (t : Time)
  | none
deriving DecidableEq, Repr

/-- A write of a replay: `f` is what becomes of the stored one. -/
def write (o : Outcome) (tr : TrafficReplay) (f : TrafficReplay → TrafficReplay) (s : Cluster) :
    Option TrafficReplay × Cluster :=
  match s.replays.latest tr with
  | Option.none => (Option.none, s)
  | some cur =>
      o.answer (s.replays.stamped (f cur)) s { s with replays := s.replays.store (f cur) }

def createJob (o : Outcome) (job : ReplayJob) (s : Cluster) : Bool × Cluster :=
  match s.job job.key with
  | some _ => (false, s)
  | Option.none => o.perform s { s with jobs := s.jobs.insert job.key job }

/-- A job that is not there counts as deleted. -/
def deleteJob (o : Outcome) (key : Key) (s : Cluster) : Bool × Cluster :=
  o.perform s { s with jobs := s.jobs.erase key }

def exec : (op : ReplayOp) → Choice → Cluster → Option (op.Ans × Cluster)
  | .get key, .api o, s => some (o.read (s.replays.find key), s)
  | .update tr, .api o, s =>
      some (s.write o tr fun cur => { cur with finalizer := tr.finalizer, spec := tr.spec })
  | .updateStatus tr, .api o, s => some (s.write o tr fun cur => { cur with status := tr.status })
  | .getStorage key, .api o, s => some (o.read (s.storages.lookup key), s)
  | .getJob key, .api o, s => some (o.read (s.job key), s)
  | .createJob job, .api o, s => some (s.createJob o job)
  | .deleteJob key, .api o, s => some (s.deleteJob o key)
  | .runReport _, .counts r, s => some (r, s)
  | .now, .time t, s => some (t, s)
  | .report _, .none, s => some ((), s)
  | _, _, _ => Option.none

end Cluster

/-- The spoke's cluster with its reconciler. -/
def cluster : Machine Cluster ReplayOp ReplayOp.Ans Result Key ClusterAct Cluster.Choice where
  exec := Cluster.exec
  act := Cluster.act
  prog := reconcileReplay
  enter _ s := s
  leave _ _ s := s
  crash s := s

abbrev ClusterLabel := Label ReplayOp Key ClusterAct Cluster.Choice

/-- What the cluster reaches when its steps meet `ok`. -/
abbrev ClusterReaches (ok : ClusterLabel → Cluster → Prop) := cluster.Reach ok Cluster.start

/-! ## What the steps do -/

variable {s s' : Cluster} {c : Cluster.Choice} {a : ClusterAct} {tr : TrafficReplay}
  {r : Option TrafficReplay}

/-- What others make of a replay: they edit it, or ask for its deletion. -/
def ReplayRevised (a : ClusterAct) (key : Key) (tr new : TrafficReplay) : Prop :=
  (∃ spec, a = .edit key spec ∧ new = { tr with spec := spec }) ∨ new = { tr with deleting := true }

/-- What others do to the replays. -/
abbrev ReplaysChange (a : ClusterAct) (replays : Store Key TrafficReplay) :
    Store Key TrafficReplay → Prop :=
  replays.Changes (fun tr => ∃ tr', tr = TrafficReplay.fresh tr') (ReplayRevised a)

/-- **What others do**: they create, edit or delete a replay, a job goes on or away, or a
storage changes. -/
theorem cluster_act_cases (h : cluster.act a s = some s') :
    (∃ replays, ReplaysChange a s.replays replays ∧ s' = { s with replays := replays }) ∨
      (∃ key job job', s.job key = some job ∧ job.finished = false ∧
        s' = { s with jobs := s.jobs.insert key job' }) ∨
      (∃ key, s' = { s with jobs := s.jobs.erase key }) ∨
      ∃ storages, s' = { s with storages := storages } := by
  unfold cluster Cluster.act at h
  cases a with
  | create tr =>
      dsimp only at h
      split at h
      · cases h
      · rename_i hnone
        cases h
        refine .inl ⟨_, ?_, rfl⟩
        exact .created hnone ⟨tr, rfl⟩
  | edit key spec =>
      dsimp only at h
      split at h
      · cases h
      · rename_i tr hfind
        cases h
        refine .inl ⟨_, ?_, rfl⟩
        exact .edited hfind (fun hs => (hs.key hfind :)) (.inl ⟨spec, rfl, rfl⟩)
  | delete key =>
      dsimp only at h
      split at h
      · cases h
      · rename_i tr hfind
        cases h
        refine .inl ⟨_, ?_, rfl⟩
        exact .deleted hfind (fun hs => (hs.key hfind :)) (.inr rfl)
  | setStorage key storage =>
      cases h
      exact .inr (.inr (.inr ⟨_, rfl⟩))
  | removeStorage key =>
      cases h
      exact .inr (.inr (.inr ⟨_, rfl⟩))
  | progress key succeeded active failed =>
      dsimp only at h
      split at h
      · cases h
      · rename_i job hjob
        split at h
        · cases h
        · rename_i hwork
          cases h
          exact .inr (.inl ⟨key, job, _, hjob, Bool.not_eq_true _ ▸ hwork, rfl⟩)
  | removeJob key =>
      cases h
      exact .inr (.inr (.inl ⟨key, rfl⟩))

theorem replays_change (h : cluster.act a s = some s') : ReplaysChange a s.replays s'.replays := by
  obtain ⟨_, hch, rfl⟩ | ⟨_, _, _, _, _, rfl⟩ | ⟨_, rfl⟩ | ⟨_, rfl⟩ := cluster_act_cases h
  · exact hch
  · exact .same
  · exact .same
  · exact .same

/-- **A replay with a finalizer stays**, with its status, whatever others do. -/
theorem cluster_act_find (h : cluster.act a s = some s') (hs : s.replays.Ok) {key : Key}
    {cur : TrafficReplay} (hfind : s.replays.find key = some cur) (hfin : cur.finalizer = true) :
    ∃ x, s'.replays.find key = some x ∧ x.finalizer = true ∧ x.status = cur.status ∧
      (x.spec = cur.spec ∨ a = .edit key x.spec) := by
  have hfinal : ∀ {z}, ReplayRevised a key cur z → z.finalizer = true := by
    rintro z (⟨_, _, rfl⟩ | rfl) <;> exact hfin
  obtain ⟨x, hx, rfl | ⟨z, ⟨_, rfl, rfl⟩ | rfl, rfl⟩⟩ := (replays_change h).keeps hs hfinal hfind
  · exact ⟨x, hx, hfin, rfl, .inl rfl⟩
  · exact ⟨_, hx, hfin, rfl, .inr rfl⟩
  · exact ⟨_, hx, hfin, rfl, .inl rfl⟩

/-- A write goes over the replay that was read, or does nothing. -/
theorem write_cases {o : Outcome} {new : TrafficReplay} {f : TrafficReplay → TrafficReplay}
    (hK : s.replays.Known tr) (hkey : new.key = tr.key)
    (hrv : new.resourceVersion = tr.resourceVersion) (h : s.write o new f = (r, s')) :
    (r = none ∧ s' = s) ∨
      (s.replays.find tr.key = some tr ∧ s' = { s with replays := s.replays.store (f tr) } ∧
        ∀ tr', r = some tr' → tr' = s.replays.stamped (f tr)) := by
  unfold Cluster.write at h
  split at h
  · cases h
    exact .inl ⟨rfl, rfl⟩
  · rename_i cur hcur
    obtain ⟨rfl, hfind⟩ := hK.latest hkey hrv hcur
    exact (Outcome.answer_cases h).imp_right fun hs' => ⟨hfind, hs'⟩

theorem exec_replayStatus {new : TrafficReplay} (hK : s.replays.Known tr) (hkey : new.key = tr.key)
    (hrv : new.resourceVersion = tr.resourceVersion)
    (h : cluster.exec (.updateStatus new) c s = some (r, s')) :
    (r = none ∧ s' = s) ∨ (s.replays.find tr.key = some tr ∧
      s' = { s with replays := s.replays.store { tr with status := new.status } } ∧
        ∀ tr', r = some tr' → tr' = s.replays.stamped { tr with status := new.status }) := by
  cases c with
  | api o => exact write_cases hK hkey hrv (Option.some.inj h)
  | _ => cases h

theorem exec_replayUpdate {fin : Bool} (hK : s.replays.Known tr)
    (h : cluster.exec (.update { tr with finalizer := fin }) c s = some (r, s')) :
    (r = none ∧ s' = s) ∨ (s.replays.find tr.key = some tr ∧
      s' = { s with replays := s.replays.store { tr with finalizer := fin } } ∧
        ∀ tr', r = some tr' → tr' = s.replays.stamped { tr with finalizer := fin }) := by
  cases c with
  | api o => exact write_cases hK rfl rfl (Option.some.inj h)
  | _ => cases h

/-- The operations that change nothing. -/
def ReplayOp.reads : ReplayOp → Bool
  | .get _ | .getStorage _ | .getJob _ | .runReport _ | .now | .report _ => true
  | _ => false

theorem exec_reads {op : ReplayOp} (hop : op.reads = true) {r : op.Ans}
    (h : cluster.exec op c s = some (r, s')) : s' = s := by
  cases op with
  | update _ => cases hop
  | updateStatus _ => cases hop
  | createJob _ => cases hop
  | deleteJob _ => cases hop
  | _ => cases c <;> first | (cases h; rfl) | cases h

theorem exec_getReplay {key : Key} (h : cluster.exec (.get key) c s = some (.ok (some tr), s')) :
    s.replays.find key = some tr := by
  cases c with
  | api o =>
      have hread : o.read (s.replays.find key) = .ok (some tr) :=
        (Prod.mk.inj (Option.some.inj h)).1
      cases o with
      | ok => exact Except.ok.inj hread
      | _ => cases hread
  | _ => cases h

theorem exec_createJob {job : ReplayJob} {r : Bool}
    (h : cluster.exec (.createJob job) c s = some (r, s')) :
    s' = s ∨ s' = { s with jobs := s.jobs.insert job.key job } := by
  cases c with
  | api o =>
      have h := Option.some.inj h
      unfold Cluster.createJob at h
      split at h
      · cases h
        exact .inl rfl
      · exact (Outcome.perform_cases h).imp_left And.right
  | _ => cases h

theorem exec_deleteJob {key : Key} {r : Bool}
    (h : cluster.exec (.deleteJob key) c s = some (r, s')) :
    (r = false ∧ s' = s) ∨ s' = { s with jobs := s.jobs.erase key } := by
  cases c with
  | api o => exact Outcome.perform_cases (Option.some.inj h)
  | _ => cases h

end Kapture.Spoke
