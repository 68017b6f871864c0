import Kapture.Hub.LoadTest

/-!
# Replays on a spoke

A `TrafficReplay` is one shard of a load test, or a replay a user made. A `START`
directive becomes one (`replayFromDirective`), and its status goes back to the hub as a
summary (`replaySummaryFromStatus`).
-/

namespace Kapture.Spoke

open Go Storage Replay Hub
open Worker (ReplayFilters ReplayShardSpec)

/-! ## Storage -/

inductive CaptureStorageType where
  | s3
  | gcs
  | efs
  | ebs
  | plugin
deriving DecidableEq, Repr

structure S3Config where
  bucket : Str
  region : Str
  pathPrefix : Option Str
deriving DecidableEq, Repr

structure GCSConfig where
  bucket : Str
  pathPrefix : Option Str
deriving DecidableEq, Repr

structure EFSConfig where
  fileSystemID : Str
  mountPath : Str
  directory : Option Str
deriving DecidableEq, Repr

structure EBSConfig where
  volumeID : Str
  mountPath : Str
  filesystem : Option Str
deriving DecidableEq, Repr

/-- `PluginConfig`; the configuration is raw JSON. -/
structure PluginConfig where
  path : Str
  symbol : Option Str
  config : Option Str
deriving DecidableEq, Repr

structure CaptureStorage where
  name : Str
  type : CaptureStorageType
  s3 : Option S3Config
  gcs : Option GCSConfig
  efs : Option EFSConfig
  ebs : Option EBSConfig
  plugin : Option PluginConfig
deriving DecidableEq, Repr

/-! ## The resource -/

structure TrafficReplaySpec where
  sourceRef : Str
  storageRef : Str
  target : ReplayTarget
  rate : Option RateSpec
  filters : Option ReplayFilters
  concurrency : Option Int32
  shard : Option ReplayShardSpec
  loadTestRef : Option Str
  engine : Option ReplayEngineSpec
  /-- `spec.safety`, by its allowed hosts. -/
  safety : Option (List Str)
deriving DecidableEq, Repr

inductive TrafficReplayPhase where
  | unset
  | pending
  | running
  | completed
  | failed
deriving DecidableEq, Repr

def TrafficReplayPhase.terminal : TrafficReplayPhase → Bool
  | .completed | .failed => true
  | _ => false

/-- Why a job cannot be built: what the error of `buildReplayArgs` says. -/
inductive BuildError where
  | missingConfig (storage : Str) (type : CaptureStorageType)
  | unsupported (type : CaptureStorageType)
deriving DecidableEq, Repr

/-- A condition by its type, with the reason and the data of its message. -/
inductive ReplayCondition where
  | targetDenied (host : Str) (allowedHosts : List Str)
  | storageNotFound (storage : Key)
  | invalidSpec (err : BuildError)
  | jobCreated
  | replayFinished
  | replayFailed (message : Str)
deriving DecidableEq, Repr

/-- Whether the condition is of type `Complete`; the others are of type `Ready`. -/
def ReplayCondition.complete : ReplayCondition → Bool
  | .replayFinished | .replayFailed _ => true
  | _ => false

/-- `setCondition`: a condition replaces the one of its type. -/
def setCondition (conditions : List ReplayCondition) (c : ReplayCondition) :
    List ReplayCondition :=
  conditions.filter (·.complete ≠ c.complete) ++ [c]

/-- `TrafficReplayStatus`, without rates and latencies. -/
structure TrafficReplayStatus where
  phase : TrafficReplayPhase
  startTime : Option Time
  completionTime : Option Time
  totalRequests : Int64
  sentRequests : Int64
  failedRequests : Int64
  filteredRequests : Int64
  conditions : List ReplayCondition
deriving DecidableEq, Repr

def TrafficReplayStatus.empty : TrafficReplayStatus := ⟨.unset, none, none, 0, 0, 0, 0, []⟩

structure TrafficReplay where
  key : Key
  /-- The label `LabelLoadTest`. -/
  loadTestLabel : Option Str
  /-- The label `LabelShardIndex`. -/
  shardIndexLabel : Option Str
  creationTimestamp : Time
  resourceVersion : Nat
  /-- Whether `DeletionTimestamp` is set. -/
  deleting : Bool
  /-- Whether it has `replayFinalizerName`. -/
  finalizer : Bool
  spec : TrafficReplaySpec
  status : TrafficReplayStatus
  /-- Which load test of that name it was made for, as in `ReplayDirective`. -/
  incarnation : Nat
deriving DecidableEq, Repr

/-- The target safety gate. -/
def TrafficReplaySpec.denied (spec : TrafficReplaySpec) : Bool :=
  match spec.safety with
  | none => false
  | some allowedHosts => !hostAllowed spec.target.host allowedHosts

/-! ## From and to the hub -/

def replayShardName (loadTestName : Str) (shardIndex : Int32) : Str :=
  loadTestName ++ lit "-shard-" ++ itoa shardIndex.toInt

/-- The rate of a directive, on the spoke. -/
def rateFromDirective (rate : ReplayRate) : RateSpec where
  mode := rate.mode
  requestsPerSecond := if 0 < rate.requestsPerSecond then some rate.requestsPerSecond else none
  timeScale := if rate.timeScale ≠ [] then some rate.timeScale else none

/-- The filters of a directive, on the spoke. -/
def filtersFromDirective (f : ReplayDataFilters) : ReplayFilters where
  startTime := f.startTime
  endTime := f.endTime
  pathPrefix := if f.pathPrefix ≠ [] then some f.pathPrefix else none
  methods := f.methods
  limit := if 0 < f.limit then some f.limit else none

/-- The engine of a directive, on the spoke. -/
def engineFromDirective (name config : Str) : Option ReplayEngineSpec :=
  if name ≠ [] ∨ config ≠ [] then some ⟨name, if config ≠ [] then some config else none⟩ else none

/-- The shard of a directive; without one a replay is the whole capture. -/
def shardFromDirective (shard : Option ReplayShard) : ReplayShardSpec :=
  match shard with
  | none => ⟨0, 1, none⟩
  | some shard => ⟨shard.index, shard.count, if shard.presharded then some true else none⟩

/-- `replayFromDirective`, of a directive that has a spec. -/
def replayFromDirective (directive : ReplayDirective) (h : directive.spec.isSome) :
    TrafficReplay :=
  let spec := directive.spec.get h
  let shard := shardFromDirective spec.shard
  { key := ⟨directive.loadTest.ns, replayShardName directive.loadTest.name shard.index⟩
    loadTestLabel := some directive.loadTest.name
    shardIndexLabel := some (itoa shard.index.toInt)
    creationTimestamp := 0
    resourceVersion := 0
    deleting := false
    finalizer := false
    spec := {
      sourceRef := spec.sourceCapture
      storageRef := spec.storageRefName
      target := ⟨spec.targetHost, if spec.targetPort ≠ 0 then some spec.targetPort else none,
        if spec.targetTls then some true else none⟩
      rate := spec.rate.map rateFromDirective
      filters := spec.filters.map filtersFromDirective
      concurrency := if 0 < spec.concurrency then some spec.concurrency else none
      shard := some shard
      loadTestRef := some directive.loadTest.name
      engine := engineFromDirective spec.engineName spec.engineConfigJson
      safety := if spec.allowedHosts ≠ [] then some spec.allowedHosts else none }
    status := .empty
    incarnation := directive.incarnation }

/-- The phase that a summary reports. -/
def TrafficReplayPhase.report : TrafficReplayPhase → ReplayPhase
  | .unset => .unspecified
  | .pending => .pending
  | .running => .running
  | .completed => .completed
  | .failed => .failed

def replaySummaryFromStatus (tr : TrafficReplay) : Option ReplayStatusSummary :=
  tr.spec.loadTestRef.map fun name =>
    { loadTest := ⟨tr.key.ns, name⟩
      replayName := tr.key.name
      shardIndex := (tr.spec.shard.map (·.index)).getD 0
      shardCount := (tr.spec.shard.map (·.count)).getD 0
      phase := tr.status.phase.report
      totalRequests := tr.status.totalRequests
      sentRequests := tr.status.sentRequests
      failedRequests := tr.status.failedRequests
      filteredRequests := tr.status.filteredRequests
      incarnation := tr.incarnation }

end Kapture.Spoke
