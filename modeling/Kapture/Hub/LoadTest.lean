import Kapture.Worker.Args

/-!
# Load tests

A `CaptureLoadTest` asks for a capture to be replayed from many spokes at once. This
module has the resource, the messages that go between hub and spokes, and the pure
functions of the coordinator: how shards are dealt to spokes, the directive that starts
a shard, how the reports of the shards are rolled up, and when a run is to be aborted.
-/

namespace Kapture.Hub

open Go Storage Replay Worker

/-- `types.NamespacedName`. -/
structure Key where
  ns : Str
  name : Str
deriving DecidableEq, Repr

/-! ## The resource -/

structure ReplayTarget where
  host : Str
  port : Option Int32
  tls : Option Bool
deriving DecidableEq, Repr

/-- `ReplayRateConfig`, with the time scale as it is written. -/
structure RateSpec where
  mode : RateMode
  requestsPerSecond : Option Int32
  timeScale : Option Str
deriving DecidableEq, Repr

structure LoadTestDistribution where
  cells : List Str
  maxSpokes : Option Int32
  workersPerSpoke : Option Int32
  concurrencyPerWorker : Option Int32
  presharded : Option Bool
deriving DecidableEq, Repr

structure LoadTestAbortPolicy where
  maxDuration : Option Duration
  errorPercent : Option Int32
  minSampleRequests : Option Int64
deriving DecidableEq, Repr

/-- `ReplayEngineSpec`; the configuration is raw JSON. -/
structure ReplayEngineSpec where
  name : Str
  config : Option Str
deriving DecidableEq, Repr

structure CaptureLoadTestSpec where
  sourceRef : Str
  storageRef : Str
  target : ReplayTarget
  rate : Option RateSpec
  filters : Option ReplayFilters
  distribution : Option LoadTestDistribution
  abort : Option LoadTestAbortPolicy
  engine : Option ReplayEngineSpec
  /-- `spec.safety`, by its allowed hosts. -/
  safety : Option (List Str)
deriving DecidableEq, Repr

inductive Phase where
  | unset
  | pending
  | distributing
  | running
  | completed
  | failed
  | aborted
deriving DecidableEq, Repr

def Phase.terminal : Phase → Bool
  | .completed | .failed | .aborted => true
  | _ => false

/-- The phases in which the abort policy is looked at. -/
def Phase.live (p : Phase) : Bool := p == .distributing || p == .running

structure LoadTestAssignment where
  spokeID : Str
  cell : Str
  shardIndexes : List Int32
deriving DecidableEq, Repr

structure LoadTestCellStatus where
  name : Str
  spokes : Int32
  shards : Int32
  sentRequests : Int64
  failedRequests : Int64
deriving DecidableEq, Repr

/-- Why a run is aborted: what `shouldAbort` puts into words. -/
inductive AbortReason where
  | maxDuration (limit elapsed : Duration)
  | errorRate (percent : Rat) (threshold : Int32)
deriving DecidableEq, Repr

/-- A condition by its type, with the reason and the data of its message. -/
inductive Condition where
  | targetDenied (host : Str) (allowedHosts : List Str)
  | hubNotReady
  | noEligibleSpokes (cells : List Str)
  | spokesAssigned (shards : Int32) (spokes : Nat)
  | abortInProgress (reason : AbortReason)
  | abortPolicy (reason : AbortReason)
deriving DecidableEq, Repr

inductive ConditionType where
  | targetAllowed
  | spokesAssigned
  | aborted
deriving DecidableEq, Repr

def Condition.type : Condition → ConditionType
  | .targetDenied .. => .targetAllowed
  | .hubNotReady | .noEligibleSpokes _ | .spokesAssigned .. => .spokesAssigned
  | .abortInProgress _ | .abortPolicy _ => .aborted

/-- `meta.SetStatusCondition`: a condition replaces the one of its type. -/
def setStatusCondition (conditions : List Condition) (c : Condition) : List Condition :=
  conditions.filter (·.type ≠ c.type) ++ [c]

structure CaptureLoadTestStatus where
  phase : Phase
  startTime : Option Time
  completionTime : Option Time
  totalShards : Int32
  assignedSpokes : Int32
  assignments : List LoadTestAssignment
  cells : List LoadTestCellStatus
  totalRequests : Int64
  sentRequests : Int64
  failedRequests : Int64
  filteredRequests : Int64
  completedShards : Int32
  failedShards : Int32
  conditions : List Condition
deriving DecidableEq, Repr

/-- The status of a load test nobody has reconciled yet. -/
def CaptureLoadTestStatus.empty : CaptureLoadTestStatus :=
  ⟨.unset, none, none, 0, 0, [], [], 0, 0, 0, 0, 0, 0, []⟩

structure CaptureLoadTest where
  key : Key
  /-- Of two load tests of one name, the later has the greater one. -/
  uid : Nat
  resourceVersion : Nat
  /-- Whether `DeletionTimestamp` is set. -/
  deleting : Bool
  /-- Whether it has `LoadTestFinalizer`. -/
  finalizer : Bool
  spec : CaptureLoadTestSpec
  status : CaptureLoadTestStatus
deriving DecidableEq, Repr

/-! ## Messages -/

/-- `hubv1.ReplayRate`. -/
structure ReplayRate where
  mode : RateMode
  requestsPerSecond : Int32
  timeScale : Str
deriving DecidableEq, Repr

/-- `hubv1.ReplayShard`. -/
structure ReplayShard where
  index : Int32
  count : Int32
  presharded : Bool
deriving DecidableEq, Repr

/-- `hubv1.ReplayDataFilters`. -/
structure ReplayDataFilters where
  startTime : Option Time
  endTime : Option Time
  pathPrefix : Str
  methods : List Str
  limit : Int64
deriving DecidableEq, Repr

/-- `hubv1.ReplaySpec`. -/
structure ReplaySpec where
  sourceCapture : Str
  storageRefName : Str
  targetHost : Str
  targetPort : Int32
  targetTls : Bool
  rate : Option ReplayRate
  shard : Option ReplayShard
  concurrency : Int32
  filters : Option ReplayDataFilters
  engineName : Str
  engineConfigJson : Str
  allowedHosts : List Str
deriving DecidableEq, Repr

inductive ReplayAction where
  | start
  | stop
  /-- No action, or one that is not known. -/
  | unspecified
deriving DecidableEq, Repr

/-- `hubv1.ReplayDirective`. -/
structure ReplayDirective where
  directiveId : Str
  action : ReplayAction
  loadTest : Key
  spec : Option ReplaySpec
  /-- Which load test of that name it was made for. No message carries it, and nothing
  but statements reads it. -/
  incarnation : Nat
deriving DecidableEq, Repr

/-- `hubv1.ReplayPhase`. -/
inductive ReplayPhase where
  | unspecified
  | pending
  | running
  | completed
  | failed
deriving DecidableEq, Repr

/-- `hubv1.ReplayStatusSummary`. -/
structure ReplayStatusSummary where
  loadTest : Key
  replayName : Str
  shardIndex : Int32
  shardCount : Int32
  phase : ReplayPhase
  totalRequests : Int64
  sentRequests : Int64
  failedRequests : Int64
  filteredRequests : Int64
  /-- As in `ReplayDirective`. -/
  incarnation : Nat
deriving DecidableEq, Repr

structure ReplayStatusSnapshot where
  spokeID : Str
  cell : Str
  summary : ReplayStatusSummary
deriving DecidableEq, Repr

structure SpokeSelection where
  spokeID : Str
  cell : Str
deriving DecidableEq, Repr

/-! ## Where load may be sent -/

/-- `strings.ToLower`, on ASCII letters. -/
def toLower (s : Str) : Str := s.map Str.lowerByte

/-- `strings.TrimSuffix(s, ".")`. -/
def trimDot (s : Str) : Str := if s.hasSuffix [46] then s.dropLast else s

/-- One pattern of `HostAllowed`. -/
def matchesPattern (host pattern : Str) : Bool :=
  let pattern := toLower pattern.trimSpace
  if pattern = [] then false
  else if pattern.hasPrefix (lit "*.") then host.hasSuffix ([46] ++ pattern.drop 2)
  else host == pattern

/-- `safety.HostAllowed`. -/
def hostAllowed (host : Str) (allowed : List Str) : Bool :=
  allowed.isEmpty || allowed.any (matchesPattern (toLower (trimDot host)))

/-- The target safety gate. -/
def targetDenied (spec : CaptureLoadTestSpec) : Bool :=
  match spec.safety with
  | none => false
  | some allowedHosts => !hostAllowed spec.target.host allowedHosts

/-! ## Distribution -/

def defaultWorkersPerSpoke : Int32 := 1

def defaultConcurrencyPerWorker : Int32 := 10

def workersPerSpoke (spec : CaptureLoadTestSpec) : Int32 :=
  ((spec.distribution.bind (·.workersPerSpoke)).getD defaultWorkersPerSpoke)

/-- The cells a load test may use; empty for all. -/
def cellsOf (spec : CaptureLoadTestSpec) : List Str :=
  (spec.distribution.map (·.cells)).getD []

def maxSpokesOf (spec : CaptureLoadTestSpec) : Int32 :=
  (spec.distribution.bind (·.maxSpokes)).getD 0

/-- `workers` shards from `next` on. -/
def shardIndexes (next : Int32) (workers : Nat) : List Int32 :=
  (List.range workers).map fun w => next + Int32.ofNat w

/-- The loop of `planDistribution` over the selected spokes. -/
def planFrom (workers : Nat) : Int32 → List SpokeSelection → List LoadTestAssignment
  | _, [] => []
  | next, spoke :: rest =>
      ⟨spoke.spokeID, spoke.cell, shardIndexes next workers⟩
        :: planFrom workers (next + Int32.ofNat workers) rest

/-- `planDistribution`, on the spokes that were selected. -/
def planDistribution (spec : CaptureLoadTestSpec) (spokes : List SpokeSelection) :
    List LoadTestAssignment :=
  planFrom (workersPerSpoke spec).toInt.toNat 0 spokes

def countShards (assignments : List LoadTestAssignment) : Int32 :=
  assignments.foldl (fun count a => count + Int32.ofNat a.shardIndexes.length) 0

/-- All shards of a plan, in order. -/
def allShards (assignments : List LoadTestAssignment) : List Int32 :=
  assignments.flatMap (·.shardIndexes)

/-! ## Directives -/

def splitRate (totalRPS shardCount shard : Int32) : Int32 :=
  if shardCount ≤ 0 then totalRPS
  else
    let base := totalRPS / shardCount
    let base := if shard < totalRPS % shardCount then base + 1 else base
    if base < 1 then 1 else base

def startRate (rate : Option RateSpec) (totalShards shard : Int32) : ReplayRate :=
  match rate with
  | none => ⟨.originalTiming, 0, []⟩
  | some rate =>
      ⟨rate.mode,
        match rate.mode, rate.requestsPerSecond with
        | .constant, some rps => splitRate rps totalShards shard
        | _, _ => 0,
        rate.timeScale.getD []⟩

def startFilters (f : ReplayFilters) : ReplayDataFilters :=
  ⟨f.startTime, f.endTime, f.pathPrefix.getD [], f.methods, f.limit.getD 0⟩

def buildStartDirective (lt : CaptureLoadTest) (shard : Int32) : ReplayDirective where
  directiveId := lt.key.ns ++ lit "-" ++ lt.key.name ++ lit "-shard-" ++ formatInt shard
  action := .start
  loadTest := lt.key
  spec := some {
    sourceCapture := lt.spec.sourceRef
    storageRefName := lt.spec.storageRef
    targetHost := lt.spec.target.host
    targetPort := lt.spec.target.port.getD 0
    targetTls := lt.spec.target.tls.getD false
    rate := some (startRate lt.spec.rate lt.status.totalShards shard)
    shard := some ⟨shard, lt.status.totalShards,
      (lt.spec.distribution.bind (·.presharded)).getD false⟩
    concurrency := (lt.spec.distribution.bind (·.concurrencyPerWorker)).getD
      defaultConcurrencyPerWorker
    filters := lt.spec.filters.map startFilters
    engineName := (lt.spec.engine.map (·.name)).getD []
    engineConfigJson := (lt.spec.engine.bind (·.config)).getD []
    allowedHosts := lt.spec.safety.getD [] }
  incarnation := lt.uid

/-- The directive of `stopAllShards`. -/
def stopDirective (lt : CaptureLoadTest) : ReplayDirective where
  directiveId := lt.key.ns ++ lit "-" ++ lt.key.name ++ lit "-stop"
  action := .stop
  loadTest := lt.key
  spec := none
  incarnation := lt.uid

/-- The shard a `START` is for. -/
def ReplayDirective.shard (d : ReplayDirective) : Option ReplayShard := d.spec.bind (·.shard)

@[simp] theorem buildStartDirective_shard (lt : CaptureLoadTest) (shard : Int32) :
    (buildStartDirective lt shard).shard = some ⟨shard, lt.status.totalShards,
      (lt.spec.distribution.bind (·.presharded)).getD false⟩ := rfl

/-! ## Reports -/

/-- The totals of a cell once an assignment in it is counted. -/
def addAssignment (cells : List LoadTestCellStatus) (a : LoadTestAssignment) :
    List LoadTestCellStatus :=
  if cells.any (·.name == a.cell) then
    cells.map fun c => if c.name = a.cell then
      { c with spokes := c.spokes + 1, shards := c.shards + Int32.ofNat a.shardIndexes.length }
      else c
  else cells ++ [⟨a.cell, 1, Int32.ofNat a.shardIndexes.length, 0, 0⟩]

/-- `spokeCells[spokeID]`: the cell a spoke is assigned in, or nothing. -/
def spokeCell (assignments : List LoadTestAssignment) (spokeID : Str) : Str :=
  ((assignments.reverse.find? (·.spokeID == spokeID)).map (·.cell)).getD []

def addSnapshot (assignments : List LoadTestAssignment) (cells : List LoadTestCellStatus)
    (snap : ReplayStatusSnapshot) : List LoadTestCellStatus :=
  cells.map fun c => if c.name = spokeCell assignments snap.spokeID then
    { c with
      sentRequests := c.sentRequests + snap.summary.sentRequests
      failedRequests := c.failedRequests + snap.summary.failedRequests }
    else c

def sumOf (f : ReplayStatusSummary → Int64) (statuses : List ReplayStatusSnapshot) : Int64 :=
  statuses.foldl (fun acc snap => acc + f snap.summary) 0

/-- The number of snapshots in a phase, as an `int32`. -/
def countPhase (phase : ReplayPhase) (statuses : List ReplayStatusSnapshot) : Int32 :=
  statuses.foldl (fun acc snap => if snap.summary.phase = phase then acc + 1 else acc) 0

/-- The phase switch of `aggregate`. -/
def nextPhase (phase : Phase) (totalShards completed failed running : Int32) : Phase :=
  if 0 < totalShards ∧ completed = totalShards then .completed
  else if 0 < totalShards ∧ completed + failed = totalShards then .failed
  else if 0 < running ∨ 0 < completed ∨ 0 < failed then .running
  else phase

def aggregate (status : CaptureLoadTestStatus) (statuses : List ReplayStatusSnapshot)
    (now : Time) : CaptureLoadTestStatus :=
  let completed := countPhase .completed statuses
  let failedShards := countPhase .failed statuses
  let phase := nextPhase status.phase status.totalShards completed failedShards
    (countPhase .running statuses)
  let done := 0 < status.totalShards ∧
    (completed = status.totalShards ∨ completed + failedShards = status.totalShards)
  { status with
    totalRequests := sumOf (·.totalRequests) statuses
    sentRequests := sumOf (·.sentRequests) statuses
    failedRequests := sumOf (·.failedRequests) statuses
    filteredRequests := sumOf (·.filteredRequests) statuses
    completedShards := completed
    failedShards := failedShards
    cells := statuses.foldl (addSnapshot status.assignments)
      (status.assignments.foldl addAssignment [])
    phase := phase
    completionTime := if done then some (status.completionTime.getD now)
      else status.completionTime }

/-! ## Aborting -/

def defaultAbortMinSample : Int64 := 100

/-- `float64(failed) * 100 / float64(attempted)`. -/
def errorPercent (failed attempted : Int64) : Rat :=
  Float64.div (Float64.mul (Float64.ofInt failed.toInt) 100) (Float64.ofInt attempted.toInt)

/-- The run is longer than `maxDuration`. -/
def overDuration (policy : LoadTestAbortPolicy) (startTime : Option Time) (now : Time) :
    Option AbortReason :=
  match policy.maxDuration, startTime with
  | some limit, some start =>
      let elapsed := Time.sub now start
      if limit < elapsed then some (.maxDuration limit elapsed) else none
  | _, _ => none

/-- Too many of the requests failed. -/
def overErrors (policy : LoadTestAbortPolicy) (sent failed : Int64) : Option AbortReason :=
  match policy.errorPercent with
  | none => none
  | some threshold =>
      let attempted := sent + failed
      if policy.minSampleRequests.getD defaultAbortMinSample ≤ attempted ∧
          Float64.ofInt threshold.toInt < errorPercent failed attempted then
        some (.errorRate (errorPercent failed attempted) threshold)
      else none

def shouldAbort (spec : CaptureLoadTestSpec) (status : CaptureLoadTestStatus) (now : Time) :
    Option AbortReason :=
  match spec.abort with
  | none => none
  | some policy =>
      if status.phase = .distributing ∨ status.phase = .running then
        overDuration policy status.startTime now
          <|> overErrors policy status.sentRequests status.failedRequests
      else none

/-! ## When a run is aborted -/

/-- More than `maxDuration` has passed since the run started. -/
def Late (lt : CaptureLoadTest) (now : Time) : Prop :=
  ∃ policy ∈ lt.spec.abort, ∃ limit ∈ policy.maxDuration, ∃ start ∈ lt.status.startTime,
    limit < Time.sub now start
deriving Decidable

/-- By these reports too many requests have failed, of enough that were attempted. -/
def Failing (lt : CaptureLoadTest) (statuses : List ReplayStatusSnapshot) : Prop :=
  let failed := sumOf (·.failedRequests) statuses
  let attempted := sumOf (·.sentRequests) statuses + failed
  ∃ policy ∈ lt.spec.abort, ∃ threshold ∈ policy.errorPercent,
    policy.minSampleRequests.getD defaultAbortMinSample ≤ attempted
      ∧ Float64.ofInt threshold.toInt < errorPercent failed attempted
deriving Decidable

/-- The run was found under way, or is shown to be by what is reported. -/
def ShownLive (lt : CaptureLoadTest) (statuses : List ReplayStatusSnapshot) : Prop :=
  lt.status.phase.live = true ∨ 0 < countPhase .running statuses ∨
    0 < countPhase .completed statuses ∨ 0 < countPhase .failed statuses
deriving Decidable

/-- As many shards are reported to be over as there are. -/
def CountedOver (lt : CaptureLoadTest) (statuses : List ReplayStatusSnapshot) : Prop :=
  0 < lt.status.totalShards ∧ (countPhase .completed statuses = lt.status.totalShards ∨
    countPhase .completed statuses + countPhase .failed statuses = lt.status.totalShards)
deriving Decidable

theorem aggregate_live (lt : CaptureLoadTest) (statuses : List ReplayStatusSnapshot) (now : Time) :
    (aggregate lt.status statuses now).phase.live = true ↔
      ShownLive lt statuses ∧ ¬ CountedOver lt statuses := by
  show (nextPhase _ _ _ _ _).live = true ↔ _
  unfold nextPhase ShownLive CountedOver
  split
  · rename_i hall
    exact iff_of_false (by decide) fun h => h.2 ⟨hall.1, .inl hall.2⟩
  · rename_i hall
    split
    · rename_i hover
      exact iff_of_false (by decide) fun h => h.2 ⟨hover.1, .inr hover.2⟩
    · rename_i hover
      have hcount : ¬ (0 < lt.status.totalShards ∧
          (countPhase .completed statuses = lt.status.totalShards ∨
            countPhase .completed statuses + countPhase .failed statuses
              = lt.status.totalShards)) := by
        rintro ⟨hpos, heq | heq⟩
        · exact hall ⟨hpos, heq⟩
        · exact hover ⟨hpos, heq⟩
      split
      · rename_i hshown
        exact iff_of_true rfl ⟨.inr hshown, hcount⟩
      · rename_i hshown
        exact ⟨fun h => ⟨.inl h, hcount⟩, fun h => h.1.resolve_right hshown⟩

variable {policy : LoadTestAbortPolicy}

theorem overDuration_isSome_iff {startTime : Option Time} {now : Time} :
    (overDuration policy startTime now).isSome ↔
      ∃ limit ∈ policy.maxDuration, ∃ start ∈ startTime, limit < Time.sub now start := by
  unfold overDuration
  cases policy.maxDuration with
  | none => simp
  | some limit =>
      cases startTime with
      | none => simp
      | some start => simp [apply_ite Option.isSome]

theorem overErrors_isSome_iff {sent failed : Int64} :
    (overErrors policy sent failed).isSome ↔ ∃ threshold ∈ policy.errorPercent,
      policy.minSampleRequests.getD defaultAbortMinSample ≤ sent + failed
        ∧ Float64.ofInt threshold.toInt < errorPercent failed (sent + failed) := by
  unfold overErrors
  cases policy.errorPercent with
  | none => simp
  | some threshold => simp [apply_ite Option.isSome]

/-- **A run is aborted by its duration or its errors**, while it is under way. -/
theorem shouldAbort_isSome_iff {lt : CaptureLoadTest} {statuses : List ReplayStatusSnapshot}
    {t₁ t₂ : Time} :
    (shouldAbort lt.spec (aggregate lt.status statuses t₁) t₂).isSome ↔
      (ShownLive lt statuses ∧ ¬ CountedOver lt statuses) ∧ (Late lt t₂ ∨ Failing lt statuses) := by
  have hlive : ((aggregate lt.status statuses t₁).phase = .distributing ∨
      (aggregate lt.status statuses t₁).phase = .running) ↔ ShownLive lt statuses
        ∧ ¬ CountedOver lt statuses := by
    rw [← aggregate_live lt statuses t₁, Phase.live, Bool.or_eq_true, beq_iff_eq, beq_iff_eq]
  rw [← hlive]
  unfold shouldAbort Late Failing
  cases lt.spec.abort with
  | none => simp
  | some policy =>
      have hstart : (aggregate lt.status statuses t₁).startTime = lt.status.startTime := rfl
      by_cases hphase : (aggregate lt.status statuses t₁).phase = .distributing ∨
          (aggregate lt.status statuses t₁).phase = .running
      · have hsome : ∀ a b : Option AbortReason, (a <|> b).isSome ↔ a.isSome ∨ b.isSome := by
          intro a b
          cases a <;> simp
        dsimp only
        rw [if_pos hphase, hsome, overDuration_isSome_iff, overErrors_isSome_iff, hstart]
        simp only [hphase, true_and, Option.mem_some_iff, exists_eq_left']
        rfl
      · simp [hphase]

end Kapture.Hub
