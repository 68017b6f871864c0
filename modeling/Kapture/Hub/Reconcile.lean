import Kapture.Hub.LoadTest
import Kapture.Lib.Conc

/-!
# Reconciling a load test

`CaptureLoadTestReconciler.Reconcile` as a program: it reads and writes the resource
through the API server, and asks the hub's gRPC server for spokes and reports and to
queue directives. Each of these is one operation, and anything may happen between two.
-/

namespace Kapture.Hub

open Go Storage Conc

/-- What `SendReplayDirective` returns. -/
inductive SendResult where
  | accepted
  | notFound
  | resourceExhausted
  | invalidArgument
deriving DecidableEq, Repr

/-- What `Reconcile` returns. -/
inductive Result where
  | done
  | requeue
  | err
deriving DecidableEq, Repr

/-- The operations of a reconcile. A gRPC server is named by a number, and so is the
registration of a spoke on it, which `queueDirective` looks up before it offers the
directive to its buffer. -/
inductive HubOp where
  | get (key : Key)
  | server
  | update (lt : CaptureLoadTest)
  | updateStatus (lt : CaptureLoadTest)
  | selectSpokes (srv : Nat) (cells : List Str) (max : Int32)
  | replayStatuses (srv : Nat) (key : Key)
  /-- Looks a spoke up, to send it `d`. -/
  | findSpoke (srv : Nat) (spokeID : Str) (d : ReplayDirective)
  | offer (srv entry : Nat) (spokeID : Str) (d : ReplayDirective)
  | clearReplayStatuses (srv : Nat) (key : Key)
  | now
  /-- The time at which `shouldAbort` judges a run by what was reported. -/
  | judge (lt : CaptureLoadTest) (statuses : List ReplayStatusSnapshot)
deriving DecidableEq, Repr

@[reducible] def HubOp.Ans : HubOp → Type
  | .get _ => Except Unit (Option CaptureLoadTest)
  | .server => Option Nat
  | .update _ => Option CaptureLoadTest
  | .updateStatus _ => Option CaptureLoadTest
  | .selectSpokes .. => List SpokeSelection
  | .replayStatuses .. => List ReplayStatusSnapshot
  | .findSpoke .. => Option Nat
  | .offer .. => Bool
  | .clearReplayStatuses .. => Unit
  | .now => Time
  | .judge .. => Time

abbrev Pass := Prog HubOp HubOp.Ans

/-! ## Sending -/

/-- `SendReplayDirective`, which is `queueDirective`. -/
def sendReplayDirective (srv : Nat) (spokeID : Str) (d : ReplayDirective) : Pass SendResult :=
  if spokeID = [] then .ret .invalidArgument
  else .call (.findSpoke srv spokeID d) fun
    | none => .ret .notFound
    | some entry => .call (.offer srv entry spokeID d) fun room =>
        .ret (if room then .accepted else .resourceExhausted)

/-- A spoke that is not registered counts as delivered. -/
def SendResult.delivered : SendResult → Bool
  | .accepted | .notFound => true
  | _ => false

/-- The loop of `stopAllShards`. -/
def stopShards (srv : Nat) (lt : CaptureLoadTest) : List LoadTestAssignment → Bool → Pass Bool
  | [], allDelivered => .ret allDelivered
  | a :: rest, allDelivered =>
      (sendReplayDirective srv a.spokeID (stopDirective lt)).bind fun r =>
        stopShards srv lt rest (allDelivered && r.delivered)

def stopAllShards (srv : Nat) (lt : CaptureLoadTest) : Pass Bool :=
  stopShards srv lt lt.status.assignments true

def reported (statuses : List ReplayStatusSnapshot) (shard : Int32) : Bool :=
  statuses.any (·.summary.shardIndex == shard)

/-- The shards nobody has reported on, with their spokes. -/
def unreported (assignments : List LoadTestAssignment) (statuses : List ReplayStatusSnapshot) :
    List (Str × Int32) :=
  assignments.flatMap fun a =>
    (a.shardIndexes.filter fun shard => !reported statuses shard).map fun shard =>
      (a.spokeID, shard)

/-- Sends the `START`s; an error is only logged. -/
def sendStarts (srv : Nat) (lt : CaptureLoadTest) : List (Str × Int32) → Pass Unit
  | [] => .ret ()
  | (spokeID, shard) :: rest =>
      (sendReplayDirective srv spokeID (buildStartDirective lt shard)).bind fun _ =>
        sendStarts srv lt rest

/-! ## What is written -/

/-- Sets the phase and a condition. -/
def CaptureLoadTest.mark (lt : CaptureLoadTest) (phase : Phase) (c : Condition) :
    CaptureLoadTest :=
  { lt with status := { lt.status with
    phase := phase
    conditions := setStatusCondition lt.status.conditions c } }

def CaptureLoadTest.denied (lt : CaptureLoadTest) : CaptureLoadTest :=
  lt.mark .failed (.targetDenied lt.spec.target.host (lt.spec.safety.getD []))

/-- The assignments, stored before any `START` is sent. -/
def CaptureLoadTest.distributed (lt : CaptureLoadTest) (spokes : List SpokeSelection)
    (now : Time) : CaptureLoadTest :=
  let planned := planDistribution lt.spec spokes
  { lt with status := { lt.status with
    phase := .distributing
    startTime := some now
    assignments := planned
    assignedSpokes := Int32.ofNat planned.length
    totalShards := countShards planned
    conditions := setStatusCondition lt.status.conditions
      (.spokesAssigned (countShards planned) planned.length) } }

def CaptureLoadTest.aggregated (lt : CaptureLoadTest) (statuses : List ReplayStatusSnapshot)
    (now : Time) : CaptureLoadTest :=
  { lt with status := aggregate lt.status statuses now }

def CaptureLoadTest.aborting (lt : CaptureLoadTest) (reason : AbortReason) : CaptureLoadTest :=
  lt.mark lt.status.phase (.abortInProgress reason)

def CaptureLoadTest.aborted (lt : CaptureLoadTest) (reason : AbortReason) (now : Time) :
    CaptureLoadTest :=
  { lt.mark .aborted (.abortPolicy reason) with
    status := { (lt.mark .aborted (.abortPolicy reason)).status with completionTime := some now } }

def writeStatus (lt : CaptureLoadTest) (result : Result) : Pass Result :=
  .call (.updateStatus lt) fun
    | none => .ret .err
    | some _ => .ret result

/-! ## The reconcile -/

def removeFinalizer (lt : CaptureLoadTest) : Pass Result :=
  .call (.update { lt with finalizer := false }) fun
    | none => .ret .err
    | some _ => .ret .done

/-- The deletion of a load test. -/
def reconcileDelete (srv : Option Nat) (lt : CaptureLoadTest) : Pass Result :=
  if lt.finalizer then
    match srv with
    | none => removeFinalizer lt
    | some srv =>
        (stopAllShards srv lt).bind fun allDelivered =>
          if allDelivered then .call (.clearReplayStatuses srv lt.key) fun _ => removeFinalizer lt
          else .ret .requeue
  else .ret .done

/-- The abort policy has tripped. -/
def abortRun (srv : Nat) (lt : CaptureLoadTest) (reason : AbortReason) : Pass Result :=
  (stopAllShards srv lt).bind fun allDelivered =>
    if allDelivered then .call .now fun now => writeStatus (lt.aborted reason now) .done
    else writeStatus (lt.aborting reason) .requeue

/-- Everything after the reports are read and the `START`s are sent. -/
def conclude (srv : Nat) (lt : CaptureLoadTest) (statuses : List ReplayStatusSnapshot) :
    Pass Result :=
  .call .now fun t₁ =>
    .call (.judge lt statuses) fun t₂ =>
      match shouldAbort lt.spec (lt.aggregated statuses t₁).status t₂ with
      | some reason => abortRun srv (lt.aggregated statuses t₁) reason
      | none => writeStatus (lt.aggregated statuses t₁)
          (if (lt.aggregated statuses t₁).status.phase.terminal then .done else .requeue)

def superviseRun (srv : Nat) (lt : CaptureLoadTest) : Pass Result :=
  .call (.replayStatuses srv lt.key) fun statuses =>
    (sendStarts srv lt (unreported lt.status.assignments statuses)).bind fun _ =>
      conclude srv lt statuses

/-- Plans the distribution once. -/
def distribute (srv : Nat) (lt : CaptureLoadTest) : Pass Result :=
  if lt.status.assignments = [] then
    .call (.selectSpokes srv (cellsOf lt.spec) (maxSpokesOf lt.spec)) fun spokes =>
      if spokes = [] then
        writeStatus (lt.mark .pending (.noEligibleSpokes (cellsOf lt.spec))) .requeue
      else .call .now fun now =>
        .call (.updateStatus (lt.distributed spokes now)) fun
          | none => .ret .err
          | some lt => superviseRun srv lt
  else superviseRun srv lt

/-- A load test that is not being deleted and has its finalizer. -/
def reconcileLive (srv : Option Nat) (lt : CaptureLoadTest) : Pass Result :=
  if lt.status.phase.terminal then .ret .done
  else if targetDenied lt.spec then writeStatus lt.denied .done
  else
    match srv with
    | none => writeStatus (lt.mark .pending .hubNotReady) .requeue
    | some srv => distribute srv lt

def reconcile (key : Key) : Pass Result :=
  .call (.get key) fun
    | .error _ => .ret .err
    | .ok none => .ret .done
    | .ok (some lt) => .call .server fun srv =>
        if lt.deleting then reconcileDelete srv lt
        else if lt.finalizer then reconcileLive srv lt
        else .call (.update { lt with finalizer := true }) fun
          | none => .ret .err
          | some lt => reconcileLive srv lt

end Kapture.Hub
