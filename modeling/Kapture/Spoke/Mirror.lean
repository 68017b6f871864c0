import Kapture.Hub.Coordinator
import Kapture.Lib.Objects
import Kapture.Spoke.AgentEnv

/-!
# Reconciling a capture

`TrafficCaptureReconciler.Reconcile` as a program on the spoke's cluster. It runs an agent
for the capture and mirrors the requests of the target route to the agent's Service, and
it takes both down when the capture is over or deleted. Between its calls users create,
edit and delete captures and routes, and the garbage collector and others remove the
objects of an agent. One capture is reconciled at a time.

A read and the write that follows it are one operation here: the write carries the version
that was read, so it is refused if anybody wrote in between. The report to the hub is left
out, since its error is only logged.
-/

namespace Kapture.Spoke

open Go Storage Hub Conc Objects

/-! ## Mirror filters -/

/-- `AgentServiceName`, and `AgentDeploymentName`, which is the same. -/
def agentServiceName (key : Key) : Str := key.name ++ lit "-capture-agent"

def captureAgentHTTPPort : Nat := 8080

structure BackendRef where
  name : Str
  ns : Option Str
  port : Option Nat
deriving DecidableEq, Repr

/-- A filter of a route's rule. **One that was added for a capture is told from one that a
user wrote**, even if they read the same. -/
inductive RouteFilter where
  | mirror (backend : BackendRef)
  | added (key : Key)
  | other (type : Str)
deriving DecidableEq, Repr

/-- Where a `RequestMirror` filter points to. -/
def RouteFilter.backend : RouteFilter → Option BackendRef
  | .mirror backend => some backend
  -- `buildHTTPMirrorFilter` and `buildGRPCMirrorFilter`, which both use the HTTP port
  | .added key => some ⟨agentServiceName key, some key.ns, some captureAgentHTTPPort⟩
  | .other _ => none

def RouteFilter.mirrorsTo (service : Str) (f : RouteFilter) : Bool :=
  f.backend.any fun b => b.name == service

/-- `hasHTTPMirrorFilter` and `hasGRPCMirrorFilter`. -/
def hasMirrorFilter (filters : List RouteFilter) (service : Str) : Bool :=
  filters.any (·.mirrorsTo service)

/-- `removeHTTPMirrorFilters` and `removeGRPCMirrorFilters`. -/
def removeMirrorFilters (filters : List RouteFilter) (service : Str) : List RouteFilter :=
  filters.filter fun f => !f.mirrorsTo service

/-- An `HTTPRoute` or a `GRPCRoute`: the filters of its rules, and the annotation with
`mirrorFilterAnnotationKey`. -/
structure Route where
  rules : List (List RouteFilter)
  annotation : Option Str
deriving DecidableEq, Repr

/-- The captures for which the route carries a filter. -/
def Route.addedFor (route : Route) : List Key :=
  route.rules.flatten.filterMap fun
    | .added key => some key
    | _ => none

/-- `addHTTPRouteMirror` and `addGRPCRouteMirror`, on the route. -/
def Route.addMirror (route : Route) (key : Key) : Route where
  rules := route.rules.map fun filters =>
    if hasMirrorFilter filters (agentServiceName key) then filters else filters ++ [.added key]
  annotation := some (key.ns ++ lit "/" ++ key.name)

/-- `removeHTTPRouteMirror` and `removeGRPCRouteMirror`, on the route. -/
def Route.removeMirror (route : Route) (key : Key) : Route where
  rules := route.rules.map fun filters => removeMirrorFilters filters (agentServiceName key)
  annotation := none

inductive RouteKind where
  | http
  | grpc
deriving DecidableEq, Repr

structure RouteKey where
  kind : RouteKind
  key : Key
deriving DecidableEq, Repr

/-- The route that a capture refers to, if its kind is supported. -/
def TrafficCapture.target (tc : TrafficCapture) : Option RouteKey :=
  if tc.targetKind = lit "HTTPRoute" then some ⟨.http, tc.key.ns, tc.targetName⟩
  else if tc.targetKind = lit "GRPCRoute" then some ⟨.grpc, tc.key.ns, tc.targetName⟩
  else none

/-! ## Captures -/

inductive TrafficCapturePhase where
  | none
  | pending
  | active
  | completed
  | failed
deriving DecidableEq, Repr

/-- The `Ready` condition: its reason, with what its message tells. -/
inductive CaptureCondition where
  | agentDeployment (readyReplicas desiredReplicas : Int32)
  | captureCompleted
  | storageNotFound (storage : Key)
  | storageNotReady (storage : Key)
deriving DecidableEq, Repr

structure TrafficCaptureStatus where
  phase : TrafficCapturePhase
  startTime : Option Time
  /-- The ready and the desired replicas of `AgentStatus`. -/
  agentStatus : Option (Int32 × Int32)
  ready : Option CaptureCondition
deriving DecidableEq, Repr

/-- A `TrafficCapture` as it is stored. -/
structure CaptureObject where
  spec : TrafficCapture
  /-- `spec.capture.duration`, if there is one that `time.ParseDuration` takes. -/
  duration : Option Duration
  deleting : Bool
  finalizer : Bool
  resourceVersion : Nat
  status : TrafficCaptureStatus
deriving DecidableEq, Repr

namespace CaptureObject

def key (tc : CaptureObject) : Key := tc.spec.key

/-- A capture as it is created. -/
def fresh (tc : CaptureObject) : CaptureObject :=
  { tc with deleting := false, finalizer := false, status := ⟨.none, none, none, none⟩ }

end CaptureObject

instance : Resource Key CaptureObject where
  key := CaptureObject.key
  version := CaptureObject.resourceVersion
  stamp tc n := { tc with resourceVersion := n }
  deleting := CaptureObject.deleting
  finalizer := CaptureObject.finalizer
  key_stamp _ _ := rfl
  version_stamp _ _ := rfl

/-- `duration - time.Since(start)`: the time since then is clamped, and the difference wraps
around. -/
def remaining (duration : Duration) (start now : Time) : Duration :=
  Int.bmod (duration - Time.sub now start) (2 ^ 64)

def captureExpired (tc : CaptureObject) (now : Time) : Bool :=
  match tc.duration, tc.status.startTime with
  | some duration, some start => remaining duration start now ≤ 0
  | _, _ => false

/-! ## The program -/

/-- The objects of an agent, which all have its name. -/
inductive AgentKind where
  | deployment
  | service
  | hpa
deriving DecidableEq, Repr

inductive CaptureOp where
  | get (key : Key)
  | update (tc : CaptureObject)
  | updateStatus (tc : CaptureObject)
  /-- Whether the storage is ready. -/
  | getStorage (key : Key)
  /-- `createOrUpdate`. -/
  | createOrUpdate (kind : AgentKind) (key : Key)
  | deleteAgent (kind : AgentKind) (key : Key)
  /-- The ready and the desired replicas of the Deployment. -/
  | getDeployment (key : Key)
  | addMirror (route : RouteKey) (key : Key)
  | removeMirror (route : RouteKey) (key : Key)
  | now
deriving DecidableEq, Repr

@[reducible] def CaptureOp.Ans : CaptureOp → Type
  | .get _ => Except Unit (Option CaptureObject)
  | .update _ => Option CaptureObject
  | .updateStatus _ => Option CaptureObject
  | .getStorage _ => Except Unit (Option Bool)
  | .createOrUpdate _ _ => Bool
  | .deleteAgent _ _ => Bool
  | .getDeployment _ => Except Unit (Option (Int32 × Int32))
  | .addMirror _ _ => Bool
  | .removeMirror _ _ => Bool
  | .now => Time

abbrev CapturePass := Prog CaptureOp CaptureOp.Ans

/-- The key of the agent's objects. -/
def agentKey (key : Key) : Key := ⟨key.ns, agentServiceName key⟩

/-- `AddMirrorFilter`; it is an error if the kind of the target is not supported. -/
def addMirrorFilter (tc : CaptureObject) : CapturePass Bool :=
  match tc.spec.target with
  | none => .ret false
  | some route => .call (.addMirror route tc.key) .ret

def removeMirrorFilter (tc : CaptureObject) : CapturePass Bool :=
  match tc.spec.target with
  | none => .ret false
  | some route => .call (.removeMirror route tc.key) .ret

/-- `Status().Update`. -/
def writeCaptureStatus (tc : CaptureObject) (result : Result) : CapturePass Result :=
  .call (.updateStatus tc) fun
    | none => .ret .err
    | some _ => .ret result

def setPhaseWithCondition (tc : CaptureObject) (phase : TrafficCapturePhase)
    (c : CaptureCondition) :
    CapturePass Result :=
  writeCaptureStatus { tc with status := { tc.status with phase := phase, ready := some c } }
    (if phase = .pending then .requeue else .done)

/-- `updateStatus`. -/
def updateCaptureStatus (tc : CaptureObject) : CapturePass Result :=
  .call (.getDeployment (agentKey tc.key)) fun
    | .error _ => .ret .err
    | .ok none => .ret .requeue
    | .ok (some (ready, desired)) =>
        let status := { tc.status with
          agentStatus := some (ready, desired), ready := some (.agentDeployment ready desired) }
        if 0 < ready then
          match tc.status.startTime with
          | some _ =>
              writeCaptureStatus { tc with status := { status with phase := .active } } .requeue
          | none => .call .now fun now => writeCaptureStatus
              { tc with status := { status with phase := .active, startTime := some now } } .requeue
        else writeCaptureStatus { tc with status := { status with phase := .pending } } .requeue

/-- Calls that are made one after the other, up to the first that fails. -/
def inOrder : List (CapturePass Bool) → CapturePass Result → CapturePass Result
  | [], rest => rest
  | p :: ps, rest => p.bind fun
    | false => .ret .err
    | true => inOrder ps rest

def completeCapture (tc : CaptureObject) : CapturePass Result :=
  inOrder
    [removeMirrorFilter tc,
      .call (.deleteAgent .hpa (agentKey tc.key)) .ret,
      .call (.deleteAgent .deployment (agentKey tc.key)) .ret,
      .call (.deleteAgent .service (agentKey tc.key)) .ret]
    (setPhaseWithCondition tc .completed .captureCompleted)

/-- The steps 2 to 6 of a reconcile. -/
def provision (tc : CaptureObject) : CapturePass Result :=
  inOrder
    [.call (.createOrUpdate .deployment (agentKey tc.key)) .ret,
      .call (.createOrUpdate .service (agentKey tc.key)) .ret,
      .call (.createOrUpdate .hpa (agentKey tc.key)) .ret,
      addMirrorFilter tc]
    (updateCaptureStatus tc)

/-- A capture that is not being deleted and has its finalizer. -/
def runCapture (tc : CaptureObject) : CapturePass Result :=
  if tc.status.phase = .completed then .ret .done
  else .call .now fun now =>
    if captureExpired tc now then completeCapture tc
    else
      let storage : Key := ⟨tc.key.ns, tc.spec.storageRef⟩
      .call (.getStorage storage) fun
        -- an error of any kind is taken for a storage that does not exist
        | .error _ => setPhaseWithCondition tc .failed (.storageNotFound storage)
        | .ok none => setPhaseWithCondition tc .failed (.storageNotFound storage)
        | .ok (some false) => setPhaseWithCondition tc .pending (.storageNotReady storage)
        | .ok (some true) => provision tc

/-- `reconcileDelete`: **the finalizer goes whether or not the filter could be removed.** -/
def deleteCapture (tc : CaptureObject) : CapturePass Result :=
  (removeMirrorFilter tc).bind fun _ =>
    .call (.update { tc with finalizer := false }) fun
      | none => .ret .err
      | some _ => .ret .done

/-- `Reconcile`. -/
def reconcileCapture (key : Key) : CapturePass Result :=
  .call (.get key) fun
    | .error _ => .ret .err
    | .ok none => .ret .done
    | .ok (some tc) =>
        if tc.deleting then deleteCapture tc
        else if tc.finalizer then runCapture tc
        else .call (.update { tc with finalizer := true }) fun
          | none => .ret .err
          | some tc => runCapture tc

/-! ## The cluster -/

structure Mirrors where
  captures : Store Key CaptureObject
  agents : List (AgentKind × Key)
  routes : AList fun _ : RouteKey => Route
  /-- Whether each storage is ready. -/
  storages : AList fun _ : Key => Bool
  /-- The capture that is being reconciled. -/
  busy : Option Key

/-- What others do to it. -/
inductive MirrorsAct where
  | create (tc : CaptureObject)
  | edit (spec : TrafficCapture) (duration : Option Duration)
  | delete (key : Key)
  | setStorage (key : Key) (ready : Bool)
  | removeStorage (key : Key)
  /-- A user creates or edits a route. -/
  | setRoute (route : RouteKey) (content : Route)
  | removeRoute (route : RouteKey)
  /-- The garbage collector or a user removes an object of an agent. -/
  | removeAgent (kind : AgentKind) (key : Key)
deriving DecidableEq, Repr

namespace Mirrors

def start : Mirrors := ⟨.empty, [], ∅, ∅, none⟩

/-- A route carries the filter of a capture. -/
def carries (s : Mirrors) (route : RouteKey) (key : Key) : Bool :=
  (s.routes.lookup route).any fun r => decide (key ∈ r.addedFor)

/-- Some route does. -/
def mirrored (s : Mirrors) (key : Key) : Bool := s.routes.keys.any fun route => s.carries route key

def act : MirrorsAct → Mirrors → Option Mirrors
  | .create tc, s =>
      match s.captures.find tc.key with
      | some _ => none
      | none => some { s with captures := s.captures.put tc.fresh }
  | .edit spec duration, s =>
      match s.captures.find spec.key with
      | none => none
      | some tc =>
          some { s with captures := s.captures.put { tc with spec := spec, duration := duration } }
  | .delete key, s =>
      match s.captures.find key with
      | none => none
      | some tc => some { s with captures := s.captures.store { tc with deleting := true } }
  | .setStorage key ready, s => some { s with storages := s.storages.insert key ready }
  | .removeStorage key, s => some { s with storages := s.storages.erase key }
  | .setRoute route content, s =>
      -- only a reconcile adds the filter of a capture
      if content.addedFor.all fun key => s.carries route key then
        some { s with routes := s.routes.insert route content }
      else none
  | .removeRoute route, s => some { s with routes := s.routes.erase route }
  | .removeAgent kind key, s => some { s with agents := s.agents.filter (· ≠ (kind, key)) }

/-- The outcome of an operation, as far as it is open. -/
inductive Choice where
  | api (o : Outcome)
  | deployment (o : Outcome) (ready desired : Int32)
  | time (t : Time)
deriving DecidableEq, Repr

/-- A write of a capture: `f` is what becomes of the stored one. -/
def write (o : Outcome) (tc : CaptureObject) (f : CaptureObject → CaptureObject) (s : Mirrors) :
    Option CaptureObject × Mirrors :=
  match s.captures.latest tc with
  | none => (none, s)
  | some cur =>
      o.answer (s.captures.stamped (f cur)) s { s with captures := s.captures.store (f cur) }

/-- A route that does not exist gets no filter, which is an error. -/
def addMirror (o : Outcome) (route : RouteKey) (key : Key) (s : Mirrors) : Bool × Mirrors :=
  match s.routes.lookup route with
  | none => (false, s)
  | some r => o.perform s { s with routes := s.routes.insert route (r.addMirror key) }

/-- A route that does not exist needs no change. -/
def removeMirror (o : Outcome) (route : RouteKey) (key : Key) (s : Mirrors) : Bool × Mirrors :=
  match s.routes.lookup route with
  | none => o.perform s s
  | some r => o.perform s { s with routes := s.routes.insert route (r.removeMirror key) }

def exec : (op : CaptureOp) → Choice → Mirrors → Option (op.Ans × Mirrors)
  | .get key, .api o, s => some (o.read (s.captures.find key), s)
  | .update tc, .api o, s => some (s.write o tc fun cur =>
      { cur with finalizer := tc.finalizer, spec := tc.spec, duration := tc.duration })
  | .updateStatus tc, .api o, s => some (s.write o tc fun cur => { cur with status := tc.status })
  | .getStorage key, .api o, s => some (o.read (s.storages.lookup key), s)
  | .createOrUpdate kind key, .api o, s =>
      some (o.perform s { s with agents := s.agents.insert (kind, key) })
  | .deleteAgent kind key, .api o, s =>
      some (o.perform s { s with agents := s.agents.filter (· ≠ (kind, key)) })
  | .getDeployment key, .deployment o ready desired, s =>
      some (o.read (if (AgentKind.deployment, key) ∈ s.agents then some (ready, desired) else none),
        s)
  | .addMirror route key, .api o, s => some (s.addMirror o route key)
  | .removeMirror route key, .api o, s => some (s.removeMirror o route key)
  | .now, .time t, s => some (t, s)
  | _, _, _ => none

end Mirrors

/-- The cluster with its reconciler. -/
def mirrors : Machine Mirrors CaptureOp CaptureOp.Ans Result Key MirrorsAct Mirrors.Choice where
  exec := Mirrors.exec
  act := Mirrors.act
  prog := reconcileCapture
  enter key s := { s with busy := some key }
  leave _ _ s := { s with busy := none }
  crash s := { s with busy := none }

abbrev MirrorsLabel := Label CaptureOp Key MirrorsAct Mirrors.Choice

abbrev MirrorsConfig := Config Mirrors CaptureOp CaptureOp.Ans Result Key

/-- What the cluster reaches when its steps meet `ok`. -/
abbrev MirrorsReaches (ok : MirrorsLabel → Mirrors → Prop) := mirrors.Reach ok Mirrors.start

end Kapture.Spoke
