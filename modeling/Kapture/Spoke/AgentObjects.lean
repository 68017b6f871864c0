import Kapture.Spoke.Mirror

/-!
# The objects of a capture agent

A mirror filter names a Service and one of its ports. The Service passes what comes there on to a
port of the agent's pods, which it knows by name or by number, and on that port one of the agent's
servers listens. The numbers and the names stand in four places: in the filter, in `BuildService`,
in `BuildDeployment`, and in the flags of the agent.

They fit, but **the filter of a `GRPCRoute` has the port of the HTTP sink**.
-/

namespace Kapture.Spoke

open Go Storage Hub

structure AgentScalingSpec where
  replicas : Option Int32
  minReplicas : Option Int32
  maxReplicas : Option Int32
  targetCPU : Option Int32
deriving DecidableEq, Repr

structure ContainerPort where
  name : Str
  containerPort : Nat
deriving DecidableEq, Repr

/-- A Deployment, with the labels and the ports of its pods. -/
structure Deployment where
  key : Key
  replicas : Int32
  labels : List (Str × Str)
  ports : List ContainerPort
deriving DecidableEq, Repr

/-- `intstr.IntOrString`. -/
inductive IntOrString where
  | int (n : Nat)
  | string (s : Str)
deriving DecidableEq, Repr

structure ServicePort where
  name : Str
  port : Nat
  targetPort : IntOrString
deriving DecidableEq, Repr

structure Service where
  key : Key
  selector : List (Str × Str)
  ports : List ServicePort
deriving DecidableEq, Repr

structure HorizontalPodAutoscaler where
  key : Key
  scaleTargetRef : Str
  minReplicas : Int32
  maxReplicas : Int32
  targetCPU : Int32
deriving DecidableEq, Repr

def agentLabels (key : Key) : List (Str × Str) :=
  [(lit "app.kubernetes.io/name", lit "capture-agent"),
    (lit "app.kubernetes.io/instance", key.name),
    (lit "app.kubernetes.io/component", lit "capture-agent"),
    (lit "app.kubernetes.io/managed-by", lit "kapture")]

/-- `BuildDeployment`, without the image, the resources and the environment of the container. -/
def buildDeployment (key : Key) (agent : Option AgentScalingSpec) : Deployment where
  key := agentKey key
  replicas := (agent.bind (·.replicas)).getD 1
  labels := agentLabels key
  ports := [⟨lit "http", 8080⟩, ⟨lit "grpc", 9090⟩]

def buildService (key : Key) : Service where
  key := agentKey key
  selector := agentLabels key
  ports :=
    [⟨lit "http", 8080, .string (lit "http")⟩, ⟨lit "grpc", 9090, .string (lit "grpc")⟩,
      ⟨lit "health", 8081, .int 8081⟩]

def buildHPA (key : Key) (agent : Option AgentScalingSpec) : HorizontalPodAutoscaler where
  key := agentKey key
  scaleTargetRef := agentServiceName key
  minReplicas := (agent.bind (·.minReplicas)).getD 1
  maxReplicas := (agent.bind (·.maxReplicas)).getD 10
  targetCPU := (agent.bind (·.targetCPU)).getD 70

/-! ## Where a filter leads -/

def buildHTTPMirrorFilter (ns serviceName : Str) : BackendRef :=
  ⟨serviceName, some ns, some captureAgentHTTPPort⟩

def buildGRPCMirrorFilter (ns serviceName : Str) : BackendRef :=
  ⟨serviceName, some ns, some captureAgentHTTPPort⟩

/-- The filter that `AddMirrorFilter` adds to a route of this kind. -/
def buildMirrorFilter : RouteKind → Str → Str → BackendRef
  | .http => buildHTTPMirrorFilter
  | .grpc => buildGRPCMirrorFilter

/-- The sink that is there for the requests of a route of this kind. -/
def RouteKind.sink : RouteKind → Agent.Sink
  | .http => .http
  | .grpc => .grpc

/-- A container's port, by its name or number. -/
def Deployment.portOf (d : Deployment) : IntOrString → Option Nat
  | .int n => some n
  | .string s => (d.ports.find? (·.name == s)).map (·.containerPort)

/-- The port of the pods of `d` to which the Service passes on what comes to one of its ports. -/
def Service.forward (svc : Service) (d : Deployment) (port : Nat) : Option Nat :=
  if svc.key.ns = d.key.ns ∧ ∀ l ∈ svc.selector, l ∈ d.labels then
    (svc.ports.find? (·.port == port)).bind fun p => d.portOf p.targetPort
  else none

/-- The same for what a filter mirrors. -/
def BackendRef.resolve (b : BackendRef) (svc : Service) (d : Deployment) : Option Nat :=
  if b.name = svc.key.name ∧ b.ns = some svc.key.ns then b.port.bind (svc.forward d) else none

/-- The Service selects the pods of the Deployment. -/
theorem forward_buildService (key : Key) (agent : Option AgentScalingSpec) (port : Nat) :
    (buildService key).forward (buildDeployment key agent) port =
      ((buildService key).ports.find? (·.port == port)).bind fun p =>
        (buildDeployment key agent).portOf p.targetPort :=
  if_pos ⟨rfl, fun _ h => h⟩

/-- **Both filters lead to the port of the HTTP sink.** -/
theorem resolve_buildMirrorFilter (key : Key) (agent : Option AgentScalingSpec) (kind : RouteKind) :
    (buildMirrorFilter kind key.ns (agentServiceName key)).resolve (buildService key)
      (buildDeployment key agent) = some 8080 := by
  have hresolve : ∀ b : BackendRef, b
      = ⟨agentServiceName key, some key.ns, some captureAgentHTTPPort⟩ →
      b.resolve (buildService key) (buildDeployment key agent) = some 8080 := by
    rintro b rfl
    rw [BackendRef.resolve, if_pos ⟨rfl, rfl⟩, Option.bind_some, forward_buildService]
    rfl
  cases kind with
  | http => exact hresolve _ rfl
  | grpc => exact hresolve _ rfl

/-- **What is mirrored comes to the sink of its protocol if and only if the target is an
`HTTPRoute`.** -/
theorem mirrored_to_own_sink_iff (tc : TrafficCapture) (agent : Option AgentScalingSpec)
    (route : RouteKey) (h : tc.target = some route) :
    (((buildMirrorFilter route.kind tc.key.ns (agentServiceName tc.key)).resolve
      (buildService tc.key)
      (buildDeployment tc.key agent)).bind fun port => Agent.defaultServer.sinkOn port) =
        some route.kind.sink ↔ tc.targetKind = lit "HTTPRoute" := by
  have hsink : ((some 8080).bind fun port : Nat => Agent.defaultServer.sinkOn port) = some .http :=
    rfl
  rw [resolve_buildMirrorFilter, hsink]
  unfold TrafficCapture.target at h
  split at h
  · rename_i hkind
    cases h
    exact iff_of_true rfl hkind
  · rename_i hkind
    split at h
    · cases h
      exact iff_of_false nofun hkind
    · cases h

/-- A capture of the calls of a `GRPCRoute`. -/
def ordersCapture (kind : Str) : TrafficCapture where
  key := ⟨lit "shop", lit "orders"⟩
  targetKind := kind
  targetName := lit "orders"
  storageRef := lit "store"
  capture := ⟨none, none, none, [], none⟩
  filters := none

theorem orders_to_http_sink :
    (ordersCapture (lit "HTTPRoute")).target = some ⟨.http, lit "shop", lit "orders"⟩ ∧
    ((((buildMirrorFilter .http (lit "shop") (agentServiceName ⟨lit "shop", lit "orders"⟩)).resolve
      (buildService ⟨lit "shop", lit "orders"⟩)
        (buildDeployment ⟨lit "shop", lit "orders"⟩ none)).bind
        fun port => Agent.defaultServer.sinkOn port) = some .http
          ↔ lit "HTTPRoute" = lit "HTTPRoute") :=
  ⟨rfl, mirrored_to_own_sink_iff (ordersCapture (lit "HTTPRoute")) none ⟨.http, lit "shop",
    lit "orders"⟩ rfl⟩

/-- **The calls of a `GRPCRoute` are mirrored to the HTTP sink.** -/
theorem orders_miss_grpc_sink :
    (ordersCapture (lit "GRPCRoute")).target = some ⟨.grpc, lit "shop", lit "orders"⟩ ∧
    (((buildMirrorFilter .grpc (lit "shop") (agentServiceName ⟨lit "shop", lit "orders"⟩)).resolve
      (buildService ⟨lit "shop", lit "orders"⟩)
        (buildDeployment ⟨lit "shop", lit "orders"⟩ none)).bind
        fun port => Agent.defaultServer.sinkOn port) = some .http ∧ RouteKind.grpc.sink ≠ .http :=
  ⟨rfl, rfl, by decide⟩

end Kapture.Spoke
