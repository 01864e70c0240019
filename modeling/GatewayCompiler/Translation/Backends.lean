import GatewayCompiler.Naming
import GatewayCompiler.Roster
import GatewayCompiler.Snapshot
import GatewayCompiler.Translation.EndpointPolicy

/-!
# Backends

Each Service port that a route sends traffic to gets one cluster and one load assignment.  They are
built when the port is met first and kept under the name of the cluster; when that name is met again
nothing is built.
-/

namespace GatewayCompiler

structure BackendCluster where
  cluster : Envoy.Cluster
  assignment : Envoy.LoadAssignment
  deriving DecidableEq, Repr

/-- A port of a Service, as a backend names it. -/
structure BackendTarget where
  service : Service
  port : ServicePort
  deriving DecidableEq, Repr

def BackendTarget.clusterName (target : BackendTarget) : String :=
  Naming.cluster target.service.key target.port.port

/-- The clusters built so far. -/
abbrev BackendClusters := Roster BackendCluster (·.cluster.name)

/-- Steps that may build clusters.  A step that fails builds none. -/
abbrev Building := StateT BackendClusters (Except Fault)

/-- What the clusters of a translation have in common. -/
structure ClusterRules where
  policy : EndpointPolicy
  connectTimeoutSeconds : UInt64
  deriving DecidableEq, Repr

namespace ClusterRules

/-- The cluster and assignment of a Service port under a name. -/
def build (rules : ClusterRules) (name : String) (service : Service) (port : ServicePort) :
    Except Fault BackendCluster := do
  let endpoint ← rules.policy.endpoint service port
  let assignment ← AssignmentPlan.toAssignment ⟨name, [endpoint]⟩
  let cluster ← ClusterPlan.toCluster
    ⟨name, rules.policy.discovery [endpoint], rules.connectTimeoutSeconds⟩
  return ⟨cluster, assignment⟩

/-- The name of the cluster of a Service port, which is built if there is none of that name. -/
def clusterFor (rules : ClusterRules) (service : Service) (port : ServicePort) : Building String := do
  let name := BackendTarget.clusterName ⟨service, port⟩
  let built ← get
  if built.contains name then
    return name
  let backend ← rules.build name service port
  set (built.add backend)
  return name

end ClusterRules

namespace BackendRef

/-- The port of the Service that a backend names. -/
def portOf (backend : BackendRef) (route : ObjectRef) (service : Service) (field : String) :
    Except Fault ServicePort := do
  let some port := backend.port
    | throw (.invalid route s!"{field}.port" "port is required for Service backends")
  let found :=
    match port with
    | .number number => service.portByNumber? number
    | .name name => service.portByName? name
  let some servicePort := found
    | throw (.invalid route s!"{field}.port"
        s!"Service {service.key.display} has no port {port.display}")
  return servicePort

/-- The Service and port that a backend of the route names.  The reference is authorized before
anything of its target is looked at. -/
def resolve (backend : BackendRef) (snapshot : Snapshot) (route : ObjectRef) (field : String) :
    Except Fault BackendTarget := do
  if backend.groupKind != GroupKind.service then
    throw (.unsupported route field
      s!"backend kind {backend.groupKind.display} is not supported, only core Service")
  if let filter :: _ := backend.filters then
    throw (.unsupported route s!"{field}.filters[0]"
      s!"backend-level filter {filter.kind} is not supported")
  let target : ObjectKey := ⟨backend.ns.getD route.ns, backend.name⟩
  snapshot.ensureAuthorized route GroupKind.httpRoute GroupKind.service target field
  let some service := snapshot.service? target
    | throw (.notFound ⟨"Service", target.ns, target.name⟩ (some s!"{route.display} {field}"))
  let port ← backend.portOf route service field
  return ⟨service, port⟩

/-- The name of the cluster that a backend of the route sends traffic to. -/
def cluster (backend : BackendRef) (snapshot : Snapshot) (rules : ClusterRules) (route : ObjectRef)
    (field : String) : Building String := do
  let target ← backend.resolve snapshot route field
  rules.clusterFor target.service target.port

end BackendRef

end GatewayCompiler
