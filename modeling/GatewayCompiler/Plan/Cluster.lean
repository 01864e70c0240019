import GatewayCompiler.Envoy.Cluster
import GatewayCompiler.Settings

/-!
# Plans of clusters

A plan says what a cluster or load assignment is to be, and becomes the Envoy message unless it does
not make sense: a cluster needs a name and a timeout in range, an assignment needs endpoints, each
with an address and a port.
-/

namespace GatewayCompiler

structure EndpointPlan where
  address : String
  port : UInt32
  deriving DecidableEq, Repr

/-- How the proxy learns the members of a cluster. -/
inductive Discovery where
  /-- From the load assignment of the cluster. -/
  | assigned
  /-- By resolving the addresses of these endpoints. -/
  | resolved (endpoints : List EndpointPlan)
  deriving DecidableEq, Repr

structure ClusterPlan where
  name : String
  discovery : Discovery
  connectTimeoutSeconds : UInt64
  deriving DecidableEq, Repr

structure AssignmentPlan where
  clusterName : String
  endpoints : List EndpointPlan
  deriving DecidableEq, Repr

/-- A resource whose plan has these problems. -/
def failedValidation (resourceKind name problems : String) : Fault :=
  .inconsistent resourceKind name s!"failed validation: {problems}"

namespace EndpointPlan

/-- The problems of the endpoint at a place in its list, a line for each. -/
def problems (index : Nat) (endpoint : EndpointPlan) : List String :=
  (if endpoint.address.isEmpty then
    [s!"endpoints[{index}].address: Endpoint address cannot be empty"] else []) ++
  (if 1 ≤ endpoint.port && endpoint.port ≤ 65535 then [] else
    [s!"endpoints[{index}].port: Port must be between 1 and 65535"])

/-- The problems of all endpoints.  What is said of one endpoint follows what is said of the endpoint
before it without a mark between them. -/
def allProblems (endpoints : List EndpointPlan) : String :=
  String.join (endpoints.mapIdx fun index endpoint => "\n".intercalate (endpoint.problems index))

def toEndpoint (endpoint : EndpointPlan) : Envoy.LbEndpoint :=
  ⟨some ⟨endpoint.address, some endpoint.port⟩, some 1⟩

end EndpointPlan

namespace AssignmentPlan

def problems (plan : AssignmentPlan) : String :=
  if plan.endpoints.isEmpty then "endpoints: At least one endpoint is required"
  else EndpointPlan.allProblems plan.endpoints

def validate (plan : AssignmentPlan) : Except Fault Unit :=
  if plan.problems.isEmpty then .ok ()
  else .error (failedValidation "ClusterLoadAssignment" plan.clusterName plan.problems)

/-- All endpoints are in one locality and have the same weight. -/
def toAssignment (plan : AssignmentPlan) : Except Fault Envoy.LoadAssignment := do
  plan.validate
  return ⟨plan.clusterName, [plan.endpoints.map EndpointPlan.toEndpoint]⟩

end AssignmentPlan

namespace ClusterPlan

def problems (plan : ClusterPlan) : List String :=
  (if isValidTimeout plan.connectTimeoutSeconds then [] else
    ["connect_timeout_seconds: Connect timeout must be between 1 and 300 seconds"]) ++
  (if plan.name.isEmpty then ["name: Cluster name cannot be empty"] else [])

def validate (plan : ClusterPlan) : Except Fault Unit :=
  if plan.problems.isEmpty then .ok ()
  else .error (failedValidation "Cluster" plan.name ("\n".intercalate plan.problems))

/-- A cluster with assigned members fetches the assignment of its own name; one with resolved members
carries its assignment. -/
def toCluster (plan : ClusterPlan) : Except Fault Envoy.Cluster := do
  plan.validate
  let cluster : Envoy.Cluster := {
    name := plan.name
    discoveryType := none
    endpointDiscovery := none
    connectTimeoutSeconds := some plan.connectTimeoutSeconds
    lbPolicy := 0
    loadAssignment := none }
  match plan.discovery with
  | .assigned =>
    return { cluster with
      discoveryType := some Envoy.endpointDiscoveryType
      endpointDiscovery := some ⟨plan.name, some Envoy.aggregatedSource⟩ }
  | .resolved endpoints =>
    let assignment ← AssignmentPlan.toAssignment ⟨plan.name, endpoints⟩
    return { cluster with
      discoveryType := some Envoy.strictDnsType
      loadAssignment := some assignment }

end ClusterPlan

end GatewayCompiler
