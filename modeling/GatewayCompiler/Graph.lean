import GatewayCompiler.Envoy.Wire.Cluster
import GatewayCompiler.Envoy.Wire.Listener
import GatewayCompiler.Roster

/-!
# The resource graph

The resources of one Gateway, by kind and in the order they were added.  Names are unique within a
kind; of two resources of one kind and name the first stays.
-/

namespace GatewayCompiler

inductive ResourceKind where
  | listener
  | routeConfiguration
  | cluster
  | loadAssignment
  deriving DecidableEq, Repr

namespace ResourceKind

/-- The kinds in the order in which they are presented. -/
def all : List ResourceKind :=
  [.listener, .routeConfiguration, .cluster, .loadAssignment]

def name : ResourceKind → String
  | .listener => "Listener"
  | .routeConfiguration => "RouteConfiguration"
  | .cluster => "Cluster"
  | .loadAssignment => "ClusterLoadAssignment"

def typeUrl : ResourceKind → String
  | .listener => "type.googleapis.com/envoy.config.listener.v3.Listener"
  | .routeConfiguration => "type.googleapis.com/envoy.config.route.v3.RouteConfiguration"
  | .cluster => "type.googleapis.com/envoy.config.cluster.v3.Cluster"
  | .loadAssignment => "type.googleapis.com/envoy.config.endpoint.v3.ClusterLoadAssignment"

/-- The messages of a kind. -/
def Resource : ResourceKind → Type
  | listener => Envoy.Listener
  | routeConfiguration => Envoy.RouteConfiguration
  | cluster => Envoy.Cluster
  | loadAssignment => Envoy.LoadAssignment

/-- The name under which a resource is listed; a load assignment goes by its cluster. -/
def nameOf : (kind : ResourceKind) → kind.Resource → String
  | listener => Envoy.Listener.name
  | routeConfiguration => Envoy.RouteConfiguration.name
  | cluster => Envoy.Cluster.name
  | loadAssignment => Envoy.LoadAssignment.clusterName

end ResourceKind

/-- A resource of any kind. -/
abbrev AnyResource := (kind : ResourceKind) × kind.Resource

/-- A resource as bytes. -/
structure EncodedResource where
  name : String
  kind : ResourceKind
  bytes : Wire.Bytes
  deriving DecidableEq, Repr

structure Graph where
  listeners : Roster Envoy.Listener (·.name)
  routeConfigurations : Roster Envoy.RouteConfiguration (·.name)
  clusters : Roster Envoy.Cluster (·.name)
  loadAssignments : Roster Envoy.LoadAssignment (·.clusterName)

namespace Graph

def empty : Graph := ⟨∅, ∅, ∅, ∅⟩

instance : EmptyCollection Graph := ⟨empty⟩

/-- Adds a resource unless there is one of its kind and name, and says whether it was added. -/
def offer (graph : Graph) : AnyResource → Bool × Graph
  | ⟨.listener, listener⟩ =>
    let (added, listeners) := graph.listeners.offer listener
    (added, { graph with listeners })
  | ⟨.routeConfiguration, configuration⟩ =>
    let (added, routeConfigurations) := graph.routeConfigurations.offer configuration
    (added, { graph with routeConfigurations })
  | ⟨.cluster, cluster⟩ =>
    let (added, clusters) := graph.clusters.offer cluster
    (added, { graph with clusters })
  | ⟨.loadAssignment, assignment⟩ =>
    let (added, loadAssignments) := graph.loadAssignments.offer assignment
    (added, { graph with loadAssignments })

def addListener (graph : Graph) (listener : Envoy.Listener) : Graph :=
  (graph.offer ⟨.listener, listener⟩).2

def addRouteConfiguration (graph : Graph) (configuration : Envoy.RouteConfiguration) : Graph :=
  (graph.offer ⟨.routeConfiguration, configuration⟩).2

def addCluster (graph : Graph) (cluster : Envoy.Cluster) : Graph :=
  (graph.offer ⟨.cluster, cluster⟩).2

def addLoadAssignment (graph : Graph) (assignment : Envoy.LoadAssignment) : Graph :=
  (graph.offer ⟨.loadAssignment, assignment⟩).2

/-- The names of a kind, in the order the resources were added. -/
def names (graph : Graph) : ResourceKind → List String
  | .listener => graph.listeners.names
  | .routeConfiguration => graph.routeConfigurations.names
  | .cluster => graph.clusters.names
  | .loadAssignment => graph.loadAssignments.names

def contains (graph : Graph) : ResourceKind → String → Bool
  | .listener => graph.listeners.contains
  | .routeConfiguration => graph.routeConfigurations.contains
  | .cluster => graph.clusters.contains
  | .loadAssignment => graph.loadAssignments.contains

def size (graph : Graph) : Nat :=
  graph.listeners.size + graph.routeConfigurations.size + graph.clusters.size +
    graph.loadAssignments.size

def isEmpty (graph : Graph) : Bool :=
  graph.size == 0

/-- The resources of a kind as bytes. -/
def encoded (graph : Graph) : ResourceKind → List EncodedResource
  | .listener => graph.listeners.items.map fun r => ⟨r.name, .listener, r.encode⟩
  | .routeConfiguration =>
    graph.routeConfigurations.items.map fun r => ⟨r.name, .routeConfiguration, r.encode⟩
  | .cluster => graph.clusters.items.map fun r => ⟨r.name, .cluster, r.encode⟩
  | .loadAssignment =>
    graph.loadAssignments.items.map fun r => ⟨r.clusterName, .loadAssignment, r.encode⟩

/-- The resources of every kind as bytes, in the order of the kinds. -/
def resourceMap (graph : Graph) : List (ResourceKind × List EncodedResource) :=
  ResourceKind.all.map fun kind => (kind, graph.encoded kind)

end Graph

end GatewayCompiler
