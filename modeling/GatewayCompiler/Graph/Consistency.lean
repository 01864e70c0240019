import GatewayCompiler.Fault
import GatewayCompiler.Graph

/-!
# Consistency of a graph

A graph is consistent when each reference in it names a resource of the graph: the route
configuration of a listener, the clusters of a route, the load assignment of a cluster with assigned
members, and the cluster of a load assignment.  The first reference that does not is reported, in
this order of kinds and within a kind in the order of the graph.

The route configuration of a listener is named inside of a message of its own, the connection
manager of a filter chain.  How such a message is read is left open: the check is made with a decoder.
-/

namespace GatewayCompiler.Graph

open Envoy

/-- A resource that refers to a resource the graph does not have. -/
def requireResource (graph : Graph) (kind : ResourceKind) (name : String) (fault : Fault) :
    Except Fault Unit :=
  if graph.contains kind name then .ok () else .error fault

/-- How bytes are read as a connection manager: what they hold, or else why they hold none, if the
decoder has something to say of that. -/
abbrev ManagerDecoder := Wire.Bytes → Except (Option String) ConnectionManager

/-- The decoder for what this library has written; it has nothing to say of other bytes. -/
def ownDecoder : ManagerDecoder := fun bytes =>
  match ConnectionManager.decode? bytes with
  | some manager => .ok manager
  | none => .error none

/-- What a fault tells of a connection manager that cannot be decoded. -/
def undecodable : Option String → String
  | some reason => s!"has an undecodable HTTP connection manager: {reason}"
  | none => "has an undecodable HTTP connection manager"

/-- The connection manager of a chain, if it has one. -/
def managerOf (decode : ManagerDecoder) (chain : FilterChain) :
    Except Fault (Option ConnectionManager) :=
  match chain.managerConfig? with
  | none => .ok none
  | some config =>
    match decode config.value with
    | .ok manager => .ok (some manager)
    | .error reason => .error (.inconsistent "Listener" chain.name (undecodable reason))

/-- The route configuration that a connection manager fetches by name. -/
def discoveredRoutes? (manager : ConnectionManager) : Option String :=
  match manager.routes with
  | some (.discovered discovery) => some discovery.routeConfigName
  | _ => none

def checkChain (decode : ManagerDecoder) (graph : Graph) (listener : Envoy.Listener)
    (chain : FilterChain) : Except Fault Unit := do
  match (← managerOf decode chain).bind discoveredRoutes? with
  | none => return ()
  | some name =>
    graph.requireResource .routeConfiguration name <|
      .inconsistent "Listener" listener.name s!"references missing RouteConfiguration '{name}'"

def checkListener (decode : ManagerDecoder) (graph : Graph) (listener : Envoy.Listener) :
    Except Fault Unit :=
  listener.filterChains.forM (graph.checkChain decode listener)

/-- The clusters that an action names itself. -/
def actionClusters : Option RouteAction → List String
  | some (.forward action) =>
    match action.cluster with
    | some (.cluster name) => [name]
    | some (.weighted clusters _) => clusters.map (·.name)
    | _ => []
  | _ => []

def checkRoute (graph : Graph) (configuration : RouteConfiguration) (route : Route) :
    Except Fault Unit :=
  (actionClusters route.action).forM fun cluster =>
    graph.requireResource .cluster cluster <| .inconsistent "Route" route.name
      s!"in RouteConfiguration '{configuration.name}' references missing Cluster '{cluster}'"

def checkRouteConfiguration (graph : Graph) (configuration : RouteConfiguration) :
    Except Fault Unit :=
  configuration.virtualHosts.forM fun host => host.routes.forM (graph.checkRoute configuration)

/-- The assignment that a cluster fetches: the one of its own name, unless it gives a service name. -/
def assignmentName (cluster : Cluster) : String :=
  match (cluster.endpointDiscovery.map (·.serviceName)).filter (· ≠ "") with
  | some serviceName => serviceName
  | none => cluster.name

def checkCluster (graph : Graph) (cluster : Cluster) : Except Fault Unit :=
  if cluster.discoveryType = some endpointDiscoveryType then
    let name := assignmentName cluster
    graph.requireResource .loadAssignment name <|
      .inconsistent "Cluster" cluster.name s!"uses EDS but has no ClusterLoadAssignment '{name}'"
  else .ok ()

def checkLoadAssignment (graph : Graph) (assignment : LoadAssignment) : Except Fault Unit :=
  graph.requireResource .cluster assignment.clusterName <|
    .inconsistent "ClusterLoadAssignment" assignment.clusterName "has no matching Cluster"

/-- Refuses a graph with a reference to a resource it does not have, or with a connection manager that
this decoder cannot read. -/
def checkConsistencyWith (decode : ManagerDecoder) (graph : Graph) : Except Fault Unit := do
  graph.listeners.items.forM (graph.checkListener decode)
  graph.routeConfigurations.items.forM graph.checkRouteConfiguration
  graph.clusters.items.forM graph.checkCluster
  graph.loadAssignments.items.forM graph.checkLoadAssignment

/-- Refuses a graph that does not hold together, with connection managers that are written here. -/
def checkConsistency (graph : Graph) : Except Fault Unit :=
  graph.checkConsistencyWith ownDecoder

end GatewayCompiler.Graph
