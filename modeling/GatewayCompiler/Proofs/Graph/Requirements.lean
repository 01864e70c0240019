import GatewayCompiler.Proofs.Gateway.Consistency
import GatewayCompiler.Proofs.Graph.Contents

/-!
# What a graph requires

Every place of a graph that refers to something requires it to be there.  The check of a graph
passes exactly when all that is required is there, and otherwise reports the first requirement that
is not met, whatever resources the graph was filled with and however connection managers are decoded.
-/

namespace GatewayCompiler

open Envoy

/-- What a place of a graph can need. -/
inductive Need where
  /-- Bytes that can be decoded as a connection manager. -/
  | manager (config : Any)
  /-- A resource of this kind and name. -/
  | resource (kind : ResourceKind) (name : String)

/-- What a place of a graph needs, and how a fault speaks of the place. -/
structure Requirement where
  need : Need
  resourceKind : String
  name : String
  detail : String

def Requirement.fault (requirement : Requirement) : Fault :=
  .inconsistent requirement.resourceKind requirement.name requirement.detail

/-- A resource of this kind and name was offered. -/
def Offers (offered : List AnyResource) (kind : ResourceKind) (name : String) : Prop :=
  ∃ resource, (⟨kind, resource⟩ : AnyResource) ∈ offered ∧ kind.nameOf resource = name

/-- What is needed can be had from the resources that were offered. -/
def Need.IsMet (decode : Graph.ManagerDecoder) (offered : List AnyResource) : Need → Prop
  | .manager config => ∃ manager, decode config.value = .ok manager
  | .resource kind name => Offers offered kind name

/-- The connection manager of a chain is its first filter of that name that has a configuration. -/
def Envoy.FilterChain.IsManagedBy (chain : FilterChain) (config : Any) : Prop :=
  ∃ before filter after, chain.filters = before ++ filter :: after ∧
    filter.name = connectionManagerName ∧ filter.config = some config ∧
    ∀ earlier ∈ before, earlier.name = connectionManagerName → earlier.config = none

/-- A chain needs the routes that its connection manager fetches, or a manager that can be decoded in
place of one that cannot. -/
def Envoy.FilterChain.requirements (decode : Graph.ManagerDecoder) (listener : String)
    (chain : FilterChain) : List Requirement :=
  match chain.managerConfig? with
  | none => []
  | some config =>
    match decode config.value with
    | .error reason => [⟨.manager config, "Listener", chain.name, Graph.undecodable reason⟩]
    | .ok manager => (Graph.discoveredRoutes? manager).toList.map fun name =>
        ⟨.resource .routeConfiguration name, "Listener", listener,
          s!"references missing RouteConfiguration '{name}'"⟩

def Envoy.Route.requirements (configuration : String) (route : Route) : List Requirement :=
  (Graph.actionClusters route.action).map fun cluster =>
    ⟨.resource .cluster cluster, "Route", route.name,
      s!"in RouteConfiguration '{configuration}' references missing Cluster '{cluster}'"⟩

def Envoy.Cluster.requirements (cluster : Cluster) : List Requirement :=
  if cluster.discoveryType = some endpointDiscoveryType then
    let name := Graph.assignmentName cluster
    [⟨.resource .loadAssignment name, "Cluster", cluster.name,
      s!"uses EDS but has no ClusterLoadAssignment '{name}'"⟩]
  else []

def Envoy.LoadAssignment.requirement (assignment : LoadAssignment) : Requirement :=
  ⟨.resource .cluster assignment.clusterName, "ClusterLoadAssignment", assignment.clusterName,
    "has no matching Cluster"⟩

namespace Graph

/-- What the places of a graph need: listeners first, then routes, clusters and load assignments,
each kind in its order. -/
def requirements (decode : ManagerDecoder) (graph : Graph) : List Requirement :=
  (graph.listeners.items.flatMap fun listener =>
    listener.filterChains.flatMap (·.requirements decode listener.name)) ++
  (graph.routeConfigurations.items.flatMap fun configuration =>
    configuration.virtualHosts.flatMap fun host =>
      host.routes.flatMap (·.requirements configuration.name)) ++
  graph.clusters.items.flatMap (·.requirements) ++
  graph.loadAssignments.items.map (·.requirement)

/-- Refuses a requirement that is not met. -/
def require (decode : ManagerDecoder) (graph : Graph) (requirement : Requirement) :
    Except Fault Unit :=
  match requirement.need with
  | .manager config =>
    match decode config.value with
    | .ok _ => .ok ()
    | .error _ => .error requirement.fault
  | .resource kind name => graph.requireResource kind name requirement.fault

/-- What it means that every connection manager of a graph is decoded and every reference leads to a
resource that was offered. -/
structure RefersWithin (decode : ManagerDecoder) (graph : Graph) (offered : List AnyResource) :
    Prop where
  listeners : ∀ listener ∈ graph.listeners.items, ∀ chain ∈ listener.filterChains, ∀ config,
    chain.IsManagedBy config → ∃ manager, decode config.value = .ok manager ∧
      ∀ discovery, manager.routes = some (.discovered discovery) →
        Offers offered .routeConfiguration discovery.routeConfigName
  routes : ∀ configuration ∈ graph.routeConfigurations.items,
    ∀ host ∈ configuration.virtualHosts, ∀ route ∈ host.routes,
      ∀ action, route.action = some (.forward action) →
        (∀ name, action.cluster = some (.cluster name) → Offers offered .cluster name) ∧
        ∀ clusters total, action.cluster = some (.weighted clusters total) →
          ∀ entry ∈ clusters, Offers offered .cluster entry.name
  clusters : ∀ cluster ∈ graph.clusters.items,
    cluster.discoveryType = some endpointDiscoveryType →
      (∀ discovery, cluster.endpointDiscovery = some discovery → discovery.serviceName ≠ "" →
        Offers offered .loadAssignment discovery.serviceName) ∧
      ((∀ discovery, cluster.endpointDiscovery = some discovery → discovery.serviceName = "") →
        Offers offered .loadAssignment cluster.name)
  assignments : ∀ assignment ∈ graph.loadAssignments.items,
    Offers offered .cluster assignment.clusterName

section Traversal

variable (decode : ManagerDecoder) (graph : Graph)

theorem checkChain_eq_forM (listener : Envoy.Listener) (chain : FilterChain) :
    graph.checkChain decode listener chain =
      (chain.requirements decode listener.name).forM (graph.require decode) := by
  rw [checkChain, managerOf, FilterChain.requirements]
  cases chain.managerConfig? with
  | none => rfl
  | some config =>
      dsimp only
      cases hdecode : decode config.value with
      | error reason =>
          show _ = graph.require decode _ >>= fun _ => pure ()
          simp only [require, hdecode]
          rfl
      | ok manager =>
          simp only [ok_bind, Option.bind_some]
          cases discoveredRoutes? manager with
          | none => rfl
          | some name => exact (bind_pure _).symm

theorem checkRoute_eq_forM (configuration : RouteConfiguration) (route : Route) :
    graph.checkRoute configuration route =
      (route.requirements configuration.name).forM (graph.require decode) := by
  rw [Route.requirements, forM_map]
  rfl

theorem checkCluster_eq_forM (cluster : Cluster) :
    graph.checkCluster cluster = cluster.requirements.forM (graph.require decode) := by
  rw [checkCluster, Cluster.requirements]
  split
  · exact (bind_pure _).symm
  · rfl

/-- The check of a graph goes through what its places need. -/
theorem checkConsistencyWith_eq_forM :
    graph.checkConsistencyWith decode =
      (graph.requirements decode).forM (graph.require decode) := by
  simp only [checkConsistencyWith, requirements, forM_append, forM_flatMap, ← checkChain_eq_forM,
    ← checkRoute_eq_forM, ← checkCluster_eq_forM, forM_map, bind_assoc]
  rfl

end Traversal

section Filled

variable {decode : ManagerDecoder} {offered : List AnyResource}

theorem require_of_isMet {requirement : Requirement} (h : requirement.need.IsMet decode offered) :
    (ofResources offered).require decode requirement = .ok () := by
  obtain ⟨_ | ⟨kind, name⟩, _, _, _⟩ := requirement
  · obtain ⟨manager, hdecode⟩ := h
    simp only [require, hdecode]
  · exact requireResource_eq_ok_iff.2 (mem_names_ofResources.2 h)

theorem require_of_not_isMet {requirement : Requirement}
    (h : ¬requirement.need.IsMet decode offered) :
    (ofResources offered).require decode requirement = .error requirement.fault := by
  obtain ⟨config | ⟨kind, name⟩, _, _, _⟩ := requirement
  · cases hdecode : decode config.value with
    | ok manager => exact absurd ⟨manager, hdecode⟩ h
    | error reason => simp only [require, hdecode]
  · have hcontains : (ofResources offered).contains kind name ≠ true := by
      rw [Ne, contains_iff, mem_names_ofResources]
      exact h
    exact if_neg hcontains

theorem require_eq_ok_iff {requirement : Requirement} :
    (ofResources offered).require decode requirement = .ok () ↔
      requirement.need.IsMet decode offered := by
  by_cases h : requirement.need.IsMet decode offered
  · simp [require_of_isMet h, h]
  · simp [require_of_not_isMet h, h]

theorem require_eq_error_iff {requirement : Requirement} {fault : Fault} :
    (ofResources offered).require decode requirement = .error fault ↔
      ¬requirement.need.IsMet decode offered ∧ requirement.fault = fault := by
  by_cases h : requirement.need.IsMet decode offered
  · simp [require_of_isMet h, h]
  · simp [require_of_not_isMet h, h]

theorem managerConfig?_eq_some_iff {chain : FilterChain} {config : Any} :
    chain.managerConfig? = some config ↔ chain.IsManagedBy config := by
  rw [FilterChain.managerConfig?, List.findSome?_eq_some_iff]
  simp [FilterChain.IsManagedBy, and_assoc]

theorem discoveredRoutes?_eq_some_iff {manager : ConnectionManager} {name : String} :
    discoveredRoutes? manager = some name ↔ ∃ discovery,
      manager.routes = some (.discovered discovery) ∧ discovery.routeConfigName = name := by
  rw [discoveredRoutes?]
  split
  · simp_all
  · simp_all

theorem forall_requirements_chain_iff {listener : String} {chain : FilterChain} :
    (∀ requirement ∈ chain.requirements decode listener,
        requirement.need.IsMet decode offered) ↔
      ∀ config, chain.IsManagedBy config →
        ∃ manager, decode config.value = .ok manager ∧
          ∀ discovery, manager.routes = some (.discovered discovery) →
            Offers offered .routeConfiguration discovery.routeConfigName := by
  simp only [← managerConfig?_eq_some_iff, FilterChain.requirements]
  cases chain.managerConfig? with
  | none => simp
  | some config =>
      cases hdecode : decode config.value with
      | error reason => simp [Need.IsMet, hdecode]
      | ok manager => simp [Need.IsMet, hdecode, discoveredRoutes?_eq_some_iff]

theorem forall_requirements_route_iff {configuration : String} {route : Route} :
    (∀ requirement ∈ route.requirements configuration,
        requirement.need.IsMet decode offered) ↔
      ∀ action, route.action = some (.forward action) →
        (∀ name, action.cluster = some (.cluster name) → Offers offered .cluster name) ∧
        ∀ clusters total, action.cluster = some (.weighted clusters total) →
          ∀ entry ∈ clusters, Offers offered .cluster entry.name := by
  simp only [Route.requirements, List.forall_mem_map, Need.IsMet]
  cases route.action with
  | none => simp [actionClusters]
  | some routeAction =>
      cases routeAction with
      | redirect _ => simp [actionClusters]
      | respond _ => simp [actionClusters]
      | forward action =>
          cases hcluster : action.cluster with
          | none => simp [actionClusters, hcluster]
          | some specifier => cases specifier <;> simp [actionClusters, hcluster]

theorem forall_requirements_cluster_iff {cluster : Cluster} :
    (∀ requirement ∈ cluster.requirements, requirement.need.IsMet decode offered) ↔
      (cluster.discoveryType = some endpointDiscoveryType →
        (∀ discovery, cluster.endpointDiscovery = some discovery → discovery.serviceName ≠ "" →
          Offers offered .loadAssignment discovery.serviceName) ∧
        ((∀ discovery, cluster.endpointDiscovery = some discovery → discovery.serviceName = "") →
          Offers offered .loadAssignment cluster.name)) := by
  by_cases hfetched : cluster.discoveryType = some endpointDiscoveryType
  · rw [Cluster.requirements, if_pos hfetched, List.forall_mem_singleton]
    cases hdiscovery : cluster.endpointDiscovery with
    | none => simp [Need.IsMet, assignmentName, hdiscovery, hfetched]
    | some discovery =>
        by_cases hname : discovery.serviceName = "" <;>
          simp [Need.IsMet, assignmentName, hdiscovery, hfetched, hname, Option.filter_some]
  · simp [Cluster.requirements, hfetched]

/-- All that a graph requires is there exactly when every reference leads somewhere. -/
theorem forall_requirements_iff {graph : Graph} :
    (∀ requirement ∈ graph.requirements decode, requirement.need.IsMet decode offered) ↔
      graph.RefersWithin decode offered := by
  simp only [requirements, List.forall_mem_append, List.forall_mem_flatMap, List.forall_mem_map,
    forall_requirements_chain_iff, forall_requirements_route_iff, forall_requirements_cluster_iff]
  constructor
  · rintro ⟨⟨⟨hlisteners, hroutes⟩, hclusters⟩, hassignments⟩
    exact ⟨hlisteners, hroutes, hclusters, hassignments⟩
  · rintro ⟨hlisteners, hroutes, hclusters, hassignments⟩
    exact ⟨⟨⟨hlisteners, hroutes⟩, hclusters⟩, hassignments⟩

end Filled

/-- However a graph was filled and with whatever decoder, its check passes exactly when every
connection manager is decoded and every reference leads to a resource that was offered; otherwise it
gives the fault of the first requirement that is not met. -/
theorem checkConsistencyWith_ofResources (decode : ManagerDecoder) (offered : List AnyResource) :
    ((ofResources offered).checkConsistencyWith decode = .ok () ↔
      (ofResources offered).RefersWithin decode offered) ∧
    ∀ fault, (ofResources offered).checkConsistencyWith decode = .error fault ↔
      ∃ before requirement after,
        (ofResources offered).requirements decode = before ++ requirement :: after ∧
        (∀ earlier ∈ before, earlier.need.IsMet decode offered) ∧
        ¬requirement.need.IsMet decode offered ∧
        fault = .inconsistent requirement.resourceKind requirement.name requirement.detail := by
  rw [checkConsistencyWith_eq_forM]
  constructor
  · simp only [forM_eq_ok_iff, require_eq_ok_iff, forall_requirements_iff]
  · intro fault
    simp only [forM_eq_error_iff, require_eq_ok_iff, require_eq_error_iff, Requirement.fault,
      @eq_comm _ fault]

end Graph

end GatewayCompiler
