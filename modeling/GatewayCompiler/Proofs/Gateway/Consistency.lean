import GatewayCompiler.Graph.Consistency
import GatewayCompiler.Proofs.Outcome

/-!
# Consistent graphs

The check of a graph reads bytes and reports the first reference that leads nowhere.  Whether it
passes is told without either: every reference names a resource of the graph.
-/

namespace GatewayCompiler

namespace Graph

open Envoy

/-- What the check of a graph asks for. -/
structure IsConsistent (graph : Graph) : Prop where
  chains : ∀ listener ∈ graph.listeners.items, ∀ chain ∈ listener.filterChains,
    ∃ manager, managerOf ownDecoder chain = .ok manager ∧
      ∀ name ∈ manager.bind discoveredRoutes?, name ∈ graph.routeConfigurations.names
  routes : ∀ configuration ∈ graph.routeConfigurations.items,
    ∀ host ∈ configuration.virtualHosts, ∀ route ∈ host.routes,
      ∀ name ∈ actionClusters route.action, name ∈ graph.clusters.names
  clusters : ∀ cluster ∈ graph.clusters.items,
    cluster.discoveryType = some endpointDiscoveryType →
      assignmentName cluster ∈ graph.loadAssignments.names
  assignments : ∀ assignment ∈ graph.loadAssignments.items,
    assignment.clusterName ∈ graph.clusters.names

variable {graph : Graph}

theorem contains_iff {kind : ResourceKind} {name : String} :
    graph.contains kind name = true ↔ name ∈ graph.names kind := by
  cases kind <;> exact Roster.contains_iff

theorem requireResource_eq_ok_iff {kind : ResourceKind} {name : String} {fault : Fault} :
    graph.requireResource kind name fault = .ok () ↔ name ∈ graph.names kind := by
  rw [requireResource, ← contains_iff]
  by_cases hcontains : graph.contains kind name = true <;> simp [hcontains]

theorem checkChain_eq_ok_iff {listener : Envoy.Listener} {chain : FilterChain} :
    graph.checkChain ownDecoder listener chain = .ok () ↔
      ∃ manager, managerOf ownDecoder chain = .ok manager ∧
        ∀ name ∈ manager.bind discoveredRoutes?, name ∈ graph.routeConfigurations.names := by
  rw [checkChain, bind_eq_ok]
  apply exists_congr
  intro manager
  apply and_congr_right
  intro _
  cases manager.bind discoveredRoutes? with
  | none => simp
  | some name => simp [requireResource_eq_ok_iff, names]

theorem checkCluster_eq_ok_iff {cluster : Cluster} :
    graph.checkCluster cluster = .ok () ↔
      (cluster.discoveryType = some endpointDiscoveryType →
        assignmentName cluster ∈ graph.loadAssignments.names) := by
  rw [checkCluster]
  by_cases hfetched : cluster.discoveryType = some endpointDiscoveryType
  · rw [if_pos hfetched]
    simp [requireResource_eq_ok_iff, names, hfetched]
  · simp [hfetched]

theorem checkConsistency_eq_ok_iff : graph.checkConsistency = .ok () ↔ graph.IsConsistent := by
  have hall : graph.checkConsistency = .ok () ↔
      graph.listeners.items.forM (graph.checkListener ownDecoder) = .ok () ∧
      graph.routeConfigurations.items.forM graph.checkRouteConfiguration = .ok () ∧
      graph.clusters.items.forM graph.checkCluster = .ok () ∧
      graph.loadAssignments.items.forM graph.checkLoadAssignment = .ok () := by
    simp only [checkConsistency, checkConsistencyWith, bind_eq_ok]
    constructor
    · rintro ⟨_, hlisteners, _, hroutes, _, hclusters, hassignments⟩
      exact ⟨hlisteners, hroutes, hclusters, hassignments⟩
    · rintro ⟨hlisteners, hroutes, hclusters, hassignments⟩
      exact ⟨(), hlisteners, (), hroutes, (), hclusters, hassignments⟩
  rw [hall]
  simp only [forM_eq_ok_iff, checkListener, checkChain_eq_ok_iff, checkRouteConfiguration,
    checkRoute, checkCluster_eq_ok_iff, checkLoadAssignment, requireResource_eq_ok_iff, names]
  constructor
  · rintro ⟨hlisteners, hroutes, hclusters, hassignments⟩
    exact ⟨hlisteners, hroutes, hclusters, hassignments⟩
  · rintro ⟨hlisteners, hroutes, hclusters, hassignments⟩
    exact ⟨hlisteners, hroutes, hclusters, hassignments⟩

end Graph

end GatewayCompiler
