import GatewayCompiler.Proofs.Gateway.Closure
import GatewayCompiler.Proofs.Routes.Endpoints
import GatewayCompiler.Proofs.Routes.Targets

/-!
# Inventory of clusters

The clusters of a translation are told by a walk over what the translation follows: listeners, the
routes each serves, their rules and backends.  Each backend leads to a Service port, each Service
port has the name of its cluster, and the clusters are these names in the order of the walk, each
where it is met first.
-/

namespace GatewayCompiler

/-- A backend and the route that has it. -/
structure RouteBackend where
  route : HttpRoute
  backend : BackendRef
  deriving DecidableEq, Repr

namespace RouteBackend

/-- The key of the Service that the backend names. -/
def service (entry : RouteBackend) : ObjectKey :=
  entry.backend.serviceKey entry.route.namespaceName

/-- The Service port that the backend leads to. -/
def target? (entry : RouteBackend) (snapshot : Snapshot) : Option BackendTarget :=
  entry.backend.target? snapshot entry.route.namespaceName

end RouteBackend

/-- The backends that a listener follows: those of the routes it serves, in order of route. -/
def Listener.followed (listener : Listener) (snapshot : Snapshot) (gateway : ObjectKey) :
    List RouteBackend :=
  (listener.servedRoutes snapshot gateway).flatMap fun route =>
    route.followed.map fun backend => ⟨route, backend⟩

/-- The backends that a translation of the Gateway follows, listener after listener. -/
def Gateway.followed (gateway : Gateway) (snapshot : Snapshot) : List RouteBackend :=
  gateway.listeners.flatMap (·.followed snapshot gateway.key)

section Walk

variable {snapshot : Snapshot} {settings : Settings} {gateway : Gateway}

theorem Listener.map_targets_of_part {listener : Listener} {index : Nat} {part : ListenerPart}
    (h : listener.part snapshot settings gateway index = .ok part) :
    part.targets.map some = (listener.followed snapshot gateway.key).map (·.target? snapshot) := by
  obtain ⟨outlines, houtlines, _, htargets⟩ := exists_outlines_of_part h
  rw [htargets, List.map_flatMap, followed, List.map_flatMap]
  apply flatMap_eq_of_mapM houtlines
  intro route outline houtline
  rw [HttpRoute.map_targets_of_outline houtline, List.map_map]
  rfl

/-- The Service ports of the parts are those that the followed backends lead to, one for each. -/
theorem Gateway.map_targets_of_parts {parts : List ListenerPart}
    (h : gateway.parts snapshot settings = .ok parts) :
    (parts.flatMap (·.targets)).map some =
      (gateway.followed snapshot).map (·.target? snapshot) := by
  rw [List.map_flatMap, followed, List.map_flatMap]
  apply flatMap_eq_of_mapM_zipIdx h
  intro listener index part hpart
  exact Listener.map_targets_of_part hpart

theorem Gateway.mem_targets_iff {parts : List ListenerPart} {target : BackendTarget}
    (h : gateway.parts snapshot settings = .ok parts) :
    target ∈ parts.flatMap (·.targets) ↔
      ∃ entry ∈ gateway.followed snapshot, entry.target? snapshot = some target := by
  rw [← List.mem_map, ← Gateway.map_targets_of_parts h]
  simp

end Walk

namespace Graph

/-- The clusters and load assignments of a graph are those of these Service ports. -/
structure IsInventory (graph : Graph) (policy : EndpointPolicy) (targets : List BackendTarget) :
    Prop where
  /-- A cluster is named by the namespace and name of the Service and the number of the port; the
  clusters stand where their names are met first. -/
  names_eq : graph.clusters.names = (targets.map fun target =>
    s!"{target.service.key.ns}/{target.service.key.name}/{target.port.port.toNat}").eraseDups
  /-- At each place of the clusters stands its assignment among the load assignments. -/
  pairs : List.Forall₂ policy.Pairs graph.clusters.items graph.loadAssignments.items

variable {parts : List ListenerPart} {backends : BackendClusters} {rules : ClusterRules}
  {targets : List BackendTarget}

theorem items_clusters_assemble (parts : List ListenerPart) (backends : BackendClusters) :
    (assemble parts backends.items).clusters.items = backends.items.map (·.cluster) := by
  apply Roster.items_ofList_of_nodup
  rw [List.map_map]
  exact backends.distinct

/-- No assignment is lost, since assignments are named like their clusters. -/
theorem items_loadAssignments_assemble (hall : rules.registerAll ∅ targets = .ok backends) :
    (assemble parts backends.items).loadAssignments.items = backends.items.map (·.assignment) := by
  have hnames : (backends.items.map (·.assignment)).map (·.clusterName) = backends.names := by
    rw [List.map_map]
    apply List.map_congr_left
    intro backend hmem
    exact (ClusterRules.pairs_of_registerAll hall hmem).clusterName_eq
  apply Roster.items_ofList_of_nodup
  rw [hnames]
  exact backends.distinct

theorem isInventory_assemble (hall : rules.registerAll ∅ targets = .ok backends) :
    (assemble parts backends.items).IsInventory rules.policy targets := by
  constructor
  · rw [Roster.names, items_clusters_assemble, List.map_map]
    exact ClusterRules.names_registerAll hall
  · rw [items_clusters_assemble, items_loadAssignments_assemble hall, List.forall₂_map_left_iff,
      List.forall₂_map_right_iff, List.forall₂_same]
    intro backend hmem
    exact ClusterRules.pairs_of_registerAll hall hmem

end Graph

namespace Translator

variable {translator : Translator} {key : ObjectKey} {gateway : Gateway} {graph : Graph}

/-- A translation that succeeds has resolved every backend that it follows, and has the clusters of
the Service ports that these lead to and no others. -/
theorem isInventory_of_translate (hgateway : translator.snapshot.gateway? key = some gateway)
    (h : (translator.translate key).outcome = .ok graph) :
    ∃ targets,
      (gateway.followed translator.snapshot).map (·.target? translator.snapshot) =
        targets.map some ∧
      graph.IsInventory translator.policy targets := by
  obtain ⟨parts, backends, hparts, hall, rfl⟩ := exists_parts_of_translate hgateway h
  exact ⟨_, (Gateway.map_targets_of_parts hparts).symm, Graph.isInventory_assemble hall⟩

theorem isInventory_of_sample :
    ∃ graph targets,
      (Sample.translator.translate Sample.gateway.key).outcome = .ok graph ∧
      (Sample.gateway.followed Sample.snapshot).map (·.service.display) =
        ["blog/web", "shop/web", "data/orders", "shop/web",
          "blog/web", "shop/web", "data/orders", "shop/web"] ∧
      graph.clusters.names = ["blog/web/8080", "shop/web/8080", "data/orders/8080"] ∧
      (Sample.gateway.followed Sample.snapshot).map (·.target? Sample.snapshot) =
        targets.map some ∧
      graph.IsInventory .clusterIp targets := by
  have hgateway : Sample.translator.snapshot.gateway? Sample.gateway.key = some Sample.gateway := by
    decide +kernel
  have hrun : (Sample.translator.translate Sample.gateway.key).outcome.map (·.clusters.names) =
      .ok ["blog/web/8080", "shop/web/8080", "data/orders/8080"] := by
    decide +kernel
  obtain ⟨graph, hgraph, hnames⟩ := map_eq_ok.1 hrun
  obtain ⟨targets, htargets, hinventory⟩ := isInventory_of_translate hgateway hgraph
  exact ⟨graph, targets, hgraph, by decide +kernel, hnames, htargets, hinventory⟩

end Translator

end GatewayCompiler
