import GatewayCompiler.Proofs.Gateway.Consistency
import GatewayCompiler.Proofs.Gateway.Parts
import GatewayCompiler.Proofs.Routes.Clusters
import GatewayCompiler.Proofs.Wire.Listener

/-!
# Closure of a graph

The graph that is assembled for a Gateway is closed: what is referred to in it is in it.  The check
before the graph is handed out therefore never refuses it.
-/

namespace GatewayCompiler

namespace Graph

open Envoy

/-- A graph that is consistent and in which every chain fetches the routes of a configuration of the
graph, by the name that is decoded from its connection manager. -/
structure IsClosed (graph : Graph) : Prop extends graph.IsConsistent where
  managers : ∀ listener ∈ graph.listeners.items, ∀ chain ∈ listener.filterChains,
    ∃ config manager name, chain.managerConfig? = some config ∧
      ConnectionManager.decode? config.value = some manager ∧
      discoveredRoutes? manager = some name ∧ name ∈ graph.routeConfigurations.names

end Graph

/-- The connection manager of a planned chain is decoded from the chain and fetches the planned
routes. -/
theorem ChainPlan.exists_manager (plan : ChainPlan) :
    ∃ config manager, plan.toFilterChain.managerConfig? = some config ∧
      Envoy.ConnectionManager.decode? config.value = some manager ∧
      Graph.discoveredRoutes? manager = some plan.routeConfigName := by
  refine ⟨⟨Envoy.connectionManagerType, plan.toManager.encode⟩, plan.toManager, ?_, ?_, rfl⟩
  · simp [toFilterChain, Envoy.FilterChain.managerConfig?, toFilter]
  · exact Envoy.ConnectionManager.decode?_encode _

namespace Listener

variable {listener : Listener} {snapshot : Snapshot} {settings : Settings} {gateway : Gateway}
  {index : Nat} {part : ListenerPart}

/-- The chains of a listener fetch the routes of the configuration that comes with it. -/
theorem exists_manager_of_part (h : listener.part snapshot settings gateway index = .ok part)
    {chain : Envoy.FilterChain} (hchain : chain ∈ part.listener.filterChains) :
    ∃ config manager, chain.managerConfig? = some config ∧
      Envoy.ConnectionManager.decode? config.value = some manager ∧
      Graph.discoveredRoutes? manager = some part.configuration.name := by
  simp only [Listener.part, Listener.plan, bind_eq_ok, pure_eq_ok] at h
  obtain ⟨_, ⟨tls, _, rfl⟩, outlines, _, planned, hplanned, configuration, hconfiguration, rfl⟩ := h
  have hname : configuration.name = Naming.routeConfiguration gateway.key listener.name :=
    RouteConfigurationPlan.name_of_toConfiguration hconfiguration
  simp only [ListenerPlan.toListener, List.isEmpty_cons, Bool.false_eq_true, if_false,
    Except.ok.injEq] at hplanned
  subst hplanned
  obtain ⟨chainPlan, hmem, rfl⟩ := List.mem_map.1 hchain
  rw [List.mem_singleton] at hmem
  have hmanager := chainPlan.exists_manager
  rw [hmem] at hmanager ⊢
  rw [hname]
  exact hmanager

/-- The routes of a listener name clusters of the Service ports of its part. -/
theorem mem_clusterNames_of_part (h : listener.part snapshot settings gateway index = .ok part)
    {host : Envoy.VirtualHost} (hhost : host ∈ part.configuration.virtualHosts)
    {route : Envoy.Route} (hroute : route ∈ host.routes) {name : String}
    (hname : name ∈ Graph.actionClusters route.action) :
    name ∈ part.targets.map (·.clusterName) := by
  obtain ⟨outlines, houtlines, hconfiguration, htargets⟩ := exists_outlines_of_part h
  obtain ⟨hostPlan, hhostPlan, routePlan, hroutePlan, hto⟩ :=
    RouteConfigurationPlan.exists_plan_of_toConfiguration hconfiguration hhost hroute
  rw [RoutePlan.actionClusters_of_toRoute hto] at hname
  rw [htargets]
  exact mem_clusterNames_of_grouped houtlines hhostPlan hroutePlan hname

end Listener

namespace Graph

variable {gateway : Gateway} {snapshot : Snapshot} {settings : Settings} {rules : ClusterRules}
  {parts : List ListenerPart} {backends : BackendClusters}

/-- The route configurations that the chains of the parts fetch are among the parts. -/
theorem exists_manager_of_assemble (hparts : gateway.parts snapshot settings = .ok parts)
    {listener : Envoy.Listener}
    (hlistener : listener ∈ (assemble parts backends.items).listeners.items)
    {chain : Envoy.FilterChain} (hchain : chain ∈ listener.filterChains) :
    ∃ config manager name, chain.managerConfig? = some config ∧
      Envoy.ConnectionManager.decode? config.value = some manager ∧
      discoveredRoutes? manager = some name ∧
      name ∈ (assemble parts backends.items).routeConfigurations.names := by
  obtain ⟨part, hpart, rfl⟩ := List.mem_map.1 (Roster.mem_of_mem_items_ofList hlistener)
  obtain ⟨entry, _, hentry⟩ := exists_of_mem_mapM hparts hpart
  obtain ⟨config, manager, hconfig, hdecode, hname⟩ :=
    Listener.exists_manager_of_part hentry hchain
  refine ⟨config, manager, part.configuration.name, hconfig, hdecode, hname, ?_⟩
  apply Roster.mem_names_ofList.2
  exact List.mem_map_of_mem (List.mem_map_of_mem hpart)

/-- The clusters that the routes of the parts name are there once the Service ports of the parts are
registered. -/
theorem mem_clusters_assemble (hparts : gateway.parts snapshot settings = .ok parts)
    (hall : rules.registerAll ∅ (parts.flatMap (·.targets)) = .ok backends)
    {configuration : Envoy.RouteConfiguration}
    (hconfiguration : configuration ∈ (assemble parts backends.items).routeConfigurations.items)
    {host : Envoy.VirtualHost} (hhost : host ∈ configuration.virtualHosts)
    {route : Envoy.Route} (hroute : route ∈ host.routes) {name : String}
    (hname : name ∈ actionClusters route.action) :
    name ∈ (assemble parts backends.items).clusters.names := by
  obtain ⟨part, hpart, rfl⟩ := List.mem_map.1 (Roster.mem_of_mem_items_ofList hconfiguration)
  obtain ⟨entry, _, hentry⟩ := exists_of_mem_mapM hparts hpart
  have htarget := Listener.mem_clusterNames_of_part hentry hhost hroute hname
  have hregistered : name ∈ backends.names := by
    rw [ClusterRules.mem_names_registerAll hall]
    obtain ⟨target, hmem, rfl⟩ := List.mem_map.1 htarget
    exact .inr (List.mem_map_of_mem (List.mem_flatMap.2 ⟨part, hpart, hmem⟩))
  apply Roster.mem_names_ofList.2
  rw [List.map_map]
  exact hregistered

theorem isClosed_assemble (hparts : gateway.parts snapshot settings = .ok parts)
    (hall : rules.registerAll ∅ (parts.flatMap (·.targets)) = .ok backends) :
    (assemble parts backends.items).IsClosed := by
  refine ⟨⟨?_, ?_, ?_, ?_⟩, ?_⟩
  · intro listener hlistener chain hchain
    obtain ⟨config, manager, name, hconfig, hdecode, hname, hmem⟩ :=
      exists_manager_of_assemble hparts hlistener hchain
    refine ⟨some manager, ?_, ?_⟩
    · simp [managerOf, ownDecoder, hconfig, hdecode]
    · simpa [hname] using hmem
  · intro configuration hconfiguration host hhost route hroute name hname
    exact mem_clusters_assemble hparts hall hconfiguration hhost hroute hname
  · intro cluster hcluster _
    obtain ⟨backend, hbackend, rfl⟩ := List.mem_map.1 (Roster.mem_of_mem_items_ofList hcluster)
    have hnamed := ClusterRules.isNamed_of_registerAll hall hbackend
    have hsame : assignmentName backend.cluster = backend.assignment.clusterName :=
      calc assignmentName backend.cluster = backend.cluster.name := hnamed.fetched
        _ = backend.assignment.clusterName := hnamed.assignment.symm
    apply Roster.mem_names_ofList.2
    rw [hsame]
    exact List.mem_map_of_mem (List.mem_map_of_mem hbackend)
  · intro assignment hassignment
    obtain ⟨backend, hbackend, rfl⟩ := List.mem_map.1 (Roster.mem_of_mem_items_ofList hassignment)
    have hnamed := ClusterRules.isNamed_of_registerAll hall hbackend
    apply Roster.mem_names_ofList.2
    rw [hnamed.assignment]
    exact List.mem_map_of_mem (List.mem_map_of_mem hbackend)
  · intro listener hlistener chain hchain
    exact exists_manager_of_assemble hparts hlistener hchain

end Graph

namespace Translator

variable {translator : Translator} {gateway : Gateway} {graph : Graph}

theorem isClosed_of_resources (h : (translator.resources gateway).outcome = .ok graph) :
    graph.IsClosed := by
  obtain ⟨parts, backends, hparts, hall, rfl⟩ := outcome_resources_eq_ok_iff.1 h
  exact Graph.isClosed_assemble hparts hall

theorem checkConsistency_eq_ok (h : (translator.resources gateway).outcome = .ok graph) :
    graph.checkConsistency = .ok () :=
  Graph.checkConsistency_eq_ok_iff.2 (isClosed_of_resources h).toIsConsistent

/-- A translation succeeds exactly when the settings are valid, the Gateway is there with listeners
of different names, and its resources can be built; what is built is never refused. -/
theorem outcome_translate_eq_ok_iff {key : ObjectKey} :
    (translator.translate key).outcome = .ok graph ↔
      translator.settings.validate = .ok () ∧
      ∃ gateway, translator.snapshot.gateway? key = some gateway ∧
        (checkListeners gateway 0 [] gateway.listeners).outcome = .ok () ∧
        (translator.resources gateway).outcome = .ok graph := by
  simp only [translate, Report.outcome_bind_eq_ok, Report.outcome_liftM]
  cases hgateway : translator.snapshot.gateway? key with
  | none => simp
  | some gateway =>
      simp only [Report.outcome_bind_eq_ok, Report.outcome_liftM, Report.outcome_pure,
        Except.ok.injEq]
      constructor
      · rintro ⟨_, hvalid, _, hlisteners, graph, hgraph, _, _, rfl⟩
        exact ⟨hvalid, gateway, rfl, hlisteners, hgraph⟩
      · rintro ⟨hvalid, gateway, hsame, hlisteners, hgraph⟩
        cases hsame
        exact ⟨(), hvalid, (), hlisteners, graph, hgraph, (), checkConsistency_eq_ok hgraph, rfl⟩

/-- What is handed out for a Gateway is assembled from the parts of its listeners. -/
theorem exists_parts_of_translate {key : ObjectKey}
    (hgateway : translator.snapshot.gateway? key = some gateway)
    (h : (translator.translate key).outcome = .ok graph) :
    ∃ parts backends,
      gateway.parts translator.snapshot translator.settings = .ok parts ∧
      translator.clusterRules.registerAll ∅ (parts.flatMap (·.targets)) = .ok backends ∧
      graph = Graph.assemble parts backends.items := by
  obtain ⟨_, found, hfound, _, hresources⟩ := outcome_translate_eq_ok_iff.1 h
  rw [hgateway, Option.some.injEq] at hfound
  subst hfound
  exact outcome_resources_eq_ok_iff.1 hresources

/-- When all listeners of a Gateway and all their routes can be built, the graph is closed, and the
check before it is handed out passes. -/
theorem checkConsistency_of_resources (h : (translator.resources gateway).outcome = .ok graph) :
    graph.IsClosed ∧ graph.checkConsistency = .ok () := by
  have hclosed := isClosed_of_resources h
  exact ⟨hclosed, Graph.checkConsistency_eq_ok_iff.2 hclosed.toIsConsistent⟩

theorem checkConsistency_of_sample :
    ∃ graph, (Sample.translator.resources Sample.gateway).outcome = .ok graph ∧
      graph.names .routeConfiguration = ["infra/edge/http", "infra/edge/https"] ∧
      graph.names .cluster = ["blog/web/8080", "shop/web/8080", "data/orders/8080"] ∧
      graph.IsClosed ∧ graph.checkConsistency = .ok () := by
  have hrun : (Sample.translator.resources Sample.gateway).outcome.map (fun graph =>
        (graph.names .routeConfiguration, graph.names .cluster)) =
      .ok (["infra/edge/http", "infra/edge/https"],
        ["blog/web/8080", "shop/web/8080", "data/orders/8080"]) := by
    decide +kernel
  obtain ⟨graph, hgraph, hnames⟩ := map_eq_ok.1 hrun
  rw [Prod.mk.injEq] at hnames
  exact ⟨graph, hgraph, hnames.1, hnames.2, checkConsistency_of_resources hgraph⟩

end Translator

end GatewayCompiler
