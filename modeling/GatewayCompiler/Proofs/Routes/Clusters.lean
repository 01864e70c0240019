import GatewayCompiler.Graph.Consistency
import GatewayCompiler.Proofs.Routes.Grouping

/-!
# Clusters of routes

A planned route names the clusters of Service ports that its rule sends traffic to and no others,
and these clusters are there once the Service ports are registered.
-/

namespace GatewayCompiler

theorem ClusterPlan.name_of_toCluster {plan : ClusterPlan} {cluster : Envoy.Cluster}
    (h : plan.toCluster = .ok cluster) : cluster.name = plan.name := by
  rw [toCluster, bind_eq_ok] at h
  obtain ⟨_, _, h⟩ := h
  cases hdiscovery : plan.discovery with
  | assigned =>
      simp only [hdiscovery, pure_eq_ok] at h
      rw [← h]
  | resolved endpoints =>
      simp only [hdiscovery, bind_eq_ok, pure_eq_ok] at h
      obtain ⟨_, _, rfl⟩ := h
      rfl

/-- The assignment that a planned cluster would fetch has the name of the cluster. -/
theorem ClusterPlan.assignmentName_of_toCluster {plan : ClusterPlan} {cluster : Envoy.Cluster}
    (h : plan.toCluster = .ok cluster) : Graph.assignmentName cluster = plan.name := by
  rw [toCluster, bind_eq_ok] at h
  obtain ⟨_, _, h⟩ := h
  cases hdiscovery : plan.discovery with
  | assigned =>
      simp only [hdiscovery, pure_eq_ok] at h
      rw [← h]
      by_cases hempty : plan.name = "" <;> simp [Graph.assignmentName, Option.filter, hempty]
  | resolved endpoints =>
      simp only [hdiscovery, bind_eq_ok, pure_eq_ok] at h
      obtain ⟨_, _, rfl⟩ := h
      rfl

theorem AssignmentPlan.clusterName_of_toAssignment {plan : AssignmentPlan}
    {assignment : Envoy.LoadAssignment} (h : plan.toAssignment = .ok assignment) :
    assignment.clusterName = plan.clusterName := by
  rw [toAssignment, bind_eq_ok] at h
  obtain ⟨_, _, h⟩ := h
  rw [pure_eq_ok] at h
  rw [← h]

/-- The cluster, its assignment and the assignment it would fetch have one name. -/
structure BackendCluster.IsNamed (backend : BackendCluster) (name : String) : Prop where
  cluster : backend.cluster.name = name
  assignment : backend.assignment.clusterName = name
  fetched : Graph.assignmentName backend.cluster = name

namespace ClusterRules

variable {rules : ClusterRules} {built built' : BackendClusters}

theorem isNamed_of_build {name : String} {service : Service} {port : ServicePort}
    {backend : BackendCluster} (h : rules.build name service port = .ok backend) :
    backend.IsNamed name := by
  simp only [build, bind_eq_ok, pure_eq_ok] at h
  obtain ⟨_, _, _, hassignment, _, hcluster, rfl⟩ := h
  exact ⟨ClusterPlan.name_of_toCluster hcluster,
    AssignmentPlan.clusterName_of_toAssignment hassignment,
    ClusterPlan.assignmentName_of_toCluster hcluster⟩

/-- What registering one Service port does: nothing when its cluster is there, else the cluster that
is built is added. -/
theorem register_eq_ok_iff {target : BackendTarget} :
    rules.register built target = .ok built' ↔
      target.clusterName ∈ built.names ∧ built' = built ∨
      target.clusterName ∉ built.names ∧ ∃ backend,
        rules.build target.clusterName target.service target.port = .ok backend ∧
        built' = built.add backend := by
  rw [register]
  by_cases hmem : target.clusterName ∈ built.names
  · rw [if_pos (Roster.contains_iff.2 hmem)]
    simp [hmem, eq_comm]
  · rw [if_neg (mt Roster.contains_iff.1 hmem), map_eq_ok]
    simp [hmem, eq_comm]

theorem mem_names_register {target : BackendTarget} {name : String}
    (h : rules.register built target = .ok built') :
    name ∈ built'.names ↔ name ∈ built.names ∨ name = target.clusterName := by
  obtain ⟨hmem, rfl⟩ | ⟨_, backend, hbuild, rfl⟩ := register_eq_ok_iff.1 h
  · constructor
    · exact .inl
    · rintro (h | rfl)
      · exact h
      · exact hmem
  · rw [Roster.mem_names_add, (isNamed_of_build hbuild).cluster]

/-- The names of the clusters are those of the Service ports that were registered. -/
theorem mem_names_registerAll {targets : List BackendTarget} {name : String}
    (h : rules.registerAll built targets = .ok built') :
    name ∈ built'.names ↔ name ∈ built.names ∨ name ∈ targets.map (·.clusterName) := by
  induction targets generalizing built with
  | nil =>
      rw [registerAll, List.foldlM_nil, pure_eq_ok] at h
      simp [h]
  | cons target targets ih =>
      rw [registerAll, List.foldlM_cons, bind_eq_ok] at h
      obtain ⟨next, hfirst, hrest⟩ := h
      rw [ih hrest, mem_names_register hfirst, List.map_cons, List.mem_cons, or_assoc]

/-- Clusters that are built later are listed after those that are there. -/
theorem items_prefix_registerAll {targets : List BackendTarget}
    (h : rules.registerAll built targets = .ok built') : built.items <+: built'.items := by
  induction targets generalizing built with
  | nil =>
      rw [registerAll, List.foldlM_nil, pure_eq_ok] at h
      rw [h]
  | cons target targets ih =>
      rw [registerAll, List.foldlM_cons, bind_eq_ok] at h
      obtain ⟨next, hfirst, hrest⟩ := h
      obtain ⟨_, rfl⟩ | ⟨_, added, _, rfl⟩ := register_eq_ok_iff.1 hfirst
      · exact ih hrest
      · exact (Roster.items_prefix_add built added).trans (ih hrest)

/-- Every cluster was there before or is the one that was built for a Service port. -/
theorem exists_build_of_registerAll {targets : List BackendTarget} {backend : BackendCluster}
    (h : rules.registerAll built targets = .ok built') (hmem : backend ∈ built'.items) :
    backend ∈ built.items ∨ ∃ target ∈ targets,
      rules.build target.clusterName target.service target.port = .ok backend := by
  induction targets generalizing built with
  | nil =>
      rw [registerAll, List.foldlM_nil, pure_eq_ok] at h
      exact .inl (h ▸ hmem)
  | cons target targets ih =>
      rw [registerAll, List.foldlM_cons, bind_eq_ok] at h
      obtain ⟨next, hfirst, hrest⟩ := h
      obtain hnext | ⟨other, hother, hbuild⟩ := ih hrest
      · obtain ⟨_, rfl⟩ | ⟨_, added, hadded, rfl⟩ := register_eq_ok_iff.1 hfirst
        · exact .inl hnext
        · obtain hbefore | rfl := Roster.mem_items_add hnext
          · exact .inl hbefore
          · exact .inr ⟨target, List.mem_cons_self, hadded⟩
      · exact .inr ⟨other, List.mem_cons_of_mem target hother, hbuild⟩

theorem isNamed_of_registerAll {targets : List BackendTarget} {backend : BackendCluster}
    (h : rules.registerAll ∅ targets = .ok built') (hmem : backend ∈ built'.items) :
    backend.IsNamed backend.cluster.name := by
  obtain hnone | ⟨target, _, hbuild⟩ := exists_build_of_registerAll h hmem
  · cases hnone
  · have hnamed := isNamed_of_build hbuild
    rw [hnamed.cluster]
    exact hnamed

end ClusterRules

/-- The clusters that an action sends traffic to. -/
def ActionPlan.clusterNames : ActionPlan → List String
  | .forward clusters _ _ => clusters.map (·.name)
  | .redirect _ => []
  | .respond _ _ => []

@[simp]
theorem ActionPlan.clusterNames_withReplacement (action : ActionPlan)
    (replacement : PathReplacement) :
    (action.withReplacement replacement).clusterNames = action.clusterNames := by
  cases action <;> rfl

theorem ActionPlan.actionClusters_of_toAction {plan : ActionPlan} {name : String}
    {action : Envoy.RouteAction} (h : plan.toAction name = .ok action) :
    Graph.actionClusters (some action) = plan.clusterNames := by
  cases plan with
  | forward clusters totalWeight rewrite =>
      rw [toAction] at h
      split at h
      · cases h
      · cases h
        simp [Graph.actionClusters, forwardAction, clusterNames]
  | redirect plan =>
      rw [toAction] at h
      split at h
      · cases h
        rfl
      · cases h
  | respond status body =>
      cases h
      rfl

theorem mem_names_addWeight? {name other : String} {weight : UInt32}
    {clusters out : List WeightedPlan} (h : addWeight? name weight clusters = some out)
    (hother : other ∈ out.map (·.name)) :
    other = name ∨ other ∈ clusters.map (·.name) := by
  induction clusters generalizing out with
  | nil =>
      cases h
      simpa using hother
  | cons cluster clusters ih =>
      rw [addWeight?] at h
      by_cases hsame : cluster.name = name
      · rw [if_pos hsame] at h
        obtain ⟨sum, _, rfl⟩ := Option.map_eq_some_iff.1 h
        rw [List.map_cons, List.mem_cons] at hother
        exact hother.imp_right (List.mem_cons_of_mem _)
      · rw [if_neg hsame] at h
        obtain ⟨rest, hrest, rfl⟩ := Option.map_eq_some_iff.1 h
        rw [List.map_cons, List.mem_cons] at hother
        rw [List.map_cons, List.mem_cons]
        obtain rfl | hother := hother
        · exact .inr (.inl rfl)
        · exact (ih hrest hother).imp_right .inr

namespace RouteRule

theorem mem_names_weighTargets {route : ObjectRef} {field name : String} {index : Nat}
    {clusters out : List WeightedPlan} {pairs : List (BackendRef × BackendTarget)}
    (h : weighTargets route field index clusters pairs = .ok out)
    (hname : name ∈ out.map (·.name)) :
    name ∈ clusters.map (·.name) ∨ name ∈ pairs.map (·.2.clusterName) := by
  induction pairs generalizing index clusters with
  | nil =>
      cases h
      exact .inl hname
  | cons pair pairs ih =>
      obtain ⟨backend, target⟩ := pair
      rw [weighTargets, bind_eq_ok] at h
      obtain ⟨weighted, hweigh, hrest⟩ := h
      rw [BackendRef.weighIn] at hweigh
      split at hweigh
      · rename_i next hnext
        cases hweigh
        obtain hweighted | hpairs := ih hrest
        · obtain rfl | hbefore := mem_names_addWeight? hnext hweighted
          · exact .inr List.mem_cons_self
          · exact .inl hbefore
        · exact .inr (List.mem_cons_of_mem _ hpairs)
      · cases hweigh

/-- An action sends traffic to clusters of the Service ports that its rule names. -/
theorem mem_clusterNames_of_actionOn {rule : RouteRule} {route : ObjectRef} {field name : String}
    {filters : RuleFilters} {targets : List BackendTarget} {action : RuleAction}
    (h : rule.actionOn route field filters targets = .ok action)
    (hname : name ∈ action.action.clusterNames) : name ∈ targets.map (·.clusterName) := by
  rw [actionOn] at h
  cases hredirect : filters.redirect with
  | some redirect =>
      simp only [hredirect, RequestRedirect.ruleAction] at h
      split at h
      · cases h
      · simp only [bind_eq_ok, pure_eq_ok] at h
        obtain ⟨_, _, rfl⟩ := h
        cases hname
  | none =>
      simp only [hredirect, forwardAction, bind_eq_ok, pure_eq_ok] at h
      obtain ⟨_, _, clusters, hclusters, plan, hplan, rfl⟩ := h
      simp only [forward] at hplan
      split at hplan
      · rename_i total htotal
        rw [pure_eq_ok] at hplan
        subst hplan
        split at hname
        · cases hname
        · obtain ⟨cluster, hcluster, rfl⟩ := List.mem_map.1 hname
          have hweighed : cluster.name ∈ clusters.map (·.name) :=
            List.mem_map_of_mem (List.mem_filter.1 hcluster).1
          obtain hnil | hpairs := mem_names_weighTargets hclusters hweighed
          · cases hnil
          · obtain ⟨pair, hpair, hsame⟩ := List.mem_map.1 hpairs
            rw [← hsame]
            exact List.mem_map_of_mem (List.of_mem_zip hpair).2
      · cases hplan

end RouteRule

/-- Every planned route sends traffic to clusters of the Service ports of the outline only. -/
def Outline.NamesTargets (outline : Outline) : Prop :=
  ∀ plan ∈ outline.routes, ∀ name ∈ plan.action.clusterNames,
    name ∈ outline.targets.map (·.clusterName)

theorem RouteMatch.clusterNames_action {m : RouteMatch} {route : ObjectRef} {field : String}
    {ruleAction : RuleAction} {action : ActionPlan}
    (h : m.action route field ruleAction = .ok action) :
    action.clusterNames = ruleAction.action.clusterNames := by
  unfold RouteMatch.action at h
  split at h
  · cases h
    rfl
  · split at h
    · cases h
      exact ActionPlan.clusterNames_withReplacement ..
    · cases h

theorem RouteRule.namesTargets_of_outline {rule : RouteRule} {snapshot : Snapshot}
    {route : HttpRoute} {ruleIndex : Nat} {outline : Outline}
    (h : rule.outline snapshot route ruleIndex = .ok outline) : outline.NamesTargets := by
  simp only [RouteRule.outline, bind_eq_ok, pure_eq_ok] at h
  obtain ⟨filters, _, targets, _, action, haction, routes, hroutes, rfl⟩ := h
  intro plan hplan name hname
  rw [routesFor] at hroutes
  obtain ⟨place, _, hroute⟩ := exists_of_mem_mapM hroutes hplan
  simp only [routeFor, bind_eq_ok, pure_eq_ok] at hroute
  obtain ⟨planned, hplanned, rfl⟩ := hroute
  rw [RouteMatch.clusterNames_action hplanned] at hname
  exact mem_clusterNames_of_actionOn haction hname

theorem Outline.namesTargets_flatMap {outlines : List Outline}
    (h : ∀ outline ∈ outlines, outline.NamesTargets) :
    Outline.NamesTargets ⟨outlines.flatMap (·.routes), outlines.flatMap (·.targets)⟩ := by
  intro plan hplan name hname
  obtain ⟨outline, houtline, hmem⟩ := List.mem_flatMap.1 hplan
  obtain ⟨target, htarget, rfl⟩ := List.mem_map.1 (h outline houtline plan hmem name hname)
  exact List.mem_map_of_mem (List.mem_flatMap.2 ⟨outline, houtline, htarget⟩)

theorem HttpRoute.namesTargets_of_outline {route : HttpRoute} {snapshot : Snapshot}
    {outline : Outline} (h : route.outline snapshot = .ok outline) : outline.NamesTargets := by
  simp only [HttpRoute.outline, bind_eq_ok, pure_eq_ok] at h
  obtain ⟨outlines, houtlines, rfl⟩ := h
  apply Outline.namesTargets_flatMap
  intro outline houtline
  obtain ⟨entry, _, hrule⟩ := exists_of_mem_mapM houtlines houtline
  exact RouteRule.namesTargets_of_outline hrule

namespace Listener

variable {listener : Listener} {snapshot : Snapshot} {gateway : ObjectKey} {outlines : List Outline}

/-- Grouping moves planned routes about and adds none. -/
theorem exists_outline_of_mem_grouped {host : VirtualHostPlan} {plan : RoutePlan}
    (hhost : host ∈ (listener.grouped snapshot gateway outlines).virtualHosts)
    (hplan : plan ∈ host.routes) : ∃ outline ∈ outlines, plan ∈ outline.routes := by
  rw [(VirtualHostPlan.exists_entry_of_mem_group hhost).2] at hplan
  obtain ⟨entry, hentry, hmem⟩ := List.mem_flatMap.1 hplan
  have hzip := List.of_mem_zip (List.mem_filter.1 hentry).1
  obtain ⟨outline, houtline, hroutes⟩ := List.mem_map.1 hzip.2
  exact ⟨outline, houtline, hroutes ▸ hmem⟩

/-- The route configuration of a listener names clusters of the Service ports of its routes only. -/
theorem mem_clusterNames_of_grouped {host : VirtualHostPlan} {plan : RoutePlan} {name : String}
    (houtlines : listener.routeOutlines snapshot gateway = .ok outlines)
    (hhost : host ∈ (listener.grouped snapshot gateway outlines).virtualHosts)
    (hplan : plan ∈ host.routes) (hname : name ∈ plan.action.clusterNames) :
    name ∈ (outlines.flatMap (·.targets)).map (·.clusterName) := by
  rw [routeOutlines] at houtlines
  have hall : ∀ outline ∈ outlines, outline.NamesTargets := by
    intro outline houtline
    obtain ⟨route, _, hroute⟩ := exists_of_mem_mapM houtlines houtline
    exact HttpRoute.namesTargets_of_outline hroute
  obtain ⟨outline, houtline, hmem⟩ := exists_outline_of_mem_grouped hhost hplan
  exact Outline.namesTargets_flatMap hall plan
    (List.mem_flatMap.2 ⟨outline, houtline, hmem⟩) name hname

end Listener

theorem RouteConfigurationPlan.name_of_toConfiguration {plan : RouteConfigurationPlan}
    {configuration : Envoy.RouteConfiguration} (h : plan.toConfiguration = .ok configuration) :
    configuration.name = plan.name := by
  simp only [toConfiguration, bind_eq_ok, pure_eq_ok] at h
  obtain ⟨_, _, rfl⟩ := h
  rfl

/-- The routes of a configuration are what the planned routes have become. -/
theorem RouteConfigurationPlan.exists_plan_of_toConfiguration {plan : RouteConfigurationPlan}
    {configuration : Envoy.RouteConfiguration} {host : Envoy.VirtualHost} {route : Envoy.Route}
    (h : plan.toConfiguration = .ok configuration) (hhost : host ∈ configuration.virtualHosts)
    (hroute : route ∈ host.routes) :
    ∃ hostPlan ∈ plan.virtualHosts, ∃ routePlan ∈ hostPlan.routes,
      routePlan.toRoute = .ok route := by
  simp only [toConfiguration, bind_eq_ok, pure_eq_ok] at h
  obtain ⟨hosts, hhosts, rfl⟩ := h
  obtain ⟨hostPlan, hhostPlan, hto⟩ := exists_of_mem_mapM hhosts hhost
  simp only [VirtualHostPlan.toVirtualHost, bind_eq_ok, pure_eq_ok] at hto
  obtain ⟨routes, hroutes, rfl⟩ := hto
  obtain ⟨routePlan, hroutePlan, hto⟩ := exists_of_mem_mapM hroutes hroute
  exact ⟨hostPlan, hhostPlan, routePlan, hroutePlan, hto⟩

theorem RoutePlan.actionClusters_of_toRoute {plan : RoutePlan} {route : Envoy.Route}
    (h : plan.toRoute = .ok route) :
    Graph.actionClusters route.action = plan.action.clusterNames := by
  simp only [toRoute, bind_eq_ok, pure_eq_ok] at h
  obtain ⟨action, haction, rfl⟩ := h
  exact ActionPlan.actionClusters_of_toAction haction

end GatewayCompiler
