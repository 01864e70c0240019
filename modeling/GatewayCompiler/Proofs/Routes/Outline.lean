import GatewayCompiler.Proofs.Outcome
import GatewayCompiler.Translation.VirtualHosts

/-!
# Outlines of rules and routes

Planning a rule builds the clusters it meets as it goes along.  Its outline is told without them:
the planned routes, and the Service ports that the rule sends traffic to.  A run succeeds exactly
when there is an outline and its Service ports can be registered, and what it plans does not depend
on the clusters that were there before.
-/

namespace GatewayCompiler

namespace ClusterRules

/-- The clusters with the one of a Service port among them. -/
def register (rules : ClusterRules) (built : BackendClusters) (target : BackendTarget) :
    Except Fault BackendClusters :=
  if built.contains target.clusterName then .ok built
  else (rules.build target.clusterName target.service target.port).map built.add

def registerAll (rules : ClusterRules) (built : BackendClusters) (targets : List BackendTarget) :
    Except Fault BackendClusters :=
  targets.foldlM rules.register built

theorem registerAll_append {rules : ClusterRules} {built : BackendClusters}
    {first second : List BackendTarget} :
    rules.registerAll built (first ++ second) =
      rules.registerAll built first >>= (rules.registerAll · second) :=
  List.foldlM_append

/-- Asking for the cluster of a Service port answers with its name and registers the port. -/
theorem run_clusterFor (rules : ClusterRules) (target : BackendTarget) (built : BackendClusters) :
    (rules.clusterFor target.service target.port).run built =
      (rules.register built target).map (target.clusterName, ·) := by
  let name := target.clusterName
  have hrun : (rules.clusterFor target.service target.port).run built =
      (if built.contains name then pure name else do
        let backend ← rules.build name target.service target.port
        set (built.add backend)
        return name : Building String).run built := rfl
  rw [hrun, register]
  by_cases hcontains : built.contains name = true
  · rw [if_pos hcontains, if_pos hcontains]
    rfl
  · rw [if_neg hcontains, if_neg hcontains]
    cases rules.build name target.service target.port <;> rfl

end ClusterRules

theorem BackendRef.run_cluster_eq_ok_iff {backend : BackendRef} {snapshot : Snapshot}
    {rules : ClusterRules} {route : ObjectRef} {field name : String}
    {built built' : BackendClusters} :
    (backend.cluster snapshot rules route field).run built = .ok (name, built') ↔
      ∃ target, backend.resolve snapshot route field = .ok target ∧
        target.clusterName = name ∧ rules.register built target = .ok built' := by
  simp only [cluster, StateT.run_bind, bind_eq_ok, Prod.exists, run_liftM_eq_ok,
    ClusterRules.run_clusterFor, map_eq_ok, Prod.mk.injEq]
  constructor
  · rintro ⟨target, _, ⟨hresolve, rfl⟩, _, hregister, rfl, rfl⟩
    exact ⟨target, hresolve, rfl, hregister⟩
  · rintro ⟨target, hresolve, rfl, hregister⟩
    exact ⟨target, built, ⟨hresolve, rfl⟩, _, hregister, rfl, rfl⟩

/-- The planned routes of a rule or a route, and the Service ports they send traffic to in the order
in which these are met. -/
structure Outline where
  routes : List RoutePlan
  targets : List BackendTarget

namespace RouteRule

/-- The Service ports that the backends of a rule name. -/
def resolveAll (rule : RouteRule) (snapshot : Snapshot) (route : ObjectRef) (field : String) :
    Except Fault (List BackendTarget) :=
  rule.backendRefs.zipIdx.mapM fun (backend, index) =>
    backend.resolve snapshot route (backendField field index)

/-- The Service ports that a rule has a use for: none when it redirects. -/
def targets (rule : RouteRule) (snapshot : Snapshot) (route : ObjectRef) (field : String)
    (filters : RuleFilters) : Except Fault (List BackendTarget) :=
  if filters.redirect.isSome then .ok [] else rule.resolveAll snapshot route field

/-- The weighted clusters of backends that name these Service ports. -/
def weighTargets (route : ObjectRef) (field : String) :
    Nat → List WeightedPlan → List (BackendRef × BackendTarget) → Except Fault (List WeightedPlan)
  | _, clusters, [] => .ok clusters
  | index, clusters, (backend, target) :: rest => do
    let clusters ← backend.weighIn route (backendField field index) target.clusterName clusters
    weighTargets route field (index + 1) clusters rest

theorem run_weigh_eq_ok_iff {snapshot : Snapshot} {rules : ClusterRules} {route : ObjectRef}
    {field : String} {index : Nat} {clusters out : List WeightedPlan} {backends : List BackendRef}
    {built built' : BackendClusters} :
    (weigh snapshot rules route field index clusters backends).run built = .ok (out, built') ↔
      ∃ targets,
        (backends.zipIdx index).mapM (fun (backend, index) =>
          backend.resolve snapshot route (backendField field index)) = .ok targets ∧
        weighTargets route field index clusters (backends.zip targets) = .ok out ∧
        rules.registerAll built targets = .ok built' := by
  -- The run resolves, registers and weighs one backend after another; the right side first
  -- resolves them all, so the induction moves each of the three past the rest of the list.
  induction backends generalizing index clusters built with
  | nil => simp [weigh, weighTargets, ClusterRules.registerAll]
  | cons backend backends ih =>
      simp only [weigh, StateT.run_bind, bind_eq_ok, Prod.exists, run_liftM_eq_ok,
        BackendRef.run_cluster_eq_ok_iff, ih, List.zipIdx_cons, List.mapM_cons, pure_eq_ok]
      constructor
      · rintro ⟨_, _, ⟨target, hresolve, rfl, hregister⟩, weighted, _, ⟨hweigh, rfl⟩,
          targets, htargets, hout, hall⟩
        refine ⟨target :: targets, ⟨target, hresolve, targets, htargets, rfl⟩, ?_, ?_⟩
        · rw [List.zip_cons_cons, weighTargets, bind_eq_ok]
          exact ⟨weighted, hweigh, hout⟩
        · rw [ClusterRules.registerAll, List.foldlM_cons, bind_eq_ok]
          exact ⟨_, hregister, hall⟩
      · rintro ⟨_, ⟨target, hresolve, targets, htargets, rfl⟩, hout, hall⟩
        rw [List.zip_cons_cons, weighTargets, bind_eq_ok] at hout
        rw [ClusterRules.registerAll, List.foldlM_cons, bind_eq_ok] at hall
        obtain ⟨weighted, hweigh, hout⟩ := hout
        obtain ⟨next, hregister, hall⟩ := hall
        exact ⟨_, next, ⟨target, hresolve, rfl, hregister⟩, weighted, next, ⟨hweigh, rfl⟩,
          targets, htargets, hout, hall⟩

/-- The action of a rule whose backends name these Service ports. -/
def actionOn (rule : RouteRule) (route : ObjectRef) (field : String) (filters : RuleFilters)
    (targets : List BackendTarget) : Except Fault RuleAction :=
  match filters.redirect with
  | some redirect => redirect.ruleAction route field
  | none => do
    let change ← rewriteChange route field filters.rewrite
    let clusters ← weighTargets route field 0 [] (rule.backendRefs.zip targets)
    forwardAction route field filters.rewrite change clusters

theorem run_ruleAction_eq_ok_iff {rule : RouteRule} {snapshot : Snapshot} {rules : ClusterRules}
    {route : ObjectRef} {field : String} {filters : RuleFilters} {built built' : BackendClusters}
    {action : RuleAction} :
    (rule.ruleAction snapshot rules route field filters).run built = .ok (action, built') ↔
      ∃ targets,
        rule.targets snapshot route field filters = .ok targets ∧
        rule.actionOn route field filters targets = .ok action ∧
        rules.registerAll built targets = .ok built' := by
  cases hredirect : filters.redirect with
  | some redirect =>
      simp only [ruleAction, targets, actionOn, hredirect, run_liftM_eq_ok, Option.isSome_some,
        if_true, Except.ok.injEq, exists_eq_left', ClusterRules.registerAll, List.foldlM_nil,
        pure_eq_ok]
  | none =>
      simp only [ruleAction, backendAction, targets, resolveAll, actionOn, hredirect,
        StateT.run_bind, bind_eq_ok, Prod.exists, run_liftM_eq_ok, run_weigh_eq_ok_iff,
        Option.isSome_none, Bool.false_eq_true, if_false]
      constructor
      · rintro ⟨change, _, ⟨hchange, rfl⟩, clusters, _, ⟨targets, htargets, hweigh, hall⟩, haction,
          rfl⟩
        exact ⟨targets, htargets, ⟨change, hchange, clusters, hweigh, haction⟩, hall⟩
      · rintro ⟨targets, htargets, ⟨change, hchange, clusters, hweigh, haction⟩, hall⟩
        exact ⟨change, built, ⟨hchange, rfl⟩, clusters, built', ⟨targets, htargets, hweigh, hall⟩,
          haction, rfl⟩

/-- The outline of the rule at a place in its route. -/
def outline (rule : RouteRule) (snapshot : Snapshot) (route : HttpRoute) (ruleIndex : Nat) :
    Except Fault Outline := do
  let field := field ruleIndex
  let filters ← RuleFilters.read route.ref field rule.filters
  let targets ← rule.targets snapshot route.ref field filters
  let action ← rule.actionOn route.ref field filters targets
  let routes ← rule.routesFor route ruleIndex field filters action
  return ⟨routes, targets⟩

/-- The planned route of the match at a place in the rule. -/
def routeAt (rule : RouteRule) (snapshot : Snapshot) (route : HttpRoute)
    (ruleIndex matchIndex : Nat) (m : RouteMatch) : Except Fault RoutePlan := do
  let field := field ruleIndex
  let filters ← RuleFilters.read route.ref field rule.filters
  let targets ← rule.targets snapshot route.ref field filters
  let action ← rule.actionOn route.ref field filters targets
  routeFor route ruleIndex field filters action matchIndex m

/-- The outline of a rule has the planned routes of its matches, in declared order. -/
theorem map_routes_of_outline {rule : RouteRule} {snapshot : Snapshot} {route : HttpRoute}
    {ruleIndex : Nat} {outline : Outline}
    (h : rule.outline snapshot route ruleIndex = .ok outline) :
    outline.routes.map .ok = rule.effectiveMatches.zipIdx.map fun (m, matchIndex) =>
      rule.routeAt snapshot route ruleIndex matchIndex m := by
  simp only [RouteRule.outline, bind_eq_ok, pure_eq_ok] at h
  obtain ⟨filters, hfilters, targets, htargets, action, haction, routes, hroutes, rfl⟩ := h
  have heach : ∀ (m : RouteMatch) (matchIndex : Nat),
      rule.routeAt snapshot route ruleIndex matchIndex m =
        routeFor route ruleIndex (field ruleIndex) filters action matchIndex m := by
    intro m matchIndex
    simp only [routeAt, hfilters, htargets, haction, ok_bind]
  simp only [heach]
  exact map_eq_of_mapM hroutes fun _ _ hroute => hroute.symm

theorem name_of_routeFor {route : HttpRoute} {ruleIndex matchIndex : Nat} {field : String}
    {filters : RuleFilters} {action : RuleAction} {m : RouteMatch} {plan : RoutePlan}
    (h : routeFor route ruleIndex field filters action matchIndex m = .ok plan) :
    plan.name = some (Naming.route route.key ruleIndex matchIndex) := by
  rw [routeFor, bind_eq_ok] at h
  obtain ⟨_, _, hplan⟩ := h
  rw [pure_eq_ok] at hplan
  rw [← hplan]

/-- The names of the planned routes of a rule: one for each match, by its place. -/
def plannedNames (rule : RouteRule) (route : ObjectKey) (ruleIndex : Nat) : List String :=
  rule.effectiveMatches.zipIdx.map fun (_, matchIndex) => Naming.route route ruleIndex matchIndex

theorem map_name_of_outline {rule : RouteRule} {snapshot : Snapshot} {route : HttpRoute}
    {ruleIndex : Nat} {outline : Outline}
    (h : rule.outline snapshot route ruleIndex = .ok outline) :
    outline.routes.map (·.name) = (rule.plannedNames route.key ruleIndex).map some := by
  simp only [RouteRule.outline, bind_eq_ok, pure_eq_ok] at h
  obtain ⟨filters, _, targets, _, action, _, routes, hroutes, rfl⟩ := h
  rw [plannedNames, List.map_map]
  exact map_eq_of_mapM hroutes fun _ _ hroute => name_of_routeFor hroute

theorem run_plans_eq_ok_iff {rule : RouteRule} {snapshot : Snapshot} {rules : ClusterRules}
    {route : HttpRoute} {ruleIndex : Nat} {built built' : BackendClusters}
    {plans : List RoutePlan} :
    (rule.plans snapshot rules route ruleIndex).run built = .ok (plans, built') ↔
      ∃ targets,
        rule.outline snapshot route ruleIndex = .ok ⟨plans, targets⟩ ∧
        rules.registerAll built targets = .ok built' := by
  simp only [RouteRule.plans, outline, StateT.run_bind, bind_eq_ok, Prod.exists, run_liftM_eq_ok,
    run_ruleAction_eq_ok_iff, pure_eq_ok, Outline.mk.injEq]
  constructor
  · rintro ⟨filters, _, ⟨hfilters, rfl⟩, action, _, ⟨targets, htargets, haction, hall⟩, hroutes,
      rfl⟩
    exact ⟨targets, ⟨filters, hfilters, targets, htargets, action, haction, plans, hroutes, rfl,
      rfl⟩, hall⟩
  · rintro ⟨_, ⟨filters, hfilters, targets, htargets, action, haction, _, hroutes, rfl, rfl⟩, hall⟩
    exact ⟨filters, built, ⟨hfilters, rfl⟩, action, built', ⟨targets, htargets, haction, hall⟩,
      hroutes, rfl⟩

theorem run_mapM_plans_eq_ok_iff {snapshot : Snapshot} {rules : ClusterRules} {route : HttpRoute}
    {entries : List (RouteRule × Nat)} {built built' : BackendClusters}
    {plans : List (List RoutePlan)} :
    (entries.mapM fun (entry : RouteRule × Nat) =>
        entry.1.plans snapshot rules route entry.2).run built = .ok (plans, built') ↔
      ∃ outlines,
        (entries.mapM fun (entry : RouteRule × Nat) =>
          entry.1.outline snapshot route entry.2) = .ok outlines ∧
        outlines.map (·.routes) = plans ∧
        rules.registerAll built (outlines.flatMap (·.targets)) = .ok built' := by
  induction entries generalizing built built' plans with
  | nil =>
      simp only [List.mapM_nil, StateT.run_pure, pure_eq_ok, Prod.mk.injEq, exists_eq_left',
        List.map_nil, List.flatMap_nil, ClusterRules.registerAll, List.foldlM_nil]
  | cons entry entries ih =>
      simp only [List.mapM_cons, StateT.run_bind, StateT.run_pure, bind_eq_ok, Prod.exists,
        run_plans_eq_ok_iff, ih, pure_eq_ok, Prod.mk.injEq]
      constructor
      · rintro ⟨first, next, ⟨targets, houtline, hfirst⟩, _, _, ⟨outlines, hrest, rfl, hall⟩, rfl,
          rfl⟩
        refine ⟨⟨first, targets⟩ :: outlines, ⟨_, houtline, _, hrest, rfl⟩, rfl, ?_⟩
        rw [List.flatMap_cons, ClusterRules.registerAll_append, bind_eq_ok]
        exact ⟨next, hfirst, hall⟩
      · rintro ⟨_, ⟨⟨first, targets⟩, houtline, outlines, hrest, rfl⟩, rfl, hall⟩
        rw [List.flatMap_cons, ClusterRules.registerAll_append, bind_eq_ok] at hall
        obtain ⟨next, hfirst, hall⟩ := hall
        exact ⟨first, next, ⟨targets, houtline, hfirst⟩, _, built', ⟨outlines, hrest, rfl, hall⟩,
          rfl, rfl⟩

end RouteRule

namespace HttpRoute

/-- The outline of a route, rule after rule. -/
def outline (route : HttpRoute) (snapshot : Snapshot) : Except Fault Outline := do
  let outlines ← route.rules.zipIdx.mapM fun (rule, index) => rule.outline snapshot route index
  return ⟨outlines.flatMap (·.routes), outlines.flatMap (·.targets)⟩

/-- What each match of each rule is planned as, in declared order. -/
def routesAt (route : HttpRoute) (snapshot : Snapshot) : List (Except Fault RoutePlan) :=
  route.rules.zipIdx.flatMap fun (rule, ruleIndex) =>
    rule.effectiveMatches.zipIdx.map fun (m, matchIndex) =>
      rule.routeAt snapshot route ruleIndex matchIndex m

theorem map_routes_of_outline {route : HttpRoute} {snapshot : Snapshot} {outline : Outline}
    (h : route.outline snapshot = .ok outline) :
    outline.routes.map .ok = route.routesAt snapshot := by
  simp only [HttpRoute.outline, bind_eq_ok, pure_eq_ok] at h
  obtain ⟨outlines, houtlines, rfl⟩ := h
  rw [routesAt, List.map_flatMap]
  exact flatMap_eq_of_mapM houtlines fun _ _ hrule => RouteRule.map_routes_of_outline hrule

/-- The names of the planned routes of a route, rule after rule. -/
def plannedNames (route : HttpRoute) : List String :=
  route.rules.zipIdx.flatMap fun (rule, ruleIndex) => rule.plannedNames route.key ruleIndex

theorem map_name_of_outline {route : HttpRoute} {snapshot : Snapshot} {outline : Outline}
    (h : route.outline snapshot = .ok outline) :
    outline.routes.map (·.name) = route.plannedNames.map some := by
  simp only [HttpRoute.outline, bind_eq_ok, pure_eq_ok] at h
  obtain ⟨outlines, houtlines, rfl⟩ := h
  rw [plannedNames, List.map_flatMap, List.map_flatMap]
  exact flatMap_eq_of_mapM houtlines fun _ _ hrule => RouteRule.map_name_of_outline hrule

/-- Planning a route succeeds exactly when it has an outline whose Service ports can be registered;
the planned routes are those of the outline. -/
theorem run_plans_eq_ok_iff {route : HttpRoute} {snapshot : Snapshot} {rules : ClusterRules}
    {built built' : BackendClusters} {plans : List RoutePlan} :
    (route.plans snapshot rules).run built = .ok (plans, built') ↔
      ∃ targets,
        route.outline snapshot = .ok ⟨plans, targets⟩ ∧
        rules.registerAll built targets = .ok built' := by
  simp only [HttpRoute.plans, outline, StateT.run_bind, StateT.run_pure, bind_eq_ok, Prod.exists,
    RouteRule.run_mapM_plans_eq_ok_iff, pure_eq_ok, Prod.mk.injEq, Outline.mk.injEq]
  constructor
  · rintro ⟨_, _, ⟨outlines, houtlines, rfl, hall⟩, rfl, rfl⟩
    exact ⟨_, ⟨outlines, houtlines, List.flatMap_def, rfl⟩, hall⟩
  · rintro ⟨_, ⟨outlines, houtlines, rfl, rfl⟩, hall⟩
    exact ⟨_, built', ⟨outlines, houtlines, rfl, hall⟩, List.flatMap_def.symm, rfl⟩

end HttpRoute

end GatewayCompiler
