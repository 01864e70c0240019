import GatewayCompiler.Proofs.Failure
import GatewayCompiler.Proofs.Routes.Clusters

/-!
# Plans that become messages

A plan becomes a message unless it does not make sense.  The plans of a translation make sense: an
action that forwards has clusters, a redirect has a status that redirects, and an endpoint has an
address.  Only the number of a Service port is taken as it is, and it may be zero.
-/

namespace GatewayCompiler

variable {P : Fault → Prop}

namespace ActionPlan

/-- Whether an action has what its message needs. -/
def IsComplete : ActionPlan → Prop
  | .forward clusters _ _ => clusters ≠ []
  | .redirect plan => plan.code?.isSome = true
  | .respond _ _ => True

theorem IsComplete.withReplacement {action : ActionPlan} (h : action.IsComplete)
    (replacement : PathReplacement) : (action.withReplacement replacement).IsComplete := by
  cases action <;> exact h

theorem failsOnly_toAction {action : ActionPlan} (h : action.IsComplete) (name : String) :
    FailsOnly P (action.toAction name) := by
  cases action with
  | forward clusters totalWeight rewrite =>
      rw [toAction, if_neg (mt List.isEmpty_iff.1 h)]
      exact .ok _
  | redirect plan =>
      obtain ⟨code, hcode⟩ := Option.isSome_iff_exists.1 h
      simp only [toAction, hcode]
      exact .ok _
  | respond status body => exact .ok _

end ActionPlan

/-- A redirect answers with a status that redirects. -/
theorem RequestRedirect.isComplete_of_ruleAction {redirect : RequestRedirect} {route : ObjectRef}
    {field : String} {action : RuleAction} (h : redirect.ruleAction route field = .ok action) :
    action.action.IsComplete := by
  have hstatus : (redirectStatuses.all fun status =>
      (Envoy.RedirectCode.ofStatus? status.toUInt32).isSome) = true := by
    decide
  rw [ruleAction] at h
  split at h
  · cases h
  · rename_i hallowed
    simp only [bind_eq_ok, pure_eq_ok] at h
    obtain ⟨_, _, rfl⟩ := h
    apply List.all_eq_true.1 hstatus
    simpa using hallowed

namespace RouteRule

/-- Traffic is forwarded only when some cluster has a weight. -/
theorem isComplete_of_forward {route : ObjectRef} {field : String} {clusters : List WeightedPlan}
    {rewrite : Option RewritePlan} {action : ActionPlan}
    (h : forward route field clusters rewrite = .ok action) : action.IsComplete := by
  simp only [forward] at h
  split at h
  · rename_i total htotal
    rw [pure_eq_ok] at h
    subst h
    split
    · trivial
    · rename_i hweight
      intro hnone
      rw [hnone, totalWeight?, List.foldlM_nil, Option.pure_def, Option.some.injEq] at htotal
      exact hweight htotal.symm
  · cases h

theorem isComplete_of_actionOn {rule : RouteRule} {route : ObjectRef} {field : String}
    {filters : RuleFilters} {targets : List BackendTarget} {action : RuleAction}
    (h : rule.actionOn route field filters targets = .ok action) : action.action.IsComplete := by
  rw [actionOn] at h
  cases hredirect : filters.redirect with
  | some redirect =>
      rw [hredirect] at h
      exact RequestRedirect.isComplete_of_ruleAction h
  | none =>
      simp only [hredirect, forwardAction, bind_eq_ok, pure_eq_ok] at h
      obtain ⟨_, _, clusters, _, plan, hplan, rfl⟩ := h
      exact isComplete_of_forward hplan

end RouteRule

theorem RouteMatch.isComplete_action {m : RouteMatch} {route : ObjectRef} {field : String}
    {ruleAction : RuleAction} {action : ActionPlan}
    (h : m.action route field ruleAction = .ok action) (hrule : ruleAction.action.IsComplete) :
    action.IsComplete := by
  unfold RouteMatch.action at h
  split at h
  · cases h
    exact hrule
  · split at h
    · cases h
      exact hrule.withReplacement _
    · cases h

theorem RouteRule.isComplete_of_outline {rule : RouteRule} {snapshot : Snapshot}
    {route : HttpRoute} {ruleIndex : Nat} {outline : Outline}
    (h : rule.outline snapshot route ruleIndex = .ok outline) :
    ∀ plan ∈ outline.routes, plan.action.IsComplete := by
  simp only [RouteRule.outline, bind_eq_ok, pure_eq_ok] at h
  obtain ⟨filters, _, targets, _, action, haction, routes, hroutes, rfl⟩ := h
  intro plan hplan
  rw [routesFor] at hroutes
  obtain ⟨place, _, hroute⟩ := exists_of_mem_mapM hroutes hplan
  simp only [routeFor, bind_eq_ok, pure_eq_ok] at hroute
  obtain ⟨planned, hplanned, rfl⟩ := hroute
  exact RouteMatch.isComplete_action hplanned (isComplete_of_actionOn haction)

theorem HttpRoute.isComplete_of_outline {route : HttpRoute} {snapshot : Snapshot}
    {outline : Outline} (h : route.outline snapshot = .ok outline) :
    ∀ plan ∈ outline.routes, plan.action.IsComplete := by
  simp only [HttpRoute.outline, bind_eq_ok, pure_eq_ok] at h
  obtain ⟨outlines, houtlines, rfl⟩ := h
  intro plan hplan
  obtain ⟨outline, houtline, hmem⟩ := List.mem_flatMap.1 hplan
  obtain ⟨entry, _, hrule⟩ := exists_of_mem_mapM houtlines houtline
  exact RouteRule.isComplete_of_outline hrule plan hmem

theorem RoutePlan.failsOnly_toRoute {plan : RoutePlan} (h : plan.action.IsComplete) :
    FailsOnly P plan.toRoute :=
  .bind (ActionPlan.failsOnly_toAction h _) fun _ _ => .pure _

theorem RouteConfigurationPlan.failsOnly_toConfiguration {plan : RouteConfigurationPlan}
    (h : ∀ host ∈ plan.virtualHosts, ∀ route ∈ host.routes, route.action.IsComplete) :
    FailsOnly P plan.toConfiguration := by
  have hhosts : ∀ host ∈ plan.virtualHosts, FailsOnly P host.toVirtualHost := by
    intro host hhost
    refine .bind ?_ fun _ _ => .pure _
    exact .mapM fun route hroute => RoutePlan.failsOnly_toRoute (h host hhost route hroute)
  exact .bind (.mapM hhosts) fun _ _ => .pure _

/-- What is planned for the routes of a listener becomes a route configuration. -/
theorem Listener.failsOnly_toConfiguration {listener : Listener} {snapshot : Snapshot}
    {gateway : ObjectKey} {outlines : List Outline}
    (houtlines : listener.routeOutlines snapshot gateway = .ok outlines) :
    FailsOnly P (listener.grouped snapshot gateway outlines).toConfiguration := by
  apply RouteConfigurationPlan.failsOnly_toConfiguration
  intro host hhost plan hplan
  obtain ⟨outline, houtline, hmem⟩ := exists_outline_of_mem_grouped hhost hplan
  rw [routeOutlines] at houtlines
  obtain ⟨route, _, hroute⟩ := exists_of_mem_mapM houtlines houtline
  exact HttpRoute.isComplete_of_outline hroute plan hmem

/-- What is reported of the load assignment of a Service port whose number is zero. -/
def AssignmentPlan.portFault (name : String) : Fault :=
  failedValidation "ClusterLoadAssignment" name
    "endpoints[0].port: Port must be between 1 and 65535"

namespace EndpointPolicy

variable {policy : EndpointPolicy} {service : Service} {port : ServicePort}
  {endpoint : EndpointPlan}

/-- An endpoint has an address, and the number of the Service port. -/
theorem eq_of_endpoint (h : policy.endpoint service port = .ok endpoint) :
    endpoint.address.isEmpty = false ∧ endpoint.port = port.port.toUInt32 := by
  cases policy with
  | clusterIp =>
      simp only [EndpointPolicy.endpoint] at h
      split at h
      · rename_i address haddress
        cases h
        have hfilter := (Option.filter_eq_some_iff.1 haddress).2
        rw [Bool.and_eq_true, Bool.not_eq_true'] at hfilter
        exact ⟨hfilter.1, rfl⟩
      · cases h
  | serviceDns clusterDomain =>
      cases h
      exact ⟨by simp [toString], rfl⟩

theorem problems_of_endpoint (h : policy.endpoint service port = .ok endpoint) :
    endpoint.problems 0 =
      if port.port = 0 then ["endpoints[0].port: Port must be between 1 and 65535"] else [] := by
  obtain ⟨haddress, hport⟩ := eq_of_endpoint h
  rw [EndpointPlan.problems, haddress, hport]
  by_cases hzero : port.port = 0
  · rw [if_pos hzero, hzero]
    rfl
  · have hpositive : 0 < port.port.toNat := by
      rw [Nat.pos_iff_ne_zero]
      exact fun h => hzero (UInt16.toNat_inj.1 h)
    have hlower : 1 ≤ port.port.toUInt32 := by
      rw [UInt32.le_iff_toNat_le]
      exact hpositive
    have hupper : port.port.toUInt32 ≤ 65535 := by
      rw [UInt32.le_iff_toNat_le]
      exact Nat.le_of_lt_succ port.port.toNat_lt
    simp [hzero, hlower, hupper]

/-- The load assignment of a Service port is refused exactly when the number of the port is zero. -/
theorem toAssignment_of_endpoint (h : policy.endpoint service port = .ok endpoint) (name : String) :
    AssignmentPlan.toAssignment ⟨name, [endpoint]⟩ =
      if port.port = 0 then .error (AssignmentPlan.portFault name)
      else .ok ⟨name, [[endpoint.toEndpoint]]⟩ := by
  have hproblems : AssignmentPlan.problems ⟨name, [endpoint]⟩ =
      "\n".intercalate (endpoint.problems 0) := by
    simp [AssignmentPlan.problems, EndpointPlan.allProblems]
  rw [AssignmentPlan.toAssignment, AssignmentPlan.validate, hproblems, problems_of_endpoint h]
  by_cases hzero : port.port = 0
  · simp only [if_pos hzero]
    rfl
  · simp only [if_neg hzero]
    rfl

theorem failsOnly_toCluster (h : policy.endpoint service port = .ok endpoint)
    (hport : port.port ≠ 0) {name : String} (hname : name.isEmpty = false) {seconds : UInt64}
    (htimeout : isValidTimeout seconds = true) :
    FailsOnly P (ClusterPlan.toCluster ⟨name, policy.discovery [endpoint], seconds⟩) := by
  have hproblems : ClusterPlan.problems ⟨name, policy.discovery [endpoint], seconds⟩ = [] := by
    simp [ClusterPlan.problems, htimeout, hname]
  rw [ClusterPlan.toCluster, ClusterPlan.validate, hproblems]
  refine .bind (.ok _) fun _ _ => ?_
  cases policy with
  | clusterIp => exact .pure _
  | serviceDns clusterDomain =>
      refine .bind ?_ fun _ _ => .pure _
      rw [toAssignment_of_endpoint h, if_neg hport]
      exact .ok _

end EndpointPolicy

theorem BackendTarget.clusterName_ne_empty (target : BackendTarget) :
    target.clusterName.isEmpty = false := by
  simp [clusterName, Naming.cluster, toString]

/-- Building the cluster of a Service port fails when the Service has no address, or when the number
of the port is zero. -/
theorem ClusterRules.failsOnly_build {rules : ClusterRules} {target : BackendTarget}
    (htimeout : isValidTimeout rules.connectTimeoutSeconds = true)
    (hservice : ∀ fault : Fault, fault.IsAbout target.service.ref → P fault)
    (hzero : target.port.port = 0 → P (AssignmentPlan.portFault target.clusterName)) :
    FailsOnly P (rules.build target.clusterName target.service target.port) := by
  have hendpoint : FailsOnly P (rules.policy.endpoint target.service target.port) := by
    cases rules.policy with
    | clusterIp =>
        rw [EndpointPolicy.endpoint]
        split
        · exact .ok _
        · exact .error (hservice _ (.invalid _ _))
    | serviceDns clusterDomain => exact .ok _
  refine .bind hendpoint fun endpoint hendpoint => ?_
  rw [EndpointPolicy.toAssignment_of_endpoint hendpoint]
  by_cases hport : target.port.port = 0
  · rw [if_pos hport]
    exact .bind (.error (hzero hport)) fun _ h => nomatch h
  · rw [if_neg hport]
    refine .bind (.ok _) fun _ _ => ?_
    refine .bind ?_ fun _ _ => .pure _
    exact EndpointPolicy.failsOnly_toCluster hendpoint hport target.clusterName_ne_empty htimeout

end GatewayCompiler
