import GatewayCompiler.Proofs.Gateway.References
import GatewayCompiler.Proofs.Routes.Conversions
import GatewayCompiler.Proofs.Routes.Targets

/-!
# Faults of a route

Every fault of planning a route is about the route, or about a Service that one of its backends
names.  A Service that is reported as absent is absent, and a reference that is reported as refused
leaves the namespace of the route and is not granted.
-/

namespace GatewayCompiler

/-- The faults that planning a route may end in. -/
inductive HttpRoute.Reports (route : HttpRoute) (snapshot : Snapshot) : Fault → Prop where
  | own {fault : Fault} (habout : fault.IsAbout route.ref) : Reports route snapshot fault
  | service {backend : BackendRef} {target : BackendTarget} {fault : Fault}
      (hbackend : backend ∈ route.followed)
      (htarget : backend.target? snapshot route.namespaceName = some target)
      (habout : fault.IsAbout target.service.ref) : Reports route snapshot fault
  | absent {backend : BackendRef} (hbackend : backend ∈ route.followed)
      (hnone : snapshot.service? (backend.serviceKey route.namespaceName) = none)
      (referrer : Option String) :
      Reports route snapshot <| .notFound
        ⟨"Service", backend.ns.getD route.namespaceName, backend.name⟩ referrer
  | refused {backend : BackendRef} (hbackend : backend ∈ route.followed)
      (hleaves : route.namespaceName ≠ backend.ns.getD route.namespaceName)
      (hnone : ¬ snapshot.Grants (backend.reference route.key)) (field : String) :
      Reports route snapshot <| .unauthorized route.ref
        ⟨"Service", backend.ns.getD route.namespaceName, backend.name⟩ field
  /-- The number of the Service port is zero. -/
  | port {backend : BackendRef} {target : BackendTarget} (hbackend : backend ∈ route.followed)
      (htarget : backend.target? snapshot route.namespaceName = some target)
      (hzero : target.port.port = 0) :
      Reports route snapshot (AssignmentPlan.portFault target.clusterName)

section Own

variable {object : ObjectRef} {field : String}

namespace RuleFilters

theorem failsOnly_body {α : Type} (name : String) (value : Option α) :
    FailsOnly (Fault.IsAbout object) (body object field name value) := by
  cases value with
  | none => exact .error (.invalid _ _)
  | some value => exact .ok value

theorem failsOnly_apply (filters : RuleFilters) (filter : RouteFilter) :
    FailsOnly (Fault.IsAbout object) (apply object field filters filter) := by
  unfold apply
  split
  case h_5 => exact .error (.unsupported _ _)
  all_goals exact .bind (failsOnly_body _ _) fun _ _ => .pure _

theorem failsOnly_applyAll (index : Nat) (seen : List String) (filters : RuleFilters)
    (list : List RouteFilter) :
    FailsOnly (Fault.IsAbout object) (applyAll object field index seen filters list) := by
  induction list generalizing index seen filters with
  | nil => exact .ok filters
  | cons filter list ih =>
      rw [applyAll]
      split
      · exact .throw (.invalid _ _)
      · exact .bind (failsOnly_apply filters filter) fun next _ => ih _ _ next

theorem failsOnly_read (list : List RouteFilter) :
    FailsOnly (Fault.IsAbout object) (read object field list) := by
  apply FailsOnly.bind (failsOnly_applyAll 0 [] none list)
  intro filters _
  split
  · exact .throw (.invalid _ _)
  · exact .pure _

end RuleFilters

theorem PathModifier.failsOnly_change (modifier : PathModifier) :
    FailsOnly (Fault.IsAbout object) (modifier.change object field) := by
  unfold change
  split
  · split
    · exact .ok _
    · exact .error (.invalid _ _)
  · split
    · exact .ok _
    · exact .error (.invalid _ _)
  · exact .error (.unsupported _ _)

theorem PathModifier.failsOnly_mapM_change (modifier : Option PathModifier) :
    FailsOnly (Fault.IsAbout object) (modifier.mapM (·.change object field)) := by
  cases modifier with
  | none => exact .pure _
  | some modifier => exact .bind modifier.failsOnly_change fun _ _ => .pure _

theorem RequestRedirect.failsOnly_ruleAction (redirect : RequestRedirect) :
    FailsOnly (Fault.IsAbout object) (redirect.ruleAction object field) := by
  rw [ruleAction]
  split
  · exact .throw (.invalid _ _)
  · exact .bind (PathModifier.failsOnly_mapM_change redirect.path) fun _ _ => .pure _

theorem BackendRef.failsOnly_weighIn (backend : BackendRef) (name : String)
    (clusters : List WeightedPlan) :
    FailsOnly (Fault.IsAbout object) (backend.weighIn object field name clusters) := by
  unfold weighIn
  split
  · exact .ok _
  · exact .error (.invalid _ _)

theorem BackendRef.failsOnly_portOf (backend : BackendRef) (service : Service) :
    FailsOnly (Fault.IsAbout object) (backend.portOf object service field) := by
  simp only [portOf]
  split
  · split
    · exact .pure _
    · exact .throw (.invalid _ _)
  · exact .throw (.invalid _ _)

theorem RouteRule.failsOnly_forwardAction (rewrite : Option UrlRewrite) (change : Option PathChange)
    (clusters : List WeightedPlan) :
    FailsOnly (Fault.IsAbout object) (forwardAction object field rewrite change clusters) := by
  refine .bind ?_ fun _ _ => .pure _
  simp only [forward]
  split
  · exact .pure _
  · exact .throw (.invalid _ _)

theorem RouteMatch.failsOnly_action (m : RouteMatch) (ruleAction : RuleAction) :
    FailsOnly (Fault.IsAbout object) (m.action object field ruleAction) := by
  unfold action
  split
  · exact .ok _
  · split
    · exact .ok _
    · exact .error (.invalid _ _)

end Own

theorem RouteRule.failsOnly_routesFor (rule : RouteRule) (route : HttpRoute) (ruleIndex : Nat)
    (field : String) (filters : RuleFilters) (ruleAction : RuleAction) :
    FailsOnly (Fault.IsAbout route.ref)
      (rule.routesFor route ruleIndex field filters ruleAction) := by
  apply FailsOnly.mapM
  intro entry _
  exact .bind (entry.1.failsOnly_action ruleAction) fun _ _ => .pure _

section Planning

variable {snapshot : Snapshot} {rules : ClusterRules} {route : HttpRoute} {backend : BackendRef}

theorem HttpRoute.failsOnly_of_isAbout {α : Type} {x : Except Fault α}
    (h : FailsOnly (Fault.IsAbout route.ref) x) : FailsOnly (route.Reports snapshot) x :=
  h.mono fun _ => HttpRoute.Reports.own

theorem BackendRef.failsOnly_resolve (hbackend : backend ∈ route.followed) (field : String) :
    FailsOnly (route.Reports snapshot) (backend.resolve snapshot route.ref field) := by
  simp only [resolve]
  split
  · exact .throw_bind (.own (.unsupported _ _)) _
  · split
    · exact .throw_bind (.own (.unsupported _ _)) _
    · refine .bind ?_ fun _ _ => ?_
      · intro fault hfault
        obtain ⟨rfl, hleaves, hnone⟩ := Snapshot.ensureAuthorized_eq_error_iff.1 hfault
        exact .refused hbackend hleaves hnone field
      · split
        · refine .bind ?_ fun _ _ => .pure _
          exact HttpRoute.failsOnly_of_isAbout (backend.failsOnly_portOf _)
        · rename_i hservice
          exact .throw (.absent hbackend (Option.eq_none_iff_forall_ne_some.2 hservice) _)

theorem BackendRef.failsOnly_cluster (hbackend : backend ∈ route.followed)
    (htimeout : isValidTimeout rules.connectTimeoutSeconds = true) (field : String)
    (built : BackendClusters) :
    FailsOnly (route.Reports snapshot)
      ((backend.cluster snapshot rules route.ref field).run built) := by
  apply FailsOnly.run_bind ((failsOnly_resolve hbackend field).run_liftM built)
  intro target built' hrun
  have hresolve := (run_liftM_eq_ok.1 hrun).1
  have htarget : backend.target? snapshot route.namespaceName = some target :=
    (resolve_eq_ok_iff.1 hresolve).2.2.2
  rw [ClusterRules.run_clusterFor]
  refine .map ?_ _
  unfold ClusterRules.register
  split
  · exact .ok _
  · refine .map ?_ _
    refine ClusterRules.failsOnly_build htimeout ?_ ?_
    · intro fault habout
      exact .service hbackend htarget habout
    · intro hzero
      exact .port hbackend htarget hzero

namespace RouteRule

theorem failsOnly_weigh {backends : List BackendRef}
    (hbackends : ∀ backend ∈ backends, backend ∈ route.followed)
    (htimeout : isValidTimeout rules.connectTimeoutSeconds = true) (field : String) (index : Nat)
    (clusters : List WeightedPlan) (built : BackendClusters) :
    FailsOnly (route.Reports snapshot)
      ((weigh snapshot rules route.ref field index clusters backends).run built) := by
  induction backends generalizing index clusters built with
  | nil => exact .pure _
  | cons backend backends ih =>
      have hfirst := hbackends backend List.mem_cons_self
      have hrest := ih fun other hother => hbackends other (List.mem_cons_of_mem backend hother)
      rw [weigh]
      apply FailsOnly.run_bind (BackendRef.failsOnly_cluster hfirst htimeout _ built)
      intro name built _
      refine .run_bind ?_ fun clusters built _ => hrest (index + 1) clusters built
      exact .run_liftM (HttpRoute.failsOnly_of_isAbout (backend.failsOnly_weighIn name clusters))
        built

theorem failsOnly_ruleAction {rule : RouteRule} {filters : RuleFilters}
    (hbackends : filters.redirect = none → ∀ backend ∈ rule.backendRefs, backend ∈ route.followed)
    (htimeout : isValidTimeout rules.connectTimeoutSeconds = true) (field : String)
    (built : BackendClusters) :
    FailsOnly (route.Reports snapshot)
      ((rule.ruleAction snapshot rules route.ref field filters).run built) := by
  unfold ruleAction
  split
  · rename_i redirect _
    exact .run_liftM (HttpRoute.failsOnly_of_isAbout redirect.failsOnly_ruleAction) built
  · rename_i hredirect
    refine .run_bind ?_ fun change built _ => ?_
    · exact .run_liftM (HttpRoute.failsOnly_of_isAbout (PathModifier.failsOnly_mapM_change _)) built
    · refine .run_bind ?_ fun clusters built _ => ?_
      · exact failsOnly_weigh (hbackends hredirect) htimeout field 0 [] built
      · exact .run_liftM
          (HttpRoute.failsOnly_of_isAbout (failsOnly_forwardAction _ change clusters)) built

theorem failsOnly_plans {rule : RouteRule} (hrule : rule ∈ route.rules)
    (htimeout : isValidTimeout rules.connectTimeoutSeconds = true) (ruleIndex : Nat)
    (built : BackendClusters) :
    FailsOnly (route.Reports snapshot) ((rule.plans snapshot rules route ruleIndex).run built) := by
  refine .run_bind ?_ fun filters built hread => ?_
  · exact .run_liftM (HttpRoute.failsOnly_of_isAbout (RuleFilters.failsOnly_read rule.filters))
      built
  · have hfollowed : filters.redirect = none → ∀ backend ∈ rule.backendRefs,
        backend ∈ route.followed := by
      intro hredirect backend hbackend
      have hsome := RuleFilters.isSome_redirect_of_read (run_liftM_eq_ok.1 hread).1
      rw [hredirect] at hsome
      refine List.mem_flatMap.2 ⟨rule, hrule, ?_⟩
      rw [followed, if_neg (by rw [redirects, ← hsome]; exact Bool.false_ne_true)]
      exact hbackend
    apply FailsOnly.run_bind (failsOnly_ruleAction hfollowed htimeout _ built)
    intro action built _
    exact .run_liftM (HttpRoute.failsOnly_of_isAbout
      (rule.failsOnly_routesFor route ruleIndex _ filters action)) built

end RouteRule

/-- Planning a route fails only with faults of the route. -/
theorem HttpRoute.failsOnly_plans
    (htimeout : isValidTimeout rules.connectTimeoutSeconds = true) (built : BackendClusters) :
    FailsOnly (route.Reports snapshot) ((route.plans snapshot rules).run built) := by
  refine .run_bind ?_ fun _ _ _ => .pure _
  apply FailsOnly.run_mapM
  intro entry hentry built
  have hrule : entry.1 ∈ route.rules := List.fst_mem_of_mem_zipIdx hentry
  exact RouteRule.failsOnly_plans hrule htimeout entry.2 built

end Planning

end GatewayCompiler
