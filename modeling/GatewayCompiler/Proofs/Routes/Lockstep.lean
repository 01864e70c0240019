import GatewayCompiler.Proofs.Agreement
import GatewayCompiler.Proofs.Routes.Grouping

/-!
# Planning in lockstep

Routes are planned from two snapshots, or under two sets of rules, and the runs are put beside each
other.  Planning meets the snapshot and the rules only where it asks for the cluster of a backend,
so runs that agree there agree throughout.  What it is to agree is left open: the runs may be equal,
may be equal unless one is refused, or may leave different clusters.
-/

namespace GatewayCompiler

/-- A relation between steps that may build clusters, which holds of a step that builds none and of
itself. -/
structure BuildingRelation extends StepRelation Building where
  lift : ∀ {α : Type} (x : Except Fault α), Agree (liftM x) (liftM x)

/-- Steps that are the same. -/
def BuildingRelation.same : BuildingRelation where
  Agree x y := x = y
  pure _ := rfl
  bind := by
    rintro _ _ x _ f g rfl hf
    rw [funext hf]
  lift _ := rfl

/-- Every agreement of runs is one of steps that may build clusters. -/
def Agreement.building (agreement : Agreement Building) : BuildingRelation where
  toStepRelation := agreement.steps
  lift _ := agreement.refl _

namespace BuildingRelation

variable (relation : BuildingRelation)

section Planning

variable {s t : Snapshot} {rules rules' : ClusterRules}

/-- Asking for the clusters of the backends of a route agrees. -/
def AgreeOnBackends (s t : Snapshot) (rules rules' : ClusterRules) (route : ObjectRef) : Prop :=
  ∀ (backend : BackendRef) (field : String),
    relation.Agree (backend.cluster s rules route field) (backend.cluster t rules' route field)

variable {relation}

theorem agree_weigh {route : ObjectRef} (h : relation.AgreeOnBackends s t rules rules' route)
    (field : String) (index : Nat) (clusters : List WeightedPlan) (backends : List BackendRef) :
    relation.Agree (RouteRule.weigh s rules route field index clusters backends)
      (RouteRule.weigh t rules' route field index clusters backends) := by
  induction backends generalizing index clusters with
  | nil => exact relation.pure _
  | cons backend backends ih =>
      rw [RouteRule.weigh, RouteRule.weigh]
      apply relation.bind (h backend _)
      intro name
      apply relation.bind (relation.lift _)
      intro clusters
      exact ih (index + 1) clusters

theorem agree_ruleAction {route : ObjectRef} (h : relation.AgreeOnBackends s t rules rules' route)
    (rule : RouteRule) (field : String) (filters : RuleFilters) :
    relation.Agree (rule.ruleAction s rules route field filters)
      (rule.ruleAction t rules' route field filters) := by
  rw [RouteRule.ruleAction, RouteRule.ruleAction]
  split
  · exact relation.lift _
  · apply relation.bind (relation.lift _)
    intro change
    apply relation.bind (agree_weigh h field 0 [] rule.backendRefs)
    intro clusters
    exact relation.lift _

/-- A route is planned in lockstep when its backends are. -/
theorem agree_plans {route : HttpRoute} (h : relation.AgreeOnBackends s t rules rules' route.ref) :
    relation.Agree (route.plans s rules) (route.plans t rules') := by
  have hrule : ∀ (rule : RouteRule) (ruleIndex : Nat),
      relation.Agree (rule.plans s rules route ruleIndex)
        (rule.plans t rules' route ruleIndex) := by
    intro rule ruleIndex
    rw [RouteRule.plans, RouteRule.plans]
    apply relation.bind (relation.lift _)
    intro filters
    apply relation.bind (agree_ruleAction h rule _ filters)
    intro action
    exact relation.lift _
  rw [HttpRoute.plans, HttpRoute.plans]
  apply relation.bind
  · apply relation.mapM
    rintro ⟨rule, index⟩
    exact hrule rule index
  · intro plans
    exact relation.pure _

end Planning

end BuildingRelation

namespace Listener

variable {s t : Snapshot} {rules rules' : ClusterRules} {gateway : ObjectKey}

/-- The virtual hosts after one more route that the listener serves. -/
def addServed (listener : Listener) (snapshot : Snapshot) (rules : ClusterRules)
    (gateway : ObjectKey) (hosts : List VirtualHostPlan) (route : HttpRoute) :
    Building (List VirtualHostPlan) := do
  let routes ← route.plans snapshot rules
  return VirtualHostPlan.addRoutes (Naming.routeConfiguration gateway listener.name)
    (route.sharedDomains listener) routes hosts

/-- Routes that a listener does not serve are passed over. -/
theorem routeConfiguration_eq_served (listener : Listener) :
    listener.routeConfiguration s rules gateway = (do
      let hosts ← (listener.servedRoutes s gateway).foldlM
        (listener.addServed s rules gateway) []
      return ⟨Naming.routeConfiguration gateway listener.name, hosts⟩) := by
  have hadd : ∀ hosts route, listener.addRoute s rules gateway hosts route =
      if route.isServed s gateway listener then listener.addServed s rules gateway hosts route
      else pure hosts := by
    intro hosts route
    rw [addRoute, HttpRoute.domains?_eq_ite]
    cases route.isServed s gateway listener <;> rfl
  rw [routeConfiguration, servedRoutes, List.foldlM_filter, funext₂ hadd]

/-- The route configuration of a listener is planned in lockstep when the routes that it serves are
the same and are. -/
theorem agree_routeConfiguration (relation : BuildingRelation) {listener : Listener}
    (hserved : listener.servedRoutes s gateway = listener.servedRoutes t gateway)
    (hplans : ∀ route ∈ listener.servedRoutes s gateway,
      relation.Agree (route.plans s rules) (route.plans t rules')) :
    relation.Agree (listener.routeConfiguration s rules gateway)
      (listener.routeConfiguration t rules' gateway) := by
  rw [routeConfiguration_eq_served, routeConfiguration_eq_served, ← hserved]
  apply relation.bind
  · apply relation.foldlM
    intro hosts route hroute
    apply relation.bind (hplans route hroute)
    intro routes
    exact relation.pure _
  · intro hosts
    exact relation.pure _

end Listener

end GatewayCompiler
