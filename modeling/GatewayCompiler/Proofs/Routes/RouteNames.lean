import GatewayCompiler.Proofs.Naming
import GatewayCompiler.Proofs.Routes.Grouping
import Mathlib.Data.Set.Function

/-!
# Names of routes

A route is named by the place of the match that it is planned for.  Grouping moves planned routes
from one virtual host to another but loses and repeats none, so the routes of a configuration have
the names of all matches of the routes that a listener serves, each once.  They differ where no key
of a served route has a slash.
-/

namespace GatewayCompiler

namespace VirtualHostPlan

/-- Adding routes keeps those that are there. -/
theorem perm_routes_addRoutes (configuration : String) (domains : List String)
    (routes : List RoutePlan) (hosts : List VirtualHostPlan) :
    ((addRoutes configuration domains routes hosts).flatMap (·.routes)).Perm
      (hosts.flatMap (·.routes) ++ routes) := by
  induction hosts with
  | nil => simp [addRoutes]
  | cons host hosts ih =>
      rw [addRoutes, List.flatMap_cons, List.append_assoc]
      split_ifs
      · rw [List.flatMap_cons, List.append_assoc]
        exact List.perm_append_comm.append_left host.routes
      · rw [List.flatMap_cons]
        exact ih.append_left host.routes

/-- Grouping loses no planned route and repeats none. -/
theorem perm_routes_group (configuration : String)
    (entries : List (List String × List RoutePlan)) :
    ((group configuration entries).flatMap (·.routes)).Perm (entries.flatMap (·.2)) := by
  induction entries using List.reverseRecOn with
  | nil => exact .nil
  | append_singleton entries entry ih =>
      rw [← addRoutes_group, List.flatMap_append, List.flatMap_singleton]
      exact (perm_routes_addRoutes ..).trans (ih.append_right entry.2)

end VirtualHostPlan

/-- Where a match stands: the key of its route, the place of its rule and its place in the rule. -/
structure MatchPlace where
  route : ObjectKey
  ruleIndex : Nat
  matchIndex : Nat
  deriving DecidableEq, Repr

/-- The name of the route that is planned for the match. -/
def MatchPlace.name (place : MatchPlace) : String :=
  Naming.route place.route place.ruleIndex place.matchIndex

theorem MatchPlace.injOn_name : Set.InjOn name {place | place.route.IsPlain} := by
  rintro ⟨key, ruleIndex, matchIndex⟩ hkey ⟨key', ruleIndex', matchIndex'⟩ hkey' h
  obtain ⟨rfl, rfl, rfl⟩ := Naming.eq_of_route_eq hkey hkey' h
  rfl

namespace HttpRoute

/-- The places of the matches of a route, rule after rule. -/
def places (route : HttpRoute) : List MatchPlace :=
  route.rules.zipIdx.flatMap fun (rule, ruleIndex) =>
    rule.effectiveMatches.zipIdx.map fun (_, matchIndex) => ⟨route.key, ruleIndex, matchIndex⟩

theorem map_name_places (route : HttpRoute) :
    route.places.map MatchPlace.name = route.plannedNames := by
  rw [plannedNames, places, List.map_flatMap]
  simp only [RouteRule.plannedNames, List.map_map]
  rfl

theorem route_of_mem_places {route : HttpRoute} {place : MatchPlace} (h : place ∈ route.places) :
    place.route = route.key := by
  obtain ⟨rule, _, hplace⟩ := List.mem_flatMap.1 h
  obtain ⟨m, _, rfl⟩ := List.mem_map.1 hplace
  rfl

theorem nodup_places (route : HttpRoute) : route.places.Nodup := by
  apply List.nodup_flatMap.2
  constructor
  · rintro ⟨rule, ruleIndex⟩ _
    apply List.pairwise_map.2
    apply (pairwise_snd_zipIdx rule.effectiveMatches).imp
    intro a b hlt hsame
    exact hlt.ne (congrArg MatchPlace.matchIndex hsame)
  · apply (pairwise_snd_zipIdx route.rules).imp
    intro a b hlt place ha hb
    obtain ⟨m, _, rfl⟩ := List.mem_map.1 ha
    obtain ⟨m', _, hsame⟩ := List.mem_map.1 hb
    exact hlt.ne' (congrArg MatchPlace.ruleIndex hsame)

/-- The outline of a route has a planned route for each place, under its name. -/
theorem map_name_of_outline_eq_places {route : HttpRoute} {snapshot : Snapshot} {outline : Outline}
    (h : route.outline snapshot = .ok outline) :
    outline.routes.map (·.name.getD "") = route.places.map MatchPlace.name := by
  have hnames := congrArg (List.map (·.getD "")) (map_name_of_outline h)
  rw [List.map_map, List.map_map] at hnames
  rw [map_name_places]
  exact hnames.trans (List.map_id _)

end HttpRoute

namespace Listener

variable {listener : Listener} {snapshot : Snapshot} {gateway : ObjectKey} {outlines : List Outline}

/-- The places of the matches of all routes that the listener serves. -/
def places (listener : Listener) (snapshot : Snapshot) (gateway : ObjectKey) : List MatchPlace :=
  (listener.servedRoutes snapshot gateway).flatMap (·.places)

theorem nodup_places (listener : Listener) (snapshot : Snapshot) (gateway : ObjectKey) :
    (listener.places snapshot gateway).Nodup := by
  apply List.nodup_flatMap.2
  constructor
  · intro route _
    exact route.nodup_places
  · apply (snapshot.httpRoutes.pairwise_values.filter _).imp
    intro a b hlt place ha hb
    have hkey : HttpRoute.key a = HttpRoute.key b :=
      (HttpRoute.route_of_mem_places ha).symm.trans (HttpRoute.route_of_mem_places hb)
    rw [hkey, Std.ReflOrd.compare_self] at hlt
    cases hlt

theorem perm_routes_grouped (houtlines : listener.routeOutlines snapshot gateway = .ok outlines) :
    ((listener.grouped snapshot gateway outlines).virtualHosts.flatMap (·.routes)).Perm
      (outlines.flatMap (·.routes)) := by
  have hlength := (mapM_eq_ok_iff.1 houtlines).length_eq
  have hroutes : (listener.entries (listener.servedRoutes snapshot gateway) outlines).flatMap
      (·.2) = outlines.flatMap (·.routes) := by
    rw [List.flatMap_def, entries, List.map_snd_zip (by simp [hlength]), ← List.flatMap_def]
  rw [← hroutes]
  exact VirtualHostPlan.perm_routes_group _ _

end Listener

/-- The names of the routes of a configuration, virtual host after virtual host. -/
def Envoy.RouteConfiguration.routeNames (configuration : Envoy.RouteConfiguration) : List String :=
  configuration.virtualHosts.flatMap fun host => host.routes.map (·.name)

theorem RoutePlan.name_of_toRoute {plan : RoutePlan} {route : Envoy.Route}
    (h : plan.toRoute = .ok route) : route.name = plan.name.getD "" := by
  simp only [toRoute, bind_eq_ok, pure_eq_ok] at h
  obtain ⟨_, _, rfl⟩ := h
  rfl

theorem VirtualHostPlan.map_name_of_toVirtualHost {plan : VirtualHostPlan}
    {host : Envoy.VirtualHost} (h : plan.toVirtualHost = .ok host) :
    host.routes.map (·.name) = plan.routes.map (·.name.getD "") := by
  simp only [toVirtualHost, bind_eq_ok, pure_eq_ok] at h
  obtain ⟨_, hroutes, rfl⟩ := h
  exact map_eq_of_mapM hroutes fun _ _ hroute => RoutePlan.name_of_toRoute hroute

theorem RouteConfigurationPlan.routeNames_of_toConfiguration {plan : RouteConfigurationPlan}
    {configuration : Envoy.RouteConfiguration} (h : plan.toConfiguration = .ok configuration) :
    configuration.routeNames = (plan.virtualHosts.flatMap (·.routes)).map (·.name.getD "") := by
  simp only [toConfiguration, bind_eq_ok, pure_eq_ok] at h
  obtain ⟨_, hhosts, rfl⟩ := h
  rw [List.map_flatMap]
  exact flatMap_eq_of_mapM hhosts fun _ _ hhost => VirtualHostPlan.map_name_of_toVirtualHost hhost

namespace Listener

variable {listener : Listener} {snapshot : Snapshot} {gateway : ObjectKey} {outlines : List Outline}
  {configuration : Envoy.RouteConfiguration}

/-- The routes of a listener's configuration are named by the matches that it serves, each once. -/
theorem perm_routeNames (houtlines : listener.routeOutlines snapshot gateway = .ok outlines)
    (h : (listener.grouped snapshot gateway outlines).toConfiguration = .ok configuration) :
    configuration.routeNames.Perm ((listener.places snapshot gateway).map MatchPlace.name) := by
  have hnames : (outlines.flatMap (·.routes)).map (·.name.getD "") =
      (listener.places snapshot gateway).map MatchPlace.name := by
    rw [List.map_flatMap, places, List.map_flatMap]
    exact flatMap_eq_of_mapM houtlines fun _ _ houtline =>
      HttpRoute.map_name_of_outline_eq_places houtline
  rw [RouteConfigurationPlan.routeNames_of_toConfiguration h, ← hnames]
  exact (perm_routes_grouped houtlines).map _

theorem nodup_routeNames (houtlines : listener.routeOutlines snapshot gateway = .ok outlines)
    (h : (listener.grouped snapshot gateway outlines).toConfiguration = .ok configuration)
    (hplain : ∀ route ∈ listener.servedRoutes snapshot gateway, route.key.IsPlain) :
    configuration.routeNames.Nodup := by
  rw [(perm_routeNames houtlines h).nodup_iff]
  have hplaces : ∀ place ∈ listener.places snapshot gateway, place.route.IsPlain := by
    intro place hplace
    obtain ⟨route, hroute, hmem⟩ := List.mem_flatMap.1 hplace
    rw [HttpRoute.route_of_mem_places hmem]
    exact hplain route hroute
  apply List.Nodup.map_on _ (listener.nodup_places snapshot gateway)
  intro place hplace other hother hname
  exact MatchPlace.injOn_name (hplaces place hplace) (hplaces other hother) hname

end Listener

end GatewayCompiler
