import GatewayCompiler.Proofs.Gateway.Fidelity
import GatewayCompiler.Proofs.Gateway.Listeners
import GatewayCompiler.Proofs.Routes.RouteNames

/-!
# Names within a Gateway

Resources are kept under their names, and the first of a name wins.  Names whose parts have no slash
tell the listeners, matches and Service ports that they are made for, so within one Gateway nothing
gives way to another: every listener is there, every match has a route of its own, and backends
share a cluster only if they lead to one Service port.
-/

namespace GatewayCompiler

namespace Gateway

/-- The routes that the listeners of the Gateway serve, listener after listener. -/
def served (gateway : Gateway) (snapshot : Snapshot) : List HttpRoute :=
  gateway.listeners.flatMap (·.servedRoutes snapshot gateway.key)

/-- No route that the Gateway serves and no Service that one of its backends names has a slash in its
key. -/
structure IsPlain (gateway : Gateway) (snapshot : Snapshot) : Prop where
  routes : ∀ route ∈ gateway.served snapshot, route.key.IsPlain
  services : ∀ entry ∈ gateway.followed snapshot, entry.service.IsPlain

end Gateway

/-- What it is that the names in a graph tell apart what a Gateway has. -/
structure Graph.TellsApart (graph : Graph) (gateway : Gateway) (snapshot : Snapshot) : Prop where
  listeners_eq : graph.listeners.names =
    gateway.listeners.map fun listener => Naming.listener gateway.key listener.name
  configurations_eq : graph.routeConfigurations.names =
    gateway.listeners.map fun listener => Naming.listener gateway.key listener.name
  nodup_listeners : (gateway.listeners.map fun listener =>
    Naming.listener gateway.key listener.name).Nodup
  /-- The configuration of a listener has one route for each match that the listener serves, and
  these routes have names of their own. -/
  routeNames : ∀ (index : Nat) (listener : Listener), gateway.listeners[index]? = some listener →
    ∃ configuration, graph.routeConfigurations.items[index]? = some configuration ∧
      configuration.routeNames.Perm
        ((listener.places snapshot gateway.key).map MatchPlace.name) ∧
      configuration.routeNames.Nodup
  /-- Matches of one name are one match, whichever listeners serve them. -/
  places : ∀ route ∈ gateway.served snapshot, ∀ other ∈ gateway.served snapshot,
    ∀ place ∈ route.places, ∀ place' ∈ other.places, place.name = place'.name →
      route = other ∧ place = place'
  /-- Backends with clusters of one name lead to one Service and one port number. -/
  servicePorts : ∀ entry ∈ gateway.followed snapshot, ∀ other ∈ gateway.followed snapshot,
    ∀ target ∈ entry.target? snapshot, ∀ target' ∈ other.target? snapshot,
      target.clusterName = target'.clusterName →
        target.service = target'.service ∧ target.port.port = target'.port.port

namespace Gateway

variable {gateway : Gateway} {snapshot : Snapshot} {settings : Settings}
  {parts : List ListenerPart} {route other : HttpRoute}

/-- A key has one route among those that are served. -/
theorem eq_of_key_eq_of_mem_served (hroute : route ∈ gateway.served snapshot)
    (hother : other ∈ gateway.served snapshot) (hkey : route.key = other.key) : route = other := by
  have hfound {served : HttpRoute} (hserved : served ∈ gateway.served snapshot) :
      snapshot.httpRoutes.get? served.key = some served := by
    obtain ⟨listener, _, hmem⟩ := List.mem_flatMap.1 hserved
    exact Catalog.mem_values_iff.1 (List.mem_filter.1 hmem).1
  have hsame : some route = some other := by
    rw [← hfound hroute, ← hfound hother, hkey]
  exact Option.some.inj hsame

/-- The name of a match tells it among the matches of all routes that the Gateway serves. -/
theorem eq_of_place_name_eq (hplain : gateway.IsPlain snapshot)
    (hroute : route ∈ gateway.served snapshot) (hother : other ∈ gateway.served snapshot)
    {place place' : MatchPlace} (hplace : place ∈ route.places) (hplace' : place' ∈ other.places)
    (h : place.name = place'.name) : route = other ∧ place = place' := by
  have hkey : place.route = route.key := HttpRoute.route_of_mem_places hplace
  have hkey' : place'.route = other.key := HttpRoute.route_of_mem_places hplace'
  have hfirst : place.route.IsPlain := hkey ▸ hplain.routes route hroute
  have hsecond : place'.route.IsPlain := hkey' ▸ hplain.routes other hother
  have hsame : place = place' := MatchPlace.injOn_name hfirst hsecond h
  refine ⟨eq_of_key_eq_of_mem_served hroute hother ?_, hsame⟩
  rw [← hkey, ← hkey', hsame]

theorem tellsApart_assemble (hplain : gateway.IsPlain snapshot)
    (hparts : gateway.parts snapshot settings = .ok parts)
    (hchecked : (checkListeners gateway 0 [] gateway.listeners).outcome = .ok ())
    (backends : List BackendCluster) :
    (Graph.assemble parts backends).TellsApart gateway snapshot := by
  have hnodup := nodup_names_of_checkListeners hchecked
  obtain ⟨hlisteners, hconfigurations⟩ := items_assemble_of_parts hparts hnodup backends
  refine ⟨?_, ?_, hnodup, ?_, ?_, ?_⟩
  · rw [Roster.names, hlisteners]
    exact map_name_listeners_of_parts hparts
  · rw [Roster.names, hconfigurations]
    exact map_name_configurations_of_parts hparts
  · intro index listener hlistener
    obtain ⟨part, hpart, hfacts⟩ := exists_getElem?_of_mapM_zipIdx hparts hlistener
    obtain ⟨outlines, houtlines, hconfiguration, _⟩ := Listener.exists_outlines_of_part hfacts
    refine ⟨part.configuration, ?_, Listener.perm_routeNames houtlines hconfiguration, ?_⟩
    · rw [hconfigurations, List.getElem?_map, hpart]
      rfl
    · apply Listener.nodup_routeNames houtlines hconfiguration
      intro route hroute
      exact hplain.routes route
        (List.mem_flatMap.2 ⟨listener, List.mem_of_getElem? hlistener, hroute⟩)
  · intro route hroute other hother place hplace place' hplace' hname
    exact eq_of_place_name_eq hplain hroute hother hplace hplace' hname
  · intro entry hentry other hother target htarget target' htarget' hname
    exact Snapshot.eq_of_clusterName_eq htarget htarget' (hplain.services entry hentry).ns
      (hplain.services other hother).ns hname

end Gateway

namespace Translator

variable {translator : Translator} {key : ObjectKey} {gateway : Gateway} {graph : Graph}

theorem tellsApart_of_translate (hgateway : translator.snapshot.gateway? key = some gateway)
    (h : (translator.translate key).outcome = .ok graph)
    (hplain : gateway.IsPlain translator.snapshot) :
    graph.TellsApart gateway translator.snapshot := by
  obtain ⟨_, found, hfound, hchecked, _⟩ := outcome_translate_eq_ok_iff.1 h
  rw [hgateway, Option.some.injEq] at hfound
  subst hfound
  obtain ⟨parts, backends, hparts, _, rfl⟩ := exists_parts_of_translate hgateway h
  exact Gateway.tellsApart_assemble hplain hparts hchecked backends.items

end Translator

namespace Naming

/-- Names of identities without slashes give these back, and names for statistics have no slash.
What a Gateway has is therefore told apart in every graph that is handed out for it. -/
theorem tellsApart_of_isPlain :
    Set.InjOn (Function.uncurry listener)
        {identity | identity.1.IsPlain ∧ '/' ∉ identity.2.toList} ∧
      Set.InjOn MatchPlace.name {place | place.route.IsPlain} ∧
      Set.InjOn (Function.uncurry cluster) {identity | identity.1.IsPlain} ∧
      (∀ name, '/' ∉ (statistics name).toList) ∧
      ∀ {translator : Translator} {key : ObjectKey} {gateway : Gateway} {graph : Graph},
        translator.snapshot.gateway? key = some gateway →
        (translator.translate key).outcome = .ok graph →
        gateway.IsPlain translator.snapshot → graph.TellsApart gateway translator.snapshot := by
  refine ⟨?_, MatchPlace.injOn_name, ?_, slash_notMem_statistics, ?_⟩
  · rintro ⟨key, name⟩ ⟨hkey, hname⟩ ⟨key', name'⟩ ⟨hkey', hname'⟩ h
    exact Prod.ext_iff.2 (eq_of_listener_eq hkey hkey' hname hname' h)
  · rintro ⟨service, port⟩ hservice ⟨service', port'⟩ hservice' h
    exact Prod.ext_iff.2 (eq_of_cluster_eq hservice.ns hservice'.ns h)
  · intro translator key gateway graph hgateway h hplain
    exact Translator.tellsApart_of_translate hgateway h hplain

theorem tellsApart_of_sample :
    ∃ graph, (Sample.translator.translate Sample.gateway.key).outcome = .ok graph ∧
      Sample.gateway.IsPlain Sample.snapshot ∧
      graph.listeners.names = ["infra/edge/http", "infra/edge/https"] ∧
      graph.routeConfigurations.items.map (·.routeNames) =
        [["blog/posts/rule/0/match/0", "shop/cart/rule/0/match/0", "shop/cart/rule/0/match/1",
            "shop/home/rule/0/match/0"],
          ["blog/posts/rule/0/match/0", "shop/cart/rule/0/match/0", "shop/cart/rule/0/match/1",
            "shop/home/rule/0/match/0"]] ∧
      graph.TellsApart Sample.gateway Sample.snapshot := by
  have hgateway : Sample.translator.snapshot.gateway? Sample.gateway.key = some Sample.gateway := by
    decide +kernel
  have hrun : (Sample.translator.translate Sample.gateway.key).outcome.map (fun graph =>
        (graph.listeners.names, graph.routeConfigurations.items.map (·.routeNames))) =
      .ok (["infra/edge/http", "infra/edge/https"],
        [["blog/posts/rule/0/match/0", "shop/cart/rule/0/match/0", "shop/cart/rule/0/match/1",
            "shop/home/rule/0/match/0"],
          ["blog/posts/rule/0/match/0", "shop/cart/rule/0/match/0", "shop/cart/rule/0/match/1",
            "shop/home/rule/0/match/0"]]) := by
    decide +kernel
  have hplain : Sample.gateway.IsPlain Sample.snapshot := ⟨by decide +kernel, by decide +kernel⟩
  obtain ⟨graph, hgraph, hfacts⟩ := map_eq_ok.1 hrun
  rw [Prod.mk.injEq] at hfacts
  obtain ⟨-, -, -, -, htellsApart⟩ := tellsApart_of_isPlain
  exact ⟨graph, hgraph, hplain, hfacts.1, hfacts.2, htellsApart hgateway hgraph hplain⟩

end Naming

end GatewayCompiler
