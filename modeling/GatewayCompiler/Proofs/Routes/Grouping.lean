import GatewayCompiler.Proofs.FirstSeen
import GatewayCompiler.Proofs.Hostname
import GatewayCompiler.Proofs.Routes.Outline

/-!
# Grouping of routes by domains

The virtual hosts of a listener are filled while the routes are met one after another.  Told at
once, they are a grouping: one virtual host for each list of domains that a route shares with the
listener, holding the planned routes of all the routes that share just these, in order.
-/

namespace GatewayCompiler

namespace VirtualHostPlan

variable {configuration : String} {domains : List String} {routes : List RoutePlan}

/-- The virtual host of a list of domains. -/
def onDomains (configuration : String) (routesOf : List String → List RoutePlan)
    (domains : List String) : VirtualHostPlan :=
  ⟨Naming.virtualHost configuration domains, domains, routesOf domains⟩

@[simp]
theorem domains_onDomains (configuration : String) (routesOf : List String → List RoutePlan)
    (domains : List String) : (onDomains configuration routesOf domains).domains = domains :=
  rfl

/-- The virtual hosts of planned routes that come with the domains they serve. -/
def group (configuration : String) (entries : List (List String × List RoutePlan)) :
    List VirtualHostPlan :=
  (entries.map (·.1)).eraseDups.map <| onDomains configuration fun domains =>
    (entries.filter (·.1 = domains)).flatMap (·.2)

/-- Adding routes to virtual hosts of different domains gives the hosts of these domains and, where
the domains are new, one more. -/
theorem addRoutes_map_onDomains {routesOf : List String → List RoutePlan}
    {seen : List (List String)} (hnodup : seen.Nodup)
    (hnew : domains ∉ seen → routesOf domains = []) :
    addRoutes configuration domains routes (seen.map (onDomains configuration routesOf)) =
      (if domains ∈ seen then seen else seen ++ [domains]).map
        (onDomains configuration fun other =>
          routesOf other ++ if domains = other then routes else []) := by
  induction seen with
  | nil =>
      have hempty : routesOf domains = [] := hnew List.not_mem_nil
      simp [addRoutes, onDomains, hempty]
  | cons first seen ih =>
      obtain ⟨hfirst, hseen⟩ := List.nodup_cons.1 hnodup
      rw [List.map_cons, addRoutes, domains_onDomains]
      by_cases hsame : first = domains
      · subst hsame
        -- The domains occur once, so the hosts after this one stay as they are.
        rw [if_pos rfl, if_pos List.mem_cons_self, List.map_cons]
        congr 1
        · simp [onDomains]
        · apply List.map_congr_left
          intro other hother
          have hother : first ≠ other := fun h => hfirst (h ▸ hother)
          simp [onDomains, hother]
      · have hmem : domains ∈ first :: seen ↔ domains ∈ seen := by
          simp [Ne.symm hsame]
        rw [if_neg hsame, ih hseen fun h => hnew (mt hmem.1 h)]
        simp only [hmem]
        split_ifs <;> simp [onDomains, Ne.symm hsame]

/-- One more entry is added to its group. -/
theorem addRoutes_group (entries : List (List String × List RoutePlan)) :
    addRoutes configuration domains routes (group configuration entries) =
      group configuration (entries ++ [(domains, routes)]) := by
  have hnew : domains ∉ (entries.map (·.1)).eraseDups →
      (entries.filter (·.1 = domains)).flatMap (·.2) = [] := by
    intro hdomains
    rw [List.mem_eraseDups] at hdomains
    rw [List.filter_eq_nil_iff.2, List.flatMap_nil]
    intro entry hentry hsame
    exact hdomains (of_decide_eq_true hsame ▸ List.mem_map_of_mem hentry)
  have hseen : (if domains ∈ (entries.map (·.1)).eraseDups then (entries.map (·.1)).eraseDups
      else (entries.map (·.1)).eraseDups ++ [domains]) =
        ((entries ++ [(domains, routes)]).map (·.1)).eraseDups := by
    rw [List.map_append, List.map_singleton, eraseDups_concat]
    simp only [List.mem_eraseDups]
  have hroutes : (fun other => (entries.filter (·.1 = other)).flatMap (·.2) ++
      if domains = other then routes else []) = fun other =>
        ((entries ++ [(domains, routes)]).filter (·.1 = other)).flatMap (·.2) := by
    funext other
    by_cases hsame : domains = other <;> simp [hsame]
  calc addRoutes configuration domains routes (group configuration entries)
      = _ := addRoutes_map_onDomains (nodup_eraseDups _) hnew
    _ = group configuration (entries ++ [(domains, routes)]) := by
        rw [hseen, hroutes, group]

theorem map_domains_group (entries : List (List String × List RoutePlan)) :
    (group configuration entries).map (·.domains) = (entries.map (·.1)).eraseDups := by
  rw [group, List.map_map]
  exact List.map_id _

/-- A virtual host has the domains of some entry and the routes of all entries with these. -/
theorem exists_entry_of_mem_group {entries : List (List String × List RoutePlan)}
    {host : VirtualHostPlan} (h : host ∈ group configuration entries) :
    (∃ entry ∈ entries, entry.1 = host.domains) ∧
      host.routes = (entries.filter (·.1 = host.domains)).flatMap (·.2) := by
  obtain ⟨domains, hseen, rfl⟩ := List.mem_map.1 h
  rw [List.mem_eraseDups] at hseen
  exact ⟨List.mem_map.1 hseen, rfl⟩

/-- Routes that are added one after another are grouped. -/
theorem foldl_addRoutes_eq_group (entries : List (List String × List RoutePlan)) :
    entries.foldl (fun hosts entry => addRoutes configuration entry.1 entry.2 hosts) [] =
      group configuration entries := by
  induction entries using List.reverseRecOn with
  | nil => rfl
  | append_singleton entries entry ih =>
      rw [List.foldl_append, ih]
      exact addRoutes_group entries

end VirtualHostPlan

namespace HttpRoute

/-- Whether the route attaches to the listener of the Gateway and shares a host with it. -/
def isServed (route : HttpRoute) (snapshot : Snapshot) (gateway : ObjectKey) (listener : Listener) :
    Bool :=
  route.attaches snapshot gateway listener &&
    (Hostname.intersection? listener.hostname route.hostnames).isSome

theorem isServed_congr {s t : Snapshot} (h : s.namespaces = t.namespaces) (route : HttpRoute)
    (gateway : ObjectKey) (listener : Listener) :
    route.isServed s gateway listener = route.isServed t gateway listener := by
  rw [isServed, isServed, attaches_congr h]

/-- The domains that the route shares with the listener, `*` when both accept every host. -/
def sharedDomains (route : HttpRoute) (listener : Listener) : List String :=
  match (Hostname.intersection? listener.hostname route.hostnames).getD [] with
  | [] => ["*"]
  | name :: names => name :: names

variable {route : HttpRoute} {snapshot : Snapshot} {gateway : ObjectKey} {listener : Listener}

theorem domains?_eq_ite :
    route.domains? snapshot gateway listener =
      if route.isServed snapshot gateway listener then some (route.sharedDomains listener)
      else none := by
  unfold domains? isServed sharedDomains
  cases route.attaches snapshot gateway listener with
  | false => simp
  | true =>
      cases Hostname.intersection? listener.hostname route.hostnames with
      | none => simp
      | some names => cases names <;> simp

theorem sharedDomains_ne_nil : route.sharedDomains listener ≠ [] := by
  unfold sharedDomains
  split <;> exact List.cons_ne_nil _ _

theorem pairwise_sharedDomains : (route.sharedDomains listener).Pairwise (· < ·) := by
  unfold sharedDomains
  split
  · exact List.pairwise_singleton _ _
  · rename_i name names hshared
    rw [← hshared]
    cases hsome : Hostname.intersection? listener.hostname route.hostnames with
    | none => exact .nil
    | some shared => exact Hostname.pairwise_of_intersection? hsome

end HttpRoute

namespace Listener

/-- The routes that the listener of the Gateway serves, in order of key. -/
def servedRoutes (listener : Listener) (snapshot : Snapshot) (gateway : ObjectKey) :
    List HttpRoute :=
  snapshot.routes.filter (·.isServed snapshot gateway listener)

/-- Which routes are served is a matter of the routes and the labels of namespaces. -/
theorem servedRoutes_congr {s t : Snapshot} (hnamespaces : s.namespaces = t.namespaces)
    (hroutes : s.httpRoutes = t.httpRoutes) (listener : Listener) (gateway : ObjectKey) :
    listener.servedRoutes s gateway = listener.servedRoutes t gateway := by
  simp only [servedRoutes, Snapshot.routes, hroutes, HttpRoute.isServed_congr hnamespaces]

/-- The outlines of the routes that the listener serves. -/
def routeOutlines (listener : Listener) (snapshot : Snapshot) (gateway : ObjectKey) :
    Except Fault (List Outline) :=
  (listener.servedRoutes snapshot gateway).mapM (·.outline snapshot)

/-- The planned routes of each of these routes with the domains it shares with the listener. -/
def entries (listener : Listener) (routes : List HttpRoute) (outlines : List Outline) :
    List (List String × List RoutePlan) :=
  (routes.map (·.sharedDomains listener)).zip (outlines.map (·.routes))

/-- The route configuration that groups the planned routes of these outlines. -/
def grouped (listener : Listener) (snapshot : Snapshot) (gateway : ObjectKey)
    (outlines : List Outline) : RouteConfigurationPlan :=
  ⟨Naming.routeConfiguration gateway listener.name,
    VirtualHostPlan.group (Naming.routeConfiguration gateway listener.name)
      (listener.entries (listener.servedRoutes snapshot gateway) outlines)⟩

variable {listener : Listener} {snapshot : Snapshot} {rules : ClusterRules} {gateway : ObjectKey}
  {built built' : BackendClusters}

theorem run_foldlM_addRoute_eq_ok_iff {routes : List HttpRoute}
    {hosts hosts' : List VirtualHostPlan} :
    (routes.foldlM (listener.addRoute snapshot rules gateway) hosts).run built =
        .ok (hosts', built') ↔
      ∃ outlines,
        (routes.filter (·.isServed snapshot gateway listener)).mapM (·.outline snapshot) =
          .ok outlines ∧
        (listener.entries (routes.filter (·.isServed snapshot gateway listener)) outlines).foldl
          (fun hosts entry => VirtualHostPlan.addRoutes
            (Naming.routeConfiguration gateway listener.name) entry.1 entry.2 hosts) hosts =
          hosts' ∧
        rules.registerAll built (outlines.flatMap (·.targets)) = .ok built' := by
  induction routes generalizing hosts built with
  | nil =>
      simp only [List.foldlM_nil, StateT.run_pure, pure_eq_ok, Prod.mk.injEq, List.filter_nil,
        List.mapM_nil, exists_eq_left', entries, List.map_nil, List.zip_nil_left, List.foldl_nil,
        List.flatMap_nil, ClusterRules.registerAll]
  | cons route routes ih =>
      rw [List.foldlM_cons, StateT.run_bind, addRoute, HttpRoute.domains?_eq_ite]
      cases hserved : route.isServed snapshot gateway listener with
      | false =>
          have hfilter : (route :: routes).filter (·.isServed snapshot gateway listener) =
              routes.filter (·.isServed snapshot gateway listener) := by
            simp [hserved]
          rw [hfilter, ← ih]
          rfl
      | true =>
          have hfilter : (route :: routes).filter (·.isServed snapshot gateway listener) =
              route :: routes.filter (·.isServed snapshot gateway listener) := by
            simp [hserved]
          simp only [hfilter, if_true, StateT.run_bind, StateT.run_pure, bind_eq_ok, Prod.exists,
            HttpRoute.run_plans_eq_ok_iff, pure_eq_ok, Prod.mk.injEq, ih, List.mapM_cons]
          constructor
          · rintro ⟨_, _, ⟨plans, next, ⟨targets, houtline, hfirst⟩, rfl, rfl⟩, outlines, hrest,
              hfold, hall⟩
            refine ⟨⟨plans, targets⟩ :: outlines, ⟨_, houtline, _, hrest, rfl⟩, hfold, ?_⟩
            rw [List.flatMap_cons, ClusterRules.registerAll_append, bind_eq_ok]
            exact ⟨next, hfirst, hall⟩
          · rintro ⟨_, ⟨⟨plans, targets⟩, houtline, outlines, hrest, rfl⟩, hfold, hall⟩
            rw [List.flatMap_cons, ClusterRules.registerAll_append, bind_eq_ok] at hall
            obtain ⟨next, hfirst, hall⟩ := hall
            exact ⟨_, next, ⟨plans, next, ⟨targets, houtline, hfirst⟩, rfl, rfl⟩, outlines, hrest,
              hfold, hall⟩

/-- Planning the routes of a listener succeeds exactly when the routes that it serves have outlines
whose Service ports can be registered, and groups the planned routes of these outlines. -/
theorem run_routeConfiguration_eq_ok_iff {plan : RouteConfigurationPlan} :
    (listener.routeConfiguration snapshot rules gateway).run built = .ok (plan, built') ↔
      ∃ outlines,
        listener.routeOutlines snapshot gateway = .ok outlines ∧
        plan = listener.grouped snapshot gateway outlines ∧
        rules.registerAll built (outlines.flatMap (·.targets)) = .ok built' := by
  simp only [routeConfiguration, StateT.run_bind, StateT.run_pure, bind_eq_ok, Prod.exists,
    run_foldlM_addRoute_eq_ok_iff, VirtualHostPlan.foldl_addRoutes_eq_group, pure_eq_ok,
    Prod.mk.injEq]
  constructor
  · rintro ⟨_, _, ⟨outlines, houtlines, rfl, hall⟩, rfl, rfl⟩
    exact ⟨outlines, houtlines, rfl, hall⟩
  · rintro ⟨outlines, houtlines, rfl, hall⟩
    exact ⟨_, built', ⟨outlines, houtlines, rfl, hall⟩, rfl, rfl⟩

end Listener

/-- What the plan of a route configuration is as a grouping of the routes that a listener of a
Gateway serves. -/
structure RouteConfigurationPlan.IsGrouping (plan : RouteConfigurationPlan) (listener : Listener)
    (snapshot : Snapshot) (gateway : ObjectKey) : Prop where
  name_eq : plan.name = Naming.routeConfiguration gateway listener.name
  /-- Routes are met in ascending order of namespace and name. -/
  ordered : (listener.servedRoutes snapshot gateway).Pairwise fun a b => compare a.key b.key = .lt
  /-- There is a virtual host for each list of shared domains, in the order in which these are first
  seen, and it has what each match of each rule of the routes that share just these is planned
  as. -/
  virtualHosts_eq :
    plan.virtualHosts.map (fun host => (host.name, host.domains, host.routes.map Except.ok)) =
      ((listener.servedRoutes snapshot gateway).map (·.sharedDomains listener)).eraseDups.map
        fun domains =>
          (Naming.virtualHost plan.name domains, domains,
            ((listener.servedRoutes snapshot gateway).filter
              (·.sharedDomains listener = domains)).flatMap (·.routesAt snapshot))
  /-- The planned routes of a virtual host are named by the places of their matches. -/
  names_eq : ∀ host ∈ plan.virtualHosts,
    host.routes.map (·.name) =
      ((listener.servedRoutes snapshot gateway).filter
        (·.sharedDomains listener = host.domains)).flatMap fun route =>
          route.plannedNames.map some
  nodup_domains : (plan.virtualHosts.map (·.domains)).Nodup
  domains_ne_nil : ∀ host ∈ plan.virtualHosts, host.domains ≠ []
  domains_ascending : ∀ host ∈ plan.virtualHosts, host.domains.Pairwise (· < ·)

namespace Listener

variable {listener : Listener} {snapshot : Snapshot} {gateway : ObjectKey}

/-- What the outlines of routes have under some domains is what the routes that share these domains
with the listener have. -/
theorem flatMap_filter_entries {β : Type} {f : RoutePlan → β} {g : HttpRoute → List β}
    {routes : List HttpRoute} {outlines : List Outline}
    (hlist : List.Forall₂ (fun route outline => route.outline snapshot = .ok outline) routes
      outlines)
    (hplanned : ∀ route outline, HttpRoute.outline route snapshot = .ok outline →
      outline.routes.map f = g route) (domains : List String) :
    (((listener.entries routes outlines).filter (·.1 = domains)).flatMap (·.2)).map f =
      (routes.filter (·.sharedDomains listener = domains)).flatMap g := by
  induction hlist with
  | nil => rfl
  | @cons route outline routes outlines hroute _ ih =>
      have hentries : listener.entries (route :: routes) (outline :: outlines) =
          (route.sharedDomains listener, outline.routes) :: listener.entries routes outlines := rfl
      rw [hentries]
      by_cases hsame : route.sharedDomains listener = domains
      · rw [List.filter_cons_of_pos (by simpa using hsame),
          List.filter_cons_of_pos (by simpa using hsame), List.flatMap_cons, List.flatMap_cons,
          List.map_append, ih, hplanned route outline hroute]
      · rw [List.filter_cons_of_neg (by simpa using hsame),
          List.filter_cons_of_neg (by simpa using hsame), ih]

theorem map_fst_entries (listener : Listener) {routes : List HttpRoute} {outlines : List Outline}
    (hlength : routes.length = outlines.length) :
    (listener.entries routes outlines).map (·.1) = routes.map (·.sharedDomains listener) := by
  rw [entries]
  exact List.map_fst_zip (by simp [hlength])

/-- The domains of a virtual host are shared by a route. -/
theorem exists_shared_of_mem_grouped {outlines : List Outline}
    (hlength : (listener.servedRoutes snapshot gateway).length = outlines.length)
    {host : VirtualHostPlan}
    (hmem : host ∈ (listener.grouped snapshot gateway outlines).virtualHosts) :
    ∃ route : HttpRoute, route.sharedDomains listener = host.domains := by
  obtain ⟨⟨entry, hentry, hsame⟩, _⟩ := VirtualHostPlan.exists_entry_of_mem_group hmem
  have hdomains : entry.1 ∈
      (listener.servedRoutes snapshot gateway).map (·.sharedDomains listener) := by
    rw [← map_fst_entries listener hlength]
    exact List.mem_map_of_mem hentry
  obtain ⟨route, _, hshared⟩ := List.mem_map.1 hdomains
  exact ⟨route, hshared.trans hsame⟩

end Listener

namespace Sample

def metadata (ns name : String) : Metadata :=
  ⟨name, some ns, ∅⟩

def listener (name : String) (port : UInt16) (protocol : String) (hostname : Option String)
    (tls : Option ListenerTls) : Listener :=
  ⟨name, port, protocol, hostname, tls, some ⟨some ⟨.all, none⟩, []⟩⟩

def http : Listener :=
  listener "http" 80 "HTTP" none none

def https : Listener :=
  listener "https" 443 "HTTPS" (some "*.example.com")
    (some ⟨.terminate, [⟨none, none, "wildcard", some "certs"⟩]⟩)

/-- A Gateway that admits routes of every namespace. -/
def gateway : Gateway :=
  ⟨metadata "infra" "edge", "envoy", [http, https]⟩

def edge : ParentRef :=
  ⟨none, none, some "infra", "edge", none, none⟩

def prefixMatch (path : String) : RouteMatch :=
  ⟨some ⟨.pathPrefix, path⟩, [], [], none⟩

def backend (ns : Option String) (name : String) (weight : Option UInt32) : BackendRef :=
  ⟨none, none, name, ns, some (.number 8080), weight, []⟩

/-- A route that refers to the Gateway twice and to a Service of another namespace. -/
def cart : HttpRoute :=
  ⟨metadata "shop" "cart", [edge, edge], ["shop.example.com"],
    [⟨[prefixMatch "/cart", prefixMatch "/basket"], [],
      [backend none "web" none, backend (some "data") "orders" (some 3)]⟩]⟩

def home : HttpRoute :=
  ⟨metadata "shop" "home", [edge], ["shop.example.com", "shop.example.com"],
    [⟨[], [], [backend none "web" none]⟩]⟩

def posts : HttpRoute :=
  ⟨metadata "blog" "posts", [edge], [], [⟨[], [], [backend none "web" none]⟩]⟩

def service (ns name address : String) : Service :=
  ⟨metadata ns name, some address, [⟨none, 8080, none⟩]⟩

def certificate : Secret :=
  ⟨metadata "certs" "wildcard", none,
    Table.ofList [("tls.crt", "Y2VydA=="), ("tls.key", "a2V5")]⟩

def grants : List ReferenceGrant :=
  [⟨metadata "data" "shop", [⟨gatewayGroup, "HTTPRoute", "shop"⟩],
      [⟨coreGroup, "Service", some "orders"⟩]⟩,
    ⟨metadata "certs" "edge", [⟨gatewayGroup, "Gateway", "infra"⟩],
      [⟨coreGroup, "Secret", none⟩]⟩]

def objects : List ApiObject :=
  [.gateway gateway, .httpRoute home, .httpRoute cart, .httpRoute posts,
    .service (service "shop" "web" "10.0.0.1"), .service (service "blog" "web" "10.0.0.2"),
    .service (service "data" "orders" "10.0.0.3"), .secret certificate] ++
    grants.map .referenceGrant

def snapshot : Snapshot :=
  objects.foldl Snapshot.insert ∅

def rules : ClusterRules :=
  ⟨.clusterIp, 5⟩

end Sample

/-- Whatever clusters are there before it and whatever the endpoint policy, a planned route
configuration groups the routes that the listener serves by the domains they share with it. -/
theorem Listener.isGrouping_of_routeConfiguration {listener : Listener} {snapshot : Snapshot}
    {rules : ClusterRules} {gateway : ObjectKey} {built built' : BackendClusters}
    {plan : RouteConfigurationPlan}
    (h : (listener.routeConfiguration snapshot rules gateway).run built = .ok (plan, built')) :
    plan.IsGrouping listener snapshot gateway := by
  obtain ⟨outlines, houtlines, rfl, _⟩ := run_routeConfiguration_eq_ok_iff.1 h
  have hlist := mapM_eq_ok_iff.1 houtlines
  have hdomains := map_fst_entries listener hlist.length_eq
  refine ⟨rfl, ?_, ?_, ?_, ?_, ?_, ?_⟩
  · exact snapshot.httpRoutes.pairwise_values.filter _
  · dsimp only [grouped]
    rw [VirtualHostPlan.group, List.map_map, hdomains]
    apply List.map_congr_left
    intro domains _
    simp only [Function.comp_apply, VirtualHostPlan.onDomains, Prod.mk.injEq, true_and]
    exact flatMap_filter_entries hlist (fun _ _ => HttpRoute.map_routes_of_outline) domains
  · intro host hmem
    rw [(VirtualHostPlan.exists_entry_of_mem_group hmem).2]
    exact flatMap_filter_entries hlist (fun _ _ => HttpRoute.map_name_of_outline) host.domains
  · dsimp only [grouped]
    rw [VirtualHostPlan.map_domains_group]
    exact nodup_eraseDups _
  · intro host hmem
    obtain ⟨route, hshared⟩ := exists_shared_of_mem_grouped hlist.length_eq hmem
    rw [← hshared]
    exact HttpRoute.sharedDomains_ne_nil
  · intro host hmem
    obtain ⟨route, hshared⟩ := exists_shared_of_mem_grouped hlist.length_eq hmem
    rw [← hshared]
    exact HttpRoute.pairwise_sharedDomains

theorem Listener.isGrouping_of_sample :
    ∃ plan built,
      (Sample.http.routeConfiguration Sample.snapshot Sample.rules Sample.gateway.key).run ∅ =
        .ok (plan, built) ∧
      plan.virtualHosts.map (fun host => (host.domains, host.routes.map (·.name))) =
        [(["*"], [some "blog/posts/rule/0/match/0"]),
          (["shop.example.com"], [some "shop/cart/rule/0/match/0", some "shop/cart/rule/0/match/1",
            some "shop/home/rule/0/match/0"])] ∧
      plan.IsGrouping Sample.http Sample.snapshot Sample.gateway.key := by
  have hrun : ((Sample.http.routeConfiguration Sample.snapshot Sample.rules
      Sample.gateway.key).run ∅).map (fun result =>
        result.1.virtualHosts.map fun host => (host.domains, host.routes.map (·.name))) =
      .ok [(["*"], [some "blog/posts/rule/0/match/0"]),
        (["shop.example.com"], [some "shop/cart/rule/0/match/0", some "shop/cart/rule/0/match/1",
          some "shop/home/rule/0/match/0"])] := by
    decide +kernel
  obtain ⟨⟨plan, built⟩, hplan, hhosts⟩ := map_eq_ok.1 hrun
  exact ⟨plan, built, hplan, hhosts, isGrouping_of_routeConfiguration hplan⟩

end GatewayCompiler
