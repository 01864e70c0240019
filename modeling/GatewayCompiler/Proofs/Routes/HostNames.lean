import GatewayCompiler.Proofs.Hostname.Acceptance
import GatewayCompiler.Proofs.Naming
import GatewayCompiler.Proofs.Routes.Grouping

/-!
# Names of virtual hosts

A virtual host is found by the list of its domains but named by these domains joined by commas, and
the name gives the list back only where no domain has a comma.  Hostnames of routes are texts of any
kind.  Where those of the routes that a listener serves are without commas, its virtual hosts have
names of their own, whatever the hostname of the listener; where one has a comma, two virtual hosts
can have one name.
-/

namespace GatewayCompiler

/-- Domains without commas are told by the name of their virtual host. -/
theorem Naming.eq_of_virtualHost_eq {configuration : String} {domains domains' : List String}
    (hcomma : ∀ domain ∈ domains, ',' ∉ domain.toList)
    (hcomma' : ∀ domain ∈ domains', ',' ∉ domain.toList) (hne : domains ≠ []) (hne' : domains' ≠ [])
    (h : virtualHost configuration domains = virtualHost configuration domains') :
    domains = domains' := by
  have hjoined : ",".intercalate domains = ",".intercalate domains' :=
    (String.append_right_inj _).1 h
  exact eq_of_intercalate_eq (c := ',') rfl hcomma hcomma' hne hne' hjoined

namespace Hostname

variable {host domain : String} {listener : Option String} {names shared : List String}

/-- A pattern covers only names that have the characters of its ending. -/
theorem comma_mem_of_covers (h : covers host domain = true) (hcomma : ',' ∈ host.toList) :
    ',' ∈ domain.toList := by
  unfold covers at h
  split at h
  · rename_i suffix hpattern
    rw [Bool.and_eq_true, List.isSuffixOf_iff_suffix] at h
    apply h.2.subset
    rw [hpattern] at hcomma
    simpa using hcomma
  · cases h

/-- A shared name is that of the listener, or one of the route that the listener covers. -/
theorem eq_or_mem_of_intersection? (h : intersection? listener names = some shared)
    (hmem : domain ∈ shared) :
    listener = some domain ∨
      domain ∈ names ∧ ∀ host, listener.filter (· ≠ "") = some host →
        covers host domain = true := by
  unfold intersection? at h
  generalize hhostname : listener.filter (· ≠ "") = hostname at h ⊢
  split at h
  case h_1 =>
    cases h
    cases hmem
  case h_2 =>
    cases h
    exact .inr ⟨mem_ascending.1 hmem, fun _ hnone => nomatch hnone⟩
  case h_3 =>
    cases h
    obtain rfl := List.mem_singleton.1 hmem
    exact .inl (Option.filter_eq_some_iff.1 hhostname).1
  case h_4 host _ =>
    have hlistener : listener = some host := (Option.filter_eq_some_iff.1 hhostname).1
    rw [← eq_of_nonEmpty?_eq_some h, mem_ascending, List.mem_filterMap] at hmem
    obtain ⟨name, hname, hshared⟩ := hmem
    unfold intersect? at hshared
    split_ifs at hshared with hsame hcovers
    · cases hshared
      exact .inl hlistener
    · cases hshared
      refine .inr ⟨hname, ?_⟩
      rintro _ ⟨⟩
      exact hcovers
    · cases hshared
      exact .inl hlistener

theorem ne_nil_of_intersection? (hhost : listener.filter (· ≠ "") = some host)
    (h : intersection? listener names = some shared) : shared ≠ [] := by
  unfold intersection? at h
  rw [hhost] at h
  cases names with
  | nil =>
      cases h
      exact List.cons_ne_nil _ _
  | cons name names =>
      have h : nonEmpty? (ascending ((name :: names).filterMap (intersect? host))) =
          some shared := h
      rintro rfl
      rw [eq_of_nonEmpty?_eq_some h] at h
      cases h

/-- A listener whose hostname has a comma shares nothing else with names that have none. -/
theorem eq_singleton_of_intersection? (hcomma : ',' ∈ host.toList)
    (hplain : ∀ name ∈ names, ',' ∉ name.toList)
    (h : intersection? (some host) names = some shared) : shared = [host] := by
  have hne : host ≠ "" := by
    rintro rfl
    cases hcomma
  have hhost : (some host).filter (· ≠ "") = some host :=
    Option.filter_eq_some_iff.2 ⟨rfl, decide_eq_true hne⟩
  have hsame (domain : String) (hmem : domain ∈ shared) : domain = host := by
    obtain hlistener | ⟨hname, hcovers⟩ := eq_or_mem_of_intersection? h hmem
    · exact (Option.some.inj hlistener).symm
    · exact absurd (comma_mem_of_covers (hcovers host hhost) hcomma) (hplain domain hname)
  have hascending := pairwise_of_intersection? h
  -- Every shared name is that of the listener, and ascending names do not repeat it.
  match shared with
  | [] => exact absurd rfl (ne_nil_of_intersection? hhost h)
  | [domain] => rw [hsame domain List.mem_cons_self]
  | first :: second :: rest =>
      have hlt : first < second := (List.pairwise_cons.1 hascending).1 second List.mem_cons_self
      rw [hsame first List.mem_cons_self,
        hsame second (List.mem_cons_of_mem _ List.mem_cons_self)] at hlt
      exact absurd hlt (lt_irrefl host)

end Hostname

namespace HttpRoute

variable {route : HttpRoute} {snapshot : Snapshot} {gateway : ObjectKey} {listener : Listener}
  {domain host : String}

/-- A route whose hostnames are all without commas. -/
def HasPlainHostnames (route : HttpRoute) : Prop :=
  ∀ name ∈ route.hostnames, ',' ∉ name.toList

instance (route : HttpRoute) : Decidable route.HasPlainHostnames :=
  inferInstanceAs (Decidable (∀ name ∈ route.hostnames, ',' ∉ name.toList))

theorem sharedDomains_of_comma (hplain : route.HasPlainHostnames)
    (hserved : route.isServed snapshot gateway listener = true)
    (hhost : listener.hostname = some host) (hcomma : ',' ∈ host.toList) :
    route.sharedDomains listener = [host] := by
  rw [isServed, Bool.and_eq_true, hhost] at hserved
  obtain ⟨shared, hshared⟩ := Option.isSome_iff_exists.1 hserved.2
  obtain rfl := Hostname.eq_singleton_of_intersection? hcomma hplain hshared
  rw [sharedDomains, hhost, hshared]
  rfl

theorem comma_notMem_sharedDomains (hplain : route.HasPlainHostnames)
    (hlistener : ∀ host, listener.hostname = some host → ',' ∉ host.toList)
    (hmem : domain ∈ route.sharedDomains listener) : ',' ∉ domain.toList := by
  rw [sharedDomains] at hmem
  split at hmem
  · obtain rfl := List.mem_singleton.1 hmem
    decide
  · rename_i name names hshared
    rw [← hshared] at hmem
    cases hintersection : Hostname.intersection? listener.hostname route.hostnames with
    | none =>
        rw [hintersection] at hmem
        cases hmem
    | some shared =>
        rw [hintersection] at hmem
        obtain hhost | ⟨hname, -⟩ := Hostname.eq_or_mem_of_intersection? hintersection hmem
        · exact hlistener domain hhost
        · exact hplain domain hname

/-- Routes with plain hostnames that share domains of one name with a listener share the same. -/
theorem sharedDomains_eq_of_virtualHost_eq {route' : HttpRoute} {configuration : String}
    (hplain : route.HasPlainHostnames) (hplain' : route'.HasPlainHostnames)
    (hserved : route.isServed snapshot gateway listener = true)
    (hserved' : route'.isServed snapshot gateway listener = true)
    (h : Naming.virtualHost configuration (route.sharedDomains listener) =
      Naming.virtualHost configuration (route'.sharedDomains listener)) :
    route.sharedDomains listener = route'.sharedDomains listener := by
  -- A comma in the hostname of the listener does no harm: all routes then share this name alone.
  by_cases hcomma : ∃ host, listener.hostname = some host ∧ ',' ∈ host.toList
  · obtain ⟨host, hhost, hcomma⟩ := hcomma
    rw [sharedDomains_of_comma hplain hserved hhost hcomma,
      sharedDomains_of_comma hplain' hserved' hhost hcomma]
  · have hlistener : ∀ host, listener.hostname = some host → ',' ∉ host.toList := by
      intro host hhost hmem
      exact hcomma ⟨host, hhost, hmem⟩
    exact Naming.eq_of_virtualHost_eq (fun _ => comma_notMem_sharedDomains hplain hlistener)
      (fun _ => comma_notMem_sharedDomains hplain' hlistener) sharedDomains_ne_nil
      sharedDomains_ne_nil h

end HttpRoute

theorem VirtualHostPlan.map_name_group (configuration : String)
    (entries : List (List String × List RoutePlan)) :
    (group configuration entries).map (·.name) =
      (entries.map (·.1)).eraseDups.map (Naming.virtualHost configuration) := by
  rw [group, List.map_map]
  rfl

/-- The virtual hosts of a listener have names of their own, unless a route that it serves has a
hostname with a comma. -/
theorem Listener.nodup_names_of_routeConfiguration {listener : Listener} {snapshot : Snapshot}
    {rules : ClusterRules} {gateway : ObjectKey} {built built' : BackendClusters}
    {plan : RouteConfigurationPlan}
    (hplain : ∀ route ∈ listener.servedRoutes snapshot gateway, route.HasPlainHostnames)
    (h : (listener.routeConfiguration snapshot rules gateway).run built = .ok (plan, built')) :
    (plan.virtualHosts.map (·.name)).Nodup := by
  obtain ⟨outlines, houtlines, rfl, -⟩ := run_routeConfiguration_eq_ok_iff.1 h
  have hlength := (mapM_eq_ok_iff.1 houtlines).length_eq
  rw [grouped, VirtualHostPlan.map_name_group, map_fst_entries listener hlength]
  apply List.Nodup.map_on _ (nodup_eraseDups _)
  simp only [List.mem_eraseDups, List.mem_map]
  rintro _ ⟨route, hroute, rfl⟩ _ ⟨route', hroute', rfl⟩ hname
  exact HttpRoute.sharedDomains_eq_of_virtualHost_eq (hplain route hroute) (hplain route' hroute')
    (List.mem_filter.1 hroute).2 (List.mem_filter.1 hroute').2 hname

theorem Listener.nodup_names_of_http :
    ∃ plan built,
      (Sample.http.routeConfiguration Sample.snapshot Sample.rules Sample.gateway.key).run ∅ =
        .ok (plan, built) ∧
      (∀ route ∈ Sample.http.servedRoutes Sample.snapshot Sample.gateway.key,
        route.HasPlainHostnames) ∧
      plan.virtualHosts.map (·.name) =
        ["infra/edge/http/*", "infra/edge/http/shop.example.com"] ∧
      (plan.virtualHosts.map (·.name)).Nodup := by
  have hrun : ((Sample.http.routeConfiguration Sample.snapshot Sample.rules
      Sample.gateway.key).run ∅).map (fun result => result.1.virtualHosts.map (·.name)) =
        .ok ["infra/edge/http/*", "infra/edge/http/shop.example.com"] := by
    decide +kernel
  have hplain : ∀ route ∈ Sample.http.servedRoutes Sample.snapshot Sample.gateway.key,
      route.HasPlainHostnames := by
    decide +kernel
  obtain ⟨⟨plan, built⟩, hplan, hnames⟩ := map_eq_ok.1 hrun
  exact ⟨plan, built, hplan, hplain, hnames, nodup_names_of_routeConfiguration hplain hplan⟩

namespace Sample

/-- A route with one hostname, which has a comma. -/
def joined : HttpRoute :=
  ⟨metadata "shop" "joined", [edge], ["a.example.com,b.example.com"],
    [⟨[], [], [backend none "web" none]⟩]⟩

def pair : HttpRoute :=
  ⟨metadata "shop" "pair", [edge], ["a.example.com", "b.example.com"],
    [⟨[], [], [backend none "web" none]⟩]⟩

def hosted : Snapshot :=
  [.gateway gateway, .httpRoute joined, .httpRoute pair,
    .service (service "shop" "web" "10.0.0.1")].foldl Snapshot.insert ∅

end Sample

/-- A hostname with a comma and the two hostnames that it reads like are the domains of two virtual
hosts of one name. -/
theorem Listener.not_nodup_names_of_joined :
    ∃ plan built,
      (Sample.http.routeConfiguration Sample.hosted Sample.rules Sample.gateway.key).run ∅ =
        .ok (plan, built) ∧
      plan.virtualHosts.map (fun host => (host.name, host.domains)) =
        [("infra/edge/http/a.example.com,b.example.com", ["a.example.com,b.example.com"]),
          ("infra/edge/http/a.example.com,b.example.com", ["a.example.com", "b.example.com"])] ∧
      ¬ (plan.virtualHosts.map (·.name)).Nodup := by
  have hrun : ((Sample.http.routeConfiguration Sample.hosted Sample.rules
      Sample.gateway.key).run ∅).map (fun result =>
        result.1.virtualHosts.map fun host => (host.name, host.domains)) =
      .ok [("infra/edge/http/a.example.com,b.example.com", ["a.example.com,b.example.com"]),
        ("infra/edge/http/a.example.com,b.example.com", ["a.example.com", "b.example.com"])] := by
    decide +kernel
  obtain ⟨⟨plan, built⟩, hplan, hhosts⟩ := map_eq_ok.1 hrun
  refine ⟨plan, built, hplan, hhosts, ?_⟩
  have hnames : plan.virtualHosts.map (·.name) =
      (plan.virtualHosts.map fun host => (host.name, host.domains)).map (·.1) := by
    rw [List.map_map]
    rfl
  rw [hnames, hhosts]
  decide

end GatewayCompiler
