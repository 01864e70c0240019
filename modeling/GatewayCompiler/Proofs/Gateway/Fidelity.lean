import GatewayCompiler.Proofs.Gateway.Inventory
import GatewayCompiler.Proofs.Gateway.References
import GatewayCompiler.Proofs.Naming

/-!
# Endpoints behind the names of clusters

Clusters are kept under their names and not under the Services they are built for.  The traffic for
a Service goes to that Service as long as different Services have clusters of different names.  They
do when no namespace has a slash in its name, and need not where one has.
-/

namespace GatewayCompiler

/-- The load assignment that a graph has for a cluster. -/
def Graph.assignment? (graph : Graph) (name : String) : Option Envoy.LoadAssignment :=
  graph.loadAssignments.items.find? (·.clusterName == name)

namespace Translator

/-- A run that is asked for the cluster of a backend of a route answers with this name. -/
def Uses (translator : Translator) (entry : RouteBackend) (name : String) : Prop :=
  ∃ field built built',
    (entry.backend.cluster translator.snapshot translator.clusterRules entry.route.ref field).run
      built = .ok (name, built')

/-- What it is that a graph sends traffic where the followed backends lead. -/
structure IsFaithful (translator : Translator) (gateway : Gateway) (graph : Graph) : Prop where
  used : ∀ entry ∈ gateway.followed translator.snapshot, ∃ name, translator.Uses entry name
  /-- The assignment under the name that is used for a backend has the endpoint of the Service port
  that the backend leads to and no other. -/
  endpoint : ∀ entry ∈ gateway.followed translator.snapshot, ∀ name, translator.Uses entry name →
    ∃ target endpoint,
      entry.target? translator.snapshot = some target ∧
      translator.policy.endpoint target.service target.port = .ok endpoint ∧
      graph.assignment? name = some ⟨name, [[endpoint.toEndpoint]]⟩
  /-- Backends that lead to different Services use different names. -/
  apart : ∀ entry ∈ gateway.followed translator.snapshot,
    ∀ other ∈ gateway.followed translator.snapshot, ∀ name,
      translator.Uses entry name → translator.Uses other name → entry.service = other.service

end Translator

/-- No backend that a translation of the Gateway follows names a namespace with a slash. -/
def Gateway.FollowsPlain (gateway : Gateway) (snapshot : Snapshot) : Prop :=
  ∀ entry ∈ gateway.followed snapshot, '/' ∉ entry.service.ns.toList

namespace Snapshot

variable {snapshot : Snapshot} {entry other : RouteBackend} {target target' : BackendTarget}

/-- Backends of namespaces without a slash that lead to clusters of one name lead to one Service and
one port number. -/
theorem eq_of_clusterName_eq (hentry : entry.target? snapshot = some target)
    (hother : other.target? snapshot = some target')
    (hplain : '/' ∉ entry.service.ns.toList) (hplain' : '/' ∉ other.service.ns.toList)
    (hname : target.clusterName = target'.clusterName) :
    target.service = target'.service ∧ target.port.port = target'.port.port := by
  have hkey : target.service.key = entry.service := BackendRef.key_of_target? hentry
  have hkey' : target'.service.key = other.service := BackendRef.key_of_target? hother
  have hsame : target.service.key = target'.service.key ∧ target.port.port = target'.port.port := by
    apply Naming.eq_of_cluster_eq
    · rw [hkey]
      exact hplain
    · rw [hkey']
      exact hplain'
    · exact hname
  have hfound : snapshot.service? target.service.key = some target.service := by
    rw [hkey]
    exact (BackendRef.service?_of_target? hentry).1
  have hfound' : snapshot.service? target'.service.key = some target'.service := by
    rw [hkey']
    exact (BackendRef.service?_of_target? hother).1
  rw [hsame.1, hfound', Option.some.injEq] at hfound
  exact ⟨hfound.symm, hsame.2⟩

end Snapshot

/-- An assembled graph has the assignment of each cluster under the name of the cluster. -/
theorem Graph.assignment?_assemble {rules : ClusterRules} {targets : List BackendTarget}
    {backends : BackendClusters} {backend : BackendCluster} (parts : List ListenerPart)
    (hall : rules.registerAll ∅ targets = .ok backends) (hmem : backend ∈ backends.items) :
    (assemble parts backends.items).assignment? backend.assignment.clusterName =
      some backend.assignment := by
  apply Roster.find?_items_of_mem
  rw [items_loadAssignments_assemble hall]
  exact List.mem_map_of_mem hmem

namespace Gateway

variable {gateway : Gateway} {snapshot : Snapshot} {settings : Settings}
  {parts : List ListenerPart} {entry : RouteBackend}

/-- Every followed backend is resolved. -/
theorem exists_resolve_of_parts (hparts : gateway.parts snapshot settings = .ok parts)
    (hentry : entry ∈ gateway.followed snapshot) :
    ∃ field target, entry.backend.resolve snapshot entry.route.ref field = .ok target := by
  obtain ⟨listener, hlistener, hserved⟩ := List.mem_flatMap.1 hentry
  obtain ⟨route, hroute, hbackends⟩ := List.mem_flatMap.1 hserved
  obtain ⟨backend, hbackend, rfl⟩ := List.mem_map.1 hbackends
  obtain ⟨rule, hrule, hfollowed⟩ := List.mem_flatMap.1 hbackend
  obtain ⟨hfilters, hmem⟩ := RouteRule.mem_followed_iff.1 hfollowed
  obtain ⟨index, part, hpart⟩ := exists_eq_ok_at_place hparts hlistener
  obtain ⟨outline, houtline⟩ := Listener.exists_outline_of_part hpart hroute
  exact HttpRoute.exists_resolve_of_outline houtline hrule hfilters hmem

end Gateway

namespace Translator

variable {translator : Translator} {key : ObjectKey} {gateway : Gateway} {graph : Graph}
  {entry other : RouteBackend} {name : String}

theorem exists_target_of_uses (h : translator.Uses entry name) :
    ∃ target, entry.target? translator.snapshot = some target ∧ target.clusterName = name := by
  obtain ⟨field, built, built', hrun⟩ := h
  obtain ⟨target, hresolve, hname, _⟩ := BackendRef.run_cluster_eq_ok_iff.1 hrun
  exact ⟨target, (BackendRef.resolve_eq_ok_iff.1 hresolve).2.2.2, hname⟩

/-- Once the cluster of a backend is there, asking for it answers with its name. -/
theorem uses_of_mem_names {field : String} {target : BackendTarget} {built : BackendClusters}
    (hresolve : entry.backend.resolve translator.snapshot entry.route.ref field = .ok target)
    (hmem : target.clusterName ∈ built.names) : translator.Uses entry target.clusterName := by
  have hregister : translator.clusterRules.register built target = .ok built :=
    ClusterRules.register_eq_ok_iff.2 (.inl ⟨hmem, rfl⟩)
  exact ⟨field, built, built,
    BackendRef.run_cluster_eq_ok_iff.2 ⟨target, hresolve, rfl, hregister⟩⟩

/-- Backends of namespaces without a slash that use one name lead to one Service. -/
theorem service_eq_of_uses (hplain : '/' ∉ entry.service.ns.toList)
    (hplain' : '/' ∉ other.service.ns.toList) (h : translator.Uses entry name)
    (h' : translator.Uses other name) : entry.service = other.service := by
  obtain ⟨target, htarget, hname⟩ := exists_target_of_uses h
  obtain ⟨target', htarget', hname'⟩ := exists_target_of_uses h'
  obtain ⟨hservice, _⟩ := Snapshot.eq_of_clusterName_eq htarget htarget' hplain hplain'
    (hname.trans hname'.symm)
  calc entry.service = target.service.key := (BackendRef.key_of_target? htarget).symm
    _ = target'.service.key := by rw [hservice]
    _ = other.service := BackendRef.key_of_target? htarget'

section Assembled

variable {parts : List ListenerPart} {backends : BackendClusters}

theorem exists_uses_of_parts
    (hparts : gateway.parts translator.snapshot translator.settings = .ok parts)
    (hall : translator.clusterRules.registerAll ∅ (parts.flatMap (·.targets)) = .ok backends)
    (hentry : entry ∈ gateway.followed translator.snapshot) :
    ∃ name, translator.Uses entry name := by
  obtain ⟨field, target, hresolve⟩ := Gateway.exists_resolve_of_parts hparts hentry
  have htarget : entry.target? translator.snapshot = some target :=
    (BackendRef.resolve_eq_ok_iff.1 hresolve).2.2.2
  have hmem := (Gateway.mem_targets_iff hparts).2 ⟨entry, hentry, htarget⟩
  have hname : target.clusterName ∈ backends.names :=
    (ClusterRules.mem_names_registerAll hall).2 (.inr (List.mem_map_of_mem hmem))
  exact ⟨target.clusterName, uses_of_mem_names hresolve hname⟩

theorem assignment?_of_uses
    (hparts : gateway.parts translator.snapshot translator.settings = .ok parts)
    (hall : translator.clusterRules.registerAll ∅ (parts.flatMap (·.targets)) = .ok backends)
    (hplain : gateway.FollowsPlain translator.snapshot)
    (hentry : entry ∈ gateway.followed translator.snapshot) (huses : translator.Uses entry name) :
    ∃ target endpoint,
      entry.target? translator.snapshot = some target ∧
      translator.policy.endpoint target.service target.port = .ok endpoint ∧
      (Graph.assemble parts backends.items).assignment? name =
        some ⟨name, [[endpoint.toEndpoint]]⟩ := by
  obtain ⟨target, htarget, rfl⟩ := exists_target_of_uses huses
  have hmem := (Gateway.mem_targets_iff hparts).2 ⟨entry, hentry, htarget⟩
  obtain ⟨backend, hbackend, first, hfirst, endpoint, hname, hendpoint, hassignment⟩ :=
    ClusterRules.exists_endpoint_of_registerAll hall hmem
  -- The cluster may have been built for another backend, but then one of the same Service port.
  obtain ⟨origin, horigin, hleads⟩ := (Gateway.mem_targets_iff hparts).1 hfirst
  obtain ⟨hservice, hport⟩ := Snapshot.eq_of_clusterName_eq hleads htarget
    (hplain origin horigin) (hplain entry hentry) hname
  have hpolicy : translator.policy.endpoint target.service target.port = .ok endpoint := by
    rw [← hservice, ← translator.policy.endpoint_congr first.service hport]
    exact hendpoint
  have hfound := Graph.assignment?_assemble parts hall hbackend
  rw [hassignment] at hfound
  exact ⟨target, endpoint, htarget, hpolicy, hfound⟩

end Assembled

/-- Where no followed namespace has a slash in its name, a translation that succeeds sends the
traffic of every backend to the Service that the backend names. -/
theorem isFaithful_of_translate (hgateway : translator.snapshot.gateway? key = some gateway)
    (h : (translator.translate key).outcome = .ok graph)
    (hplain : gateway.FollowsPlain translator.snapshot) : translator.IsFaithful gateway graph := by
  obtain ⟨parts, backends, hparts, hall, rfl⟩ := exists_parts_of_translate hgateway h
  refine ⟨?_, ?_, ?_⟩
  · intro entry hentry
    exact exists_uses_of_parts hparts hall hentry
  · intro entry hentry name huses
    exact assignment?_of_uses hparts hall hplain hentry huses
  · intro entry hentry other hother name huses huses'
    exact service_eq_of_uses (hplain entry hentry) (hplain other hother) huses huses'

theorem isFaithful_of_sample :
    ∃ graph, (Sample.translator.translate Sample.gateway.key).outcome = .ok graph ∧
      Sample.gateway.FollowsPlain Sample.snapshot ∧
      Sample.translator.IsFaithful Sample.gateway graph := by
  have hgateway : Sample.translator.snapshot.gateway? Sample.gateway.key = some Sample.gateway := by
    decide +kernel
  have hrun : (Sample.translator.translate Sample.gateway.key).outcome.map Graph.size = .ok 10 := by
    decide +kernel
  have hplain : Sample.gateway.FollowsPlain Sample.snapshot := by
    unfold Gateway.FollowsPlain
    decide +kernel
  obtain ⟨graph, hgraph, _⟩ := map_eq_ok.1 hrun
  exact ⟨graph, hgraph, hplain, isFaithful_of_translate hgateway hgraph hplain⟩

end Translator

namespace Sample

def plainGateway : Gateway :=
  ⟨metadata "infra" "edge", "envoy", [http]⟩

/-- A route that sends what is under its name to a Service of its namespace. -/
def lane (ns name service : String) : HttpRoute :=
  ⟨metadata ns name, [edge], [], [⟨[prefixMatch s!"/{name}"], [], [backend none service none]⟩]⟩

def left : HttpRoute := lane "a" "left" "b/c"

def right : HttpRoute := lane "a/b" "right" "c"

/-- Two namespaces of which one has a slash in its name, with a route and a Service each. -/
def slashed : Translator :=
  .ofSettings ([ApiObject.gateway plainGateway, .httpRoute left, .httpRoute right,
    .service (service "a" "b/c" "10.0.0.4"), .service (service "a/b" "c" "10.0.0.5")].foldl
      Snapshot.insert ∅) .default

end Sample

namespace Translator

theorem uses_of_run_eq_ok {translator : Translator} {entry : RouteBackend} {name : String}
    (field : String)
    (h : ((entry.backend.cluster translator.snapshot translator.clusterRules entry.route.ref
      field).run ∅).map (·.1) = .ok name) : translator.Uses entry name := by
  obtain ⟨⟨answer, built⟩, hrun, rfl⟩ := map_eq_ok.1 h
  exact ⟨field, ∅, built, hrun⟩

/-- Two Services whose clusters have one name share the cluster of the one that is met first: the
traffic for `10.0.0.5` goes to `10.0.0.4`. -/
theorem not_isFaithful_of_slashed :
    ∃ graph, (Sample.slashed.translate Sample.plainGateway.key).outcome = .ok graph ∧
      Sample.slashed.Uses ⟨Sample.left, Sample.backend none "b/c" none⟩ "a/b/c/8080" ∧
      Sample.slashed.Uses ⟨Sample.right, Sample.backend none "c" none⟩ "a/b/c/8080" ∧
      graph.assignment? "a/b/c/8080" =
        some ⟨"a/b/c/8080", [[⟨some ⟨"10.0.0.4", some 8080⟩, some 1⟩]]⟩ ∧
      ¬ Sample.slashed.IsFaithful Sample.plainGateway graph := by
  have hrun : (Sample.slashed.translate Sample.plainGateway.key).outcome.map
      (·.assignment? "a/b/c/8080") =
      .ok (some ⟨"a/b/c/8080", [[⟨some ⟨"10.0.0.4", some 8080⟩, some 1⟩]]⟩) := by
    decide +kernel
  have hleft : Sample.slashed.Uses ⟨Sample.left, Sample.backend none "b/c" none⟩
      "a/b/c/8080" := uses_of_run_eq_ok "" (by decide +kernel)
  have hright : Sample.slashed.Uses ⟨Sample.right, Sample.backend none "c" none⟩
      "a/b/c/8080" := uses_of_run_eq_ok "" (by decide +kernel)
  have hfollowed : Sample.plainGateway.followed Sample.slashed.snapshot =
      [⟨Sample.left, Sample.backend none "b/c" none⟩,
        ⟨Sample.right, Sample.backend none "c" none⟩] := by
    decide +kernel
  obtain ⟨graph, hgraph, hassignment⟩ := map_eq_ok.1 hrun
  refine ⟨graph, hgraph, hleft, hright, hassignment, ?_⟩
  intro hfaithful
  have hsame := hfaithful.apart ⟨Sample.left, Sample.backend none "b/c" none⟩ (by simp [hfollowed])
    ⟨Sample.right, Sample.backend none "c" none⟩ (by simp [hfollowed]) "a/b/c/8080" hleft hright
  exact absurd hsame (by decide)

end Translator

end GatewayCompiler
