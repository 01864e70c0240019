import GatewayCompiler.Proofs.Routes.Clusters

/-!
# Clusters and the endpoints they lead to

A cluster is built together with the load assignment that lists its one endpoint.  The policy says
whether the proxy fetches the assignment or finds it in the cluster.  Of the Service ports that are
registered, those that share the name of a cluster share the cluster of the first of them.
-/

namespace GatewayCompiler

/-- How the proxy learns the members of a cluster under a policy: it fetches the assignment under
the name of the cluster, or it resolves the addresses of the assignment that the cluster carries. -/
def EndpointPolicy.Learns (policy : EndpointPolicy) (cluster : Envoy.Cluster)
    (assignment : Envoy.LoadAssignment) : Prop :=
  match policy with
  | .clusterIp =>
    cluster.discoveryType = some Envoy.endpointDiscoveryType ∧
      cluster.endpointDiscovery = some ⟨cluster.name, some Envoy.aggregatedSource⟩ ∧
      cluster.loadAssignment = none
  | .serviceDns _ =>
    cluster.discoveryType = some Envoy.strictDnsType ∧
      cluster.endpointDiscovery = none ∧
      cluster.loadAssignment = some assignment

/-- What a cluster and the load assignment that comes with it have to do with each other. -/
structure EndpointPolicy.Pairs (policy : EndpointPolicy) (cluster : Envoy.Cluster)
    (assignment : Envoy.LoadAssignment) : Prop where
  clusterName_eq : assignment.clusterName = cluster.name
  one_endpoint : ∃ endpoint, assignment.localities = [[endpoint]]
  learned : policy.Learns cluster assignment

/-- Of a port of a Service, an endpoint depends on the number alone. -/
theorem EndpointPolicy.endpoint_congr (policy : EndpointPolicy) (service : Service)
    {port port' : ServicePort} (h : port.port = port'.port) :
    policy.endpoint service port = policy.endpoint service port' := by
  cases policy <;> simp only [endpoint, h]

theorem AssignmentPlan.eq_of_toAssignment {plan : AssignmentPlan}
    {assignment : Envoy.LoadAssignment} (h : plan.toAssignment = .ok assignment) :
    assignment = ⟨plan.clusterName, [plan.endpoints.map EndpointPlan.toEndpoint]⟩ := by
  rw [toAssignment, bind_eq_ok] at h
  obtain ⟨_, _, h⟩ := h
  exact (pure_eq_ok.1 h).symm

namespace ClusterRules

variable {rules : ClusterRules} {built : BackendClusters} {targets : List BackendTarget}
  {name : String} {service : Service} {port : ServicePort} {backend : BackendCluster}

/-- The assignment that is built for a Service port has the endpoint of the policy and no other. -/
theorem exists_endpoint_of_build (h : rules.build name service port = .ok backend) :
    ∃ endpoint, rules.policy.endpoint service port = .ok endpoint ∧
      backend.assignment = ⟨name, [[endpoint.toEndpoint]]⟩ := by
  simp only [build, bind_eq_ok, pure_eq_ok] at h
  obtain ⟨endpoint, hendpoint, assignment, hassignment, _, _, rfl⟩ := h
  exact ⟨endpoint, hendpoint, AssignmentPlan.eq_of_toAssignment hassignment⟩

theorem learns_of_build (h : rules.build name service port = .ok backend) :
    rules.policy.Learns backend.cluster backend.assignment := by
  simp only [build, bind_eq_ok, pure_eq_ok] at h
  obtain ⟨endpoint, _, assignment, hassignment, cluster, hcluster, rfl⟩ := h
  have hname := ClusterPlan.name_of_toCluster hcluster
  rw [ClusterPlan.toCluster, bind_eq_ok] at hcluster
  obtain ⟨_, _, hcluster⟩ := hcluster
  cases hpolicy : rules.policy with
  | clusterIp =>
      simp only [hpolicy, EndpointPolicy.discovery, pure_eq_ok] at hcluster
      subst hcluster
      exact ⟨rfl, rfl, rfl⟩
  | serviceDns clusterDomain =>
      -- The cluster carries an assignment of its own, made of the same plan as the other one.
      simp only [hpolicy, EndpointPolicy.discovery, bind_eq_ok, pure_eq_ok] at hcluster
      obtain ⟨carried, hcarried, rfl⟩ := hcluster
      rw [hassignment, Except.ok.injEq] at hcarried
      exact ⟨rfl, rfl, congrArg some hcarried.symm⟩

theorem pairs_of_build (h : rules.build name service port = .ok backend) :
    rules.policy.Pairs backend.cluster backend.assignment := by
  have hnamed := isNamed_of_build h
  obtain ⟨endpoint, _, hassignment⟩ := exists_endpoint_of_build h
  refine ⟨?_, ⟨endpoint.toEndpoint, ?_⟩, learns_of_build h⟩
  · rw [hnamed.assignment, hnamed.cluster]
  · rw [hassignment]

theorem pairs_of_registerAll (h : rules.registerAll ∅ targets = .ok built)
    (hmem : backend ∈ built.items) : rules.policy.Pairs backend.cluster backend.assignment := by
  obtain hnone | ⟨target, _, hbuild⟩ := exists_build_of_registerAll h hmem
  · cases hnone
  · exact pairs_of_build hbuild

/-- The cluster under the name of a Service port is the one that was built for a Service port of
that name, and the assignment that comes with it has the endpoint of that Service port. -/
theorem exists_endpoint_of_registerAll {target : BackendTarget}
    (h : rules.registerAll ∅ targets = .ok built) (hmem : target ∈ targets) :
    ∃ backend ∈ built.items, ∃ first ∈ targets, ∃ endpoint,
      first.clusterName = target.clusterName ∧
      rules.policy.endpoint first.service first.port = .ok endpoint ∧
      backend.assignment = ⟨target.clusterName, [[endpoint.toEndpoint]]⟩ := by
  have hname : target.clusterName ∈ built.names :=
    (mem_names_registerAll h).2 (.inr (List.mem_map_of_mem hmem))
  obtain ⟨backend, hbackend, hsame⟩ := List.mem_map.1 hname
  obtain hnone | ⟨first, hfirst, hbuild⟩ := exists_build_of_registerAll h hbackend
  · cases hnone
  · have hclusterName : first.clusterName = target.clusterName :=
      calc first.clusterName = backend.cluster.name := (isNamed_of_build hbuild).cluster.symm
        _ = target.clusterName := hsame
    obtain ⟨endpoint, hendpoint, hassignment⟩ := exists_endpoint_of_build hbuild
    rw [hclusterName] at hassignment
    exact ⟨backend, hbackend, first, hfirst, endpoint, hclusterName, hendpoint, hassignment⟩

/-- The clusters stand in the order in which their names are first met. -/
theorem names_registerAll (h : rules.registerAll ∅ targets = .ok built) :
    built.names = (targets.map (·.clusterName)).eraseDups := by
  induction targets using List.reverseRecOn generalizing built with
  | nil =>
      cases h
      rfl
  | append_singleton targets target ih =>
      rw [registerAll_append, bind_eq_ok] at h
      obtain ⟨earlier, hearlier, hlast⟩ := h
      have hlast : rules.register earlier target = .ok built := by
        simpa [registerAll] using hlast
      have hnames := ih hearlier
      have hseen : target.clusterName ∈ earlier.names ↔
          target.clusterName ∈ targets.map (·.clusterName) := by
        rw [hnames, List.mem_eraseDups]
      rw [List.map_append, List.map_singleton, eraseDups_concat, ← hnames]
      obtain ⟨hmem, rfl⟩ | ⟨hnew, backend, hbuild, rfl⟩ := register_eq_ok_iff.1 hlast
      · rw [if_pos (hseen.1 hmem)]
      · have hname := (isNamed_of_build hbuild).cluster
        have hitems : (earlier.add backend).items = earlier.items ++ [backend] := by
          apply Roster.items_add_of_notMem
          rw [hname]
          exact hnew
        rw [if_neg (mt hseen.2 hnew), Roster.names, hitems, List.map_append, List.map_singleton,
          hname]
        rfl

end ClusterRules

end GatewayCompiler
