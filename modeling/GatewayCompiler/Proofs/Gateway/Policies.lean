import GatewayCompiler.Proofs.Gateway.Closure
import GatewayCompiler.Proofs.Routes.Conversions
import GatewayCompiler.Proofs.Routes.Lockstep
import GatewayCompiler.Proofs.Routes.Targets

/-!
# Endpoint policies side by side

A translation that hands out the cluster addresses of Services is followed step by step by one that
hands out their DNS names.  What they build differs in addresses alone, and they end alike unless
the first meets a Service that has no address.
-/

namespace GatewayCompiler

namespace Envoy

/-- The cluster without what says how its members are learned. -/
def Cluster.unaddressed (cluster : Cluster) : Cluster :=
  { cluster with discoveryType := none, endpointDiscovery := none, loadAssignment := none }

/-- Clusters that differ in how their members are learned at most. -/
def Cluster.DiffersInAddress (cluster cluster' : Cluster) : Prop :=
  cluster.unaddressed = cluster'.unaddressed

/-- Load assignments of one name with one endpoint each, which have the same port. -/
structure LoadAssignment.DiffersInAddress (assignment assignment' : LoadAssignment) : Prop where
  clusterName_eq : assignment.clusterName = assignment'.clusterName
  one_endpoint : ∃ (port : UInt32) (address address' : String),
    assignment.localities = [[⟨some ⟨address, some port⟩, some 1⟩]] ∧
      assignment'.localities = [[⟨some ⟨address', some port⟩, some 1⟩]]

theorem Cluster.DiffersInAddress.name_eq {cluster cluster' : Cluster}
    (h : cluster.DiffersInAddress cluster') : cluster.name = cluster'.name := by
  have hname : cluster.unaddressed.name = cluster'.unaddressed.name := congrArg Cluster.name h
  exact hname

end Envoy

structure BackendCluster.DiffersInAddress (backend backend' : BackendCluster) : Prop where
  cluster : backend.cluster.DiffersInAddress backend'.cluster
  assignment : backend.assignment.DiffersInAddress backend'.assignment

/-- Clusters that stand at the same places and differ in addresses at most. -/
def DifferInAddresses (built built' : BackendClusters) : Prop :=
  List.Forall₂ BackendCluster.DiffersInAddress built.items built'.items

/-- The fault of a Service of the snapshot that has no address inside the cluster. -/
inductive Snapshot.IsHeadless (snapshot : Snapshot) : Fault → Prop where
  | service {service : Service} (hservice : snapshot.service? service.key = some service)
      (haddress : service.address? = none) :
      IsHeadless snapshot (.invalid service.ref "spec.clusterIP"
        "headless Service has no cluster IP (use the service-dns endpoint policy)")

namespace ClusterRules

variable {snapshot : Snapshot} {clusterDomain : String} {seconds : UInt64} {target : BackendTarget}

/-- A plan is validated without a look at how its members are learned. -/
theorem follows_toCluster {excused : Fault → Prop} (name : String) {endpoint : EndpointPlan}
    {carried : Envoy.LoadAssignment}
    (hcarried : AssignmentPlan.toAssignment ⟨name, [endpoint]⟩ = .ok carried) :
    Follows excused Envoy.Cluster.DiffersInAddress
      (ClusterPlan.toCluster ⟨name, .assigned, seconds⟩)
      (ClusterPlan.toCluster ⟨name, .resolved [endpoint], seconds⟩) := by
  have hvalidate : ClusterPlan.validate ⟨name, .assigned, seconds⟩ =
      ClusterPlan.validate ⟨name, .resolved [endpoint], seconds⟩ := rfl
  rw [ClusterPlan.toCluster, ClusterPlan.toCluster, hvalidate]
  apply Follows.bind_same
  intro _
  simp only [hcarried]
  exact .ok rfl

/-- The cluster of a Service port is built alike, unless the Service has no address. -/
theorem follows_build (hservice : snapshot.service? target.service.key = some target.service)
    (name : String) :
    Follows snapshot.IsHeadless BackendCluster.DiffersInAddress
      (build ⟨.clusterIp, seconds⟩ name target.service target.port)
      (build ⟨.serviceDns clusterDomain, seconds⟩ name target.service target.port) := by
  cases haddress : target.service.address? with
  | none =>
      -- Only here may the two part: the other policy never asks for the address.
      rw [build, EndpointPolicy.endpoint, haddress]
      exact .excused (.service hservice haddress) _
  | some address =>
      have hendpoint : EndpointPolicy.clusterIp.endpoint target.service target.port =
          .ok ⟨address, target.port.port.toUInt32⟩ := by
        rw [EndpointPolicy.endpoint, haddress]
      obtain ⟨address', hendpoint'⟩ : ∃ address',
          (EndpointPolicy.serviceDns clusterDomain).endpoint target.service target.port =
            .ok ⟨address', target.port.port.toUInt32⟩ := ⟨_, rfl⟩
      have hassignment := EndpointPolicy.toAssignment_of_endpoint hendpoint name
      have hassignment' := EndpointPolicy.toAssignment_of_endpoint hendpoint' name
      rw [build, build, hendpoint, hendpoint', ok_bind, ok_bind, hassignment, hassignment']
      by_cases hzero : target.port.port = 0
      · rw [if_pos hzero, if_pos hzero]
        exact .fault _
      · rw [if_neg hzero] at hassignment'
        rw [if_neg hzero, if_neg hzero, ok_bind, ok_bind]
        apply (follows_toCluster name hassignment').bind
        intro cluster cluster' _ _ hcluster
        exact .ok ⟨hcluster, rfl, target.port.port.toUInt32, address, address', rfl, rfl⟩

theorem follows_register (hservice : snapshot.service? target.service.key = some target.service)
    {built built' : BackendClusters} (hbuilt : DifferInAddresses built built') :
    Follows snapshot.IsHeadless DifferInAddresses
      (register ⟨.clusterIp, seconds⟩ built target)
      (register ⟨.serviceDns clusterDomain, seconds⟩ built' target) := by
  have hname : ∀ a b : BackendCluster, a.DiffersInAddress b → a.cluster.name = b.cluster.name :=
    fun _ _ h => h.cluster.name_eq
  have hcontains : built.contains target.clusterName = built'.contains target.clusterName := by
    rw [Bool.eq_iff_iff, Roster.contains_iff, Roster.contains_iff,
      Roster.names_eq_of_forall₂ hname hbuilt]
  rw [register, register, hcontains]
  split
  · exact .ok hbuilt
  · apply (follows_build hservice _).map
    intro backend backend' hbackend
    exact Roster.forall₂_add hname hbuilt hbackend

end ClusterRules

/-- Steps that answer alike and, from clusters that differ in addresses, leave such clusters, unless
the first fails for a Service without an address. -/
def Snapshot.following (snapshot : Snapshot) : BuildingRelation where
  Agree x y := ∀ built built', DifferInAddresses built built' →
    Follows snapshot.IsHeadless (fun p q => p.1 = q.1 ∧ DifferInAddresses p.2 q.2)
      (x.run built) (y.run built')
  pure _ _ _ hbuilt := .ok ⟨rfl, hbuilt⟩
  bind hx hf built built' hbuilt := by
    rw [StateT.run_bind, StateT.run_bind]
    apply (hx built built' hbuilt).bind
    rintro ⟨a, next⟩ ⟨_, next'⟩ _ _ ⟨rfl, hnext⟩
    exact hf a next next' hnext
  lift x built built' hbuilt := by
    cases x with
    | error fault => exact .fault fault
    | ok a => exact .ok ⟨rfl, hbuilt⟩

theorem BackendRef.service?_of_resolve {backend : BackendRef} {snapshot : Snapshot}
    {route : ObjectRef} {field : String} {target : BackendTarget}
    (h : backend.resolve snapshot route field = .ok target) :
    snapshot.service? target.service.key = some target.service := by
  have htarget := (resolve_eq_ok_iff.1 h).2.2.2
  rw [key_of_target? htarget]
  exact (service?_of_target? htarget).1

section SideBySide

variable {snapshot : Snapshot} {settings : Settings} {clusterDomain : String} {gateway : Gateway}

theorem Snapshot.following_agreeOnBackends (seconds : UInt64) (route : ObjectRef) :
    snapshot.following.AgreeOnBackends snapshot snapshot ⟨.clusterIp, seconds⟩
      ⟨.serviceDns clusterDomain, seconds⟩ route := by
  intro backend field built built' hbuilt
  rw [BackendRef.cluster, BackendRef.cluster]
  cases hresolve : backend.resolve snapshot route field with
  | error fault => exact .fault fault
  | ok target =>
      change Follows _ _ ((ClusterRules.clusterFor _ target.service target.port).run built)
        ((ClusterRules.clusterFor _ target.service target.port).run built')
      rw [ClusterRules.run_clusterFor, ClusterRules.run_clusterFor]
      apply (ClusterRules.follows_register (BackendRef.service?_of_resolve hresolve) hbuilt).map
      intro next next' hnext
      exact ⟨rfl, hnext⟩

theorem Listener.following_routeConfiguration (listener : Listener) (seconds : UInt64)
    (key : ObjectKey) :
    snapshot.following.Agree
      (listener.routeConfiguration snapshot ⟨.clusterIp, seconds⟩ key)
      (listener.routeConfiguration snapshot ⟨.serviceDns clusterDomain, seconds⟩ key) := by
  apply Listener.agree_routeConfiguration _ rfl
  intro route _
  exact BuildingRelation.agree_plans (snapshot.following_agreeOnBackends seconds route.ref)

/-- Graphs with the same listeners and route configurations, and clusters and load assignments that
stand at the same places and differ in addresses at most. -/
structure Graph.DiffersInAddresses (graph graph' : Graph) : Prop where
  listeners : graph.listeners = graph'.listeners
  routeConfigurations : graph.routeConfigurations = graph'.routeConfigurations
  clusters : List.Forall₂ Envoy.Cluster.DiffersInAddress graph.clusters.items graph'.clusters.items
  loadAssignments : List.Forall₂ Envoy.LoadAssignment.DiffersInAddress
    graph.loadAssignments.items graph'.loadAssignments.items

namespace Graph.DiffersInAddresses

variable {graph graph' : Graph}

theorem addBackend (h : graph.DiffersInAddresses graph') {backend backend' : BackendCluster}
    (hbackend : backend.DiffersInAddress backend') :
    (Translator.addBackend graph backend).DiffersInAddresses
      (Translator.addBackend graph' backend') where
  listeners := h.listeners
  routeConfigurations := h.routeConfigurations
  clusters := Roster.forall₂_add (fun _ _ h => h.name_eq) h.clusters hbackend.cluster
  loadAssignments :=
    Roster.forall₂_add (fun _ _ h => h.clusterName_eq) h.loadAssignments hbackend.assignment

theorem foldl_addBackend (h : graph.DiffersInAddresses graph')
    {backends backends' : List BackendCluster}
    (hbackends : List.Forall₂ BackendCluster.DiffersInAddress backends backends') :
    (backends.foldl Translator.addBackend graph).DiffersInAddresses
      (backends'.foldl Translator.addBackend graph') := by
  induction hbackends generalizing graph graph' with
  | nil => exact h
  | cons hbackend _ ih => exact ih (h.addBackend hbackend)

theorem names_eq (h : graph.DiffersInAddresses graph') (kind : ResourceKind) :
    graph.names kind = graph'.names kind := by
  cases kind with
  | listener => exact congrArg Roster.names h.listeners
  | routeConfiguration => exact congrArg Roster.names h.routeConfigurations
  | cluster => exact Roster.names_eq_of_forall₂ (fun _ _ h => h.name_eq) h.clusters
  | loadAssignment =>
      exact Roster.names_eq_of_forall₂ (fun _ _ h => h.clusterName_eq) h.loadAssignments

end Graph.DiffersInAddresses

namespace Translator

/-- What is there after a listener: graphs and clusters collected apart, both of which differ in
addresses at most. -/
def DifferAfterListener (state state' : Graph × BackendClusters) : Prop :=
  state.1.DiffersInAddresses state'.1 ∧ DifferInAddresses state.2 state'.2

theorem follows_addListener {state state' : Graph × BackendClusters} (entry : Listener × Nat)
    (h : DifferAfterListener state state') :
    Follows snapshot.IsHeadless DifferAfterListener
      (addListener ⟨snapshot, settings, .clusterIp⟩ gateway state entry).outcome
      (addListener ⟨snapshot, settings, .serviceDns clusterDomain⟩ gateway state'
        entry).outcome := by
  obtain ⟨hgraph, hbuilt⟩ := h
  simp only [addListener, Report.outcome_bind, Report.outcome_liftM, Report.outcome_note,
    Report.outcome_pure]
  -- The policy is asked for clusters alone, which only the routes of the listener have a use for.
  apply Follows.bind_same
  intro listenerPlan
  apply (entry.1.following_routeConfiguration settings.connectTimeoutSeconds gateway.key state.2
    state'.2 hbuilt).bind
  rintro ⟨routesPlan, next⟩ ⟨_, next'⟩ _ _ ⟨rfl, hnext⟩
  apply Follows.bind_same
  intro _
  apply Follows.bind_same
  intro planned
  apply Follows.bind_same
  intro configuration
  refine .ok ⟨⟨?_, ?_, hgraph.clusters, hgraph.loadAssignments⟩, hnext⟩
  · exact congrArg (Roster.add · planned) hgraph.listeners
  · exact congrArg (Roster.add · configuration) hgraph.routeConfigurations

theorem follows_resources :
    Follows snapshot.IsHeadless Graph.DiffersInAddresses
      (resources ⟨snapshot, settings, .clusterIp⟩ gateway).outcome
      (resources ⟨snapshot, settings, .serviceDns clusterDomain⟩ gateway).outcome := by
  have hempty : DifferAfterListener (∅, ∅) (∅, ∅) := ⟨⟨rfl, rfl, .nil, .nil⟩, .nil⟩
  rw [resources, resources, Report.outcome_bind, Report.outcome_bind, Report.outcome_foldlM,
    Report.outcome_foldlM]
  apply Follows.bind
  · apply Follows.foldlM _ _ hempty
    intro state state' entry h
    exact follows_addListener entry h
  · rintro ⟨graph, built⟩ ⟨graph', built'⟩ _ _ ⟨hgraph, hbuilt⟩
    exact .ok (hgraph.foldl_addBackend hbuilt)

/-- Neither graph is refused once it is built. -/
theorem follows_translate (snapshot : Snapshot) (settings : Settings) (clusterDomain : String)
    (key : ObjectKey) :
    Follows snapshot.IsHeadless Graph.DiffersInAddresses
      (translate ⟨snapshot, settings, .clusterIp⟩ key).outcome
      (translate ⟨snapshot, settings, .serviceDns clusterDomain⟩ key).outcome := by
  simp only [translate, Report.outcome_bind, Report.outcome_liftM]
  apply Follows.bind_same
  intro _
  cases snapshot.gateway? key with
  | none => exact .fault _
  | some gateway =>
      simp only [Report.outcome_bind, Report.outcome_liftM, Report.outcome_pure]
      apply Follows.bind_same
      intro _
      apply follows_resources.bind
      intro graph graph' hgraph hgraph' hdiffers
      rw [checkConsistency_eq_ok hgraph, checkConsistency_eq_ok hgraph']
      exact .ok hdiffers

end Translator

end SideBySide

namespace Sample

/-- The objects with a Service that has no address. -/
def headless : Snapshot :=
  snapshot.insert (.service (service "blog" "web" "None"))

end Sample

namespace Translator

/-- A Gateway that is translated with cluster addresses is translated with DNS names, for every
cluster domain: the graphs have the same names, listeners and route configurations, and clusters and
load assignments that differ in addresses alone.  What fails with cluster addresses only fails for a
Service that has none. -/
theorem translate_serviceDns (snapshot : Snapshot) (settings : Settings) (clusterDomain : String)
    (key : ObjectKey) :
    (∀ graph, (Translator.translate ⟨snapshot, settings, .clusterIp⟩ key).outcome = .ok graph →
      ∃ graph', (Translator.translate ⟨snapshot, settings, .serviceDns clusterDomain⟩ key).outcome =
          .ok graph' ∧
        (∀ kind, graph.names kind = graph'.names kind) ∧ graph.DiffersInAddresses graph') ∧
    ∀ fault, (Translator.translate ⟨snapshot, settings, .clusterIp⟩ key).outcome = .error fault →
      (Translator.translate ⟨snapshot, settings, .serviceDns clusterDomain⟩ key).outcome =
          .error fault ∨
        snapshot.IsHeadless fault := by
  have hfollows := follows_translate snapshot settings clusterDomain key
  constructor
  · intro graph hgraph
    obtain ⟨graph', hgraph', hdiffers⟩ := hfollows.exists_of_eq_ok hgraph
    exact ⟨graph', hgraph', hdiffers.names_eq, hdiffers⟩
  · intro fault hfault
    exact hfollows.of_eq_error hfault

theorem translate_serviceDns_of_sample :
    (∃ graph graph',
      (Translator.translate ⟨Sample.snapshot, .default, .clusterIp⟩ Sample.gateway.key).outcome =
        .ok graph ∧
      (Translator.translate ⟨Sample.snapshot, .default, .serviceDns "cluster.local"⟩
        Sample.gateway.key).outcome = .ok graph' ∧
      graph.names .cluster = ["blog/web/8080", "shop/web/8080", "data/orders/8080"] ∧
      graph.DiffersInAddresses graph') ∧
    ∃ fault graph',
      (Translator.translate ⟨Sample.headless, .default, .clusterIp⟩ Sample.gateway.key).outcome =
        .error fault ∧
      (Translator.translate ⟨Sample.headless, .default, .serviceDns "cluster.local"⟩
        Sample.gateway.key).outcome = .ok graph' ∧
      Sample.headless.IsHeadless fault := by
  constructor
  · have hrun : (Translator.translate ⟨Sample.snapshot, .default, .clusterIp⟩
          Sample.gateway.key).outcome.map (·.names .cluster) =
        .ok ["blog/web/8080", "shop/web/8080", "data/orders/8080"] := by
      decide +kernel
    obtain ⟨graph, hgraph, hnames⟩ := map_eq_ok.1 hrun
    obtain ⟨graph', hgraph', _, hdiffers⟩ := (translate_serviceDns Sample.snapshot .default
      "cluster.local" Sample.gateway.key).1 graph hgraph
    exact ⟨graph, graph', hgraph, hgraph', hnames, hdiffers⟩
  · have hfault : (Translator.translate ⟨Sample.headless, .default, .clusterIp⟩
          Sample.gateway.key).outcome.map Graph.size =
        .error (.invalid (Sample.service "blog" "web" "None").ref "spec.clusterIP"
          "headless Service has no cluster IP (use the service-dns endpoint policy)") := by
      decide +kernel
    have hrun : (Translator.translate ⟨Sample.headless, .default, .serviceDns "cluster.local"⟩
          Sample.gateway.key).outcome.map Graph.size = .ok 10 := by
      decide +kernel
    rw [map_eq_error] at hfault
    obtain ⟨graph', hgraph', _⟩ := map_eq_ok.1 hrun
    obtain hsame | hheadless := (translate_serviceDns Sample.headless .default "cluster.local"
      Sample.gateway.key).2 _ hfault
    · rw [hgraph'] at hsame
      cases hsame
    · exact ⟨_, graph', hfault, hgraph', hheadless⟩

end Translator

end GatewayCompiler
