import GatewayCompiler.Proofs.Routes.Grouping
import GatewayCompiler.Translation.Gateway

/-!
# Parts of a graph

A listener of a Gateway contributes one listener and one route configuration to the graph, whatever
the listeners before it did; the clusters are those of the Service ports that the routes of all the
listeners send traffic to.  The graph of a Gateway is assembled from these parts.
-/

namespace GatewayCompiler

/-- What a listener of a Gateway contributes to the graph, and the Service ports that its routes
send traffic to in the order in which these are met. -/
structure ListenerPart where
  listener : Envoy.Listener
  configuration : Envoy.RouteConfiguration
  targets : List BackendTarget

/-- The part of the listener at a place in its Gateway. -/
def Listener.part (listener : Listener) (snapshot : Snapshot) (settings : Settings)
    (gateway : Gateway) (index : Nat) : Except Fault ListenerPart := do
  let listenerPlan ← listener.plan snapshot settings gateway index
  let outlines ← listener.routeOutlines snapshot gateway.key
  let planned ← listenerPlan.toListener
  let configuration ← (listener.grouped snapshot gateway.key outlines).toConfiguration
  return ⟨planned, configuration, outlines.flatMap (·.targets)⟩

/-- The route configuration of a part groups the outlines of the routes that the listener serves, and
the Service ports are those of the outlines. -/
theorem Listener.exists_outlines_of_part {listener : Listener} {snapshot : Snapshot}
    {settings : Settings} {gateway : Gateway} {index : Nat} {part : ListenerPart}
    (h : listener.part snapshot settings gateway index = .ok part) :
    ∃ outlines,
      listener.routeOutlines snapshot gateway.key = .ok outlines ∧
      (listener.grouped snapshot gateway.key outlines).toConfiguration = .ok part.configuration ∧
      part.targets = outlines.flatMap (·.targets) := by
  simp only [Listener.part, bind_eq_ok, pure_eq_ok] at h
  obtain ⟨_, _, outlines, houtlines, _, _, _, hconfiguration, rfl⟩ := h
  exact ⟨outlines, houtlines, hconfiguration, rfl⟩

/-- The parts of all listeners of a Gateway, in declared order. -/
def Gateway.parts (gateway : Gateway) (snapshot : Snapshot) (settings : Settings) :
    Except Fault (List ListenerPart) :=
  gateway.listeners.zipIdx.mapM fun (listener, index) =>
    listener.part snapshot settings gateway index

namespace Graph

def addPart (graph : Graph) (part : ListenerPart) : Graph :=
  (graph.addListener part.listener).addRouteConfiguration part.configuration

/-- The graph of listener parts and clusters. -/
def assemble (parts : List ListenerPart) (backends : List BackendCluster) : Graph where
  listeners := Roster.ofList (parts.map (·.listener))
  routeConfigurations := Roster.ofList (parts.map (·.configuration))
  clusters := Roster.ofList (backends.map (·.cluster))
  loadAssignments := Roster.ofList (backends.map (·.assignment))

theorem foldl_addPart_eq_assemble (parts : List ListenerPart) :
    parts.foldl addPart ∅ = assemble parts [] := by
  induction parts using List.reverseRecOn with
  | nil => rfl
  | append_singleton parts part ih =>
      rw [List.foldl_append, ih]
      simp [assemble, addPart, addListener, addRouteConfiguration, offer, Roster.add]

theorem foldl_addBackend_assemble (parts : List ListenerPart) (backends : List BackendCluster) :
    backends.foldl Translator.addBackend (assemble parts []) = assemble parts backends := by
  induction backends using List.reverseRecOn with
  | nil => rfl
  | append_singleton backends backend ih =>
      rw [List.foldl_append, ih]
      simp [assemble, Translator.addBackend, addCluster, addLoadAssignment, offer, Roster.add]

end Graph

namespace Translator

variable {translator : Translator} {gateway : Gateway} {graph graph' : Graph}
  {clusters clusters' : BackendClusters}

theorem outcome_addListener_eq_ok_iff {entry : Listener × Nat} :
    (translator.addListener gateway (graph, clusters) entry).outcome = .ok (graph', clusters') ↔
      ∃ part,
        entry.1.part translator.snapshot translator.settings gateway entry.2 = .ok part ∧
        graph.addPart part = graph' ∧
        translator.clusterRules.registerAll clusters part.targets = .ok clusters' := by
  simp only [addListener, Listener.part, Report.outcome_bind_eq_ok, Report.outcome_liftM,
    Report.outcome_note, Report.outcome_pure, bind_eq_ok, pure_eq_ok, Prod.exists,
    Listener.run_routeConfiguration_eq_ok_iff, Except.ok.injEq, Prod.mk.injEq]
  constructor
  · rintro ⟨listenerPlan, hplan, _, _, ⟨outlines, houtlines, rfl, hall⟩, _, _, planned, hplanned,
      configuration, hconfiguration, rfl, rfl⟩
    exact ⟨_, ⟨listenerPlan, hplan, outlines, houtlines, planned, hplanned, configuration,
      hconfiguration, rfl⟩, rfl, hall⟩
  · rintro ⟨_, ⟨listenerPlan, hplan, outlines, houtlines, planned, hplanned, configuration,
      hconfiguration, rfl⟩, rfl, hall⟩
    exact ⟨listenerPlan, hplan, _, clusters', ⟨outlines, houtlines, rfl, hall⟩, (), trivial,
      planned, hplanned, configuration, hconfiguration, rfl, rfl⟩

theorem outcome_foldlM_addListener_eq_ok_iff {entries : List (Listener × Nat)} :
    (entries.foldlM (translator.addListener gateway) (graph, clusters)).outcome =
        .ok (graph', clusters') ↔
      ∃ parts,
        (entries.mapM fun (entry : Listener × Nat) =>
          entry.1.part translator.snapshot translator.settings gateway entry.2) = .ok parts ∧
        parts.foldl Graph.addPart graph = graph' ∧
        translator.clusterRules.registerAll clusters (parts.flatMap (·.targets)) =
          .ok clusters' := by
  induction entries generalizing graph clusters with
  | nil =>
      simp [ClusterRules.registerAll]
  | cons entry entries ih =>
      simp only [List.foldlM_cons, Report.outcome_bind_eq_ok, Prod.exists,
        outcome_addListener_eq_ok_iff, ih, List.mapM_cons, bind_eq_ok, pure_eq_ok]
      constructor
      · rintro ⟨_, next, ⟨part, hpart, rfl, hfirst⟩, parts, hparts, rfl, hall⟩
        refine ⟨part :: parts, ⟨part, hpart, parts, hparts, rfl⟩, rfl, ?_⟩
        rw [List.flatMap_cons, ClusterRules.registerAll_append, bind_eq_ok]
        exact ⟨next, hfirst, hall⟩
      · rintro ⟨_, ⟨part, hpart, parts, hparts, rfl⟩, rfl, hall⟩
        rw [List.flatMap_cons, ClusterRules.registerAll_append, bind_eq_ok] at hall
        obtain ⟨next, hfirst, hall⟩ := hall
        exact ⟨_, next, ⟨part, hpart, rfl, hfirst⟩, parts, hparts, rfl, hall⟩

/-- The resources of a Gateway are assembled from the parts of its listeners and the clusters of the
Service ports that these name. -/
theorem outcome_resources_eq_ok_iff :
    (translator.resources gateway).outcome = .ok graph ↔
      ∃ parts clusters,
        gateway.parts translator.snapshot translator.settings = .ok parts ∧
        translator.clusterRules.registerAll ∅ (parts.flatMap (·.targets)) = .ok clusters ∧
        graph = Graph.assemble parts clusters.items := by
  simp only [resources, Report.outcome_bind_eq_ok, Prod.exists,
    outcome_foldlM_addListener_eq_ok_iff, Graph.foldl_addPart_eq_assemble, Report.outcome_pure,
    Except.ok.injEq]
  constructor
  · rintro ⟨_, clusters, ⟨parts, hparts, rfl, hall⟩, rfl⟩
    exact ⟨parts, clusters, hparts, hall, Graph.foldl_addBackend_assemble parts clusters.items⟩
  · rintro ⟨parts, clusters, hparts, hall, rfl⟩
    exact ⟨_, clusters, ⟨parts, hparts, rfl, hall⟩,
      Graph.foldl_addBackend_assemble parts clusters.items⟩

end Translator

/-- A translator of the objects of a shop, a blog and their Gateway. -/
def Sample.translator : Translator :=
  .ofSettings Sample.snapshot .default

end GatewayCompiler
