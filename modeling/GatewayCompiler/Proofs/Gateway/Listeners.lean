import GatewayCompiler.Proofs.Gateway.Closure
import GatewayCompiler.Proofs.Naming

/-!
# Listeners of a translation

Each listener of a Gateway becomes one listener and one route configuration, at the place at which
it is declared.  A roster keeps only the first resource of a name, so this rests on the names: they
are checked to differ within the Gateway, and different names of listeners give different resources.
-/

namespace GatewayCompiler

/-- What a listener tells of where it comes from, under a key. -/
def Envoy.Listener.origin? (listener : Envoy.Listener) (key : String) : Option String := do
  let metadata ← listener.metadata
  let origin ← metadata.get? ListenerPlan.metadataNamespace
  origin.get? key

/-- What the listener and the route configuration are that a listener of a Gateway becomes. -/
structure Listener.Becomes (listener : Listener) (gateway : ObjectKey) (settings : Settings)
    (planned : Envoy.Listener) (configuration : Envoy.RouteConfiguration) : Prop where
  name_eq : planned.name = s!"{gateway.ns}/{gateway.name}/{listener.name}"
  address_eq : planned.address = some ⟨settings.listenerAddress, some listener.port.toUInt32⟩
  gateway_eq : planned.origin? "gateway" = some s!"{gateway.ns}/{gateway.name}"
  listener_eq : planned.origin? "listener" = some listener.name
  protocol_eq : planned.origin? "protocol" = some listener.protocol
  /-- The one chain fetches the routes of the configuration, as is decoded from it. -/
  one_chain : ∃ chain config manager, planned.filterChains = [chain] ∧
    chain.managerConfig? = some config ∧
    Envoy.ConnectionManager.decode? config.value = some manager ∧
    Graph.discoveredRoutes? manager = some configuration.name

section Check

variable {gateway : Gateway} {index : Nat} {listener : Listener} {earlier rest : List Listener}

theorem outcome_checkListeners_cons_eq_ok_iff :
    (checkListeners gateway index earlier (listener :: rest)).outcome = .ok () ↔
      listener.name ∉ earlier.map (·.name) ∧
      (checkListeners gateway (index + 1) (listener :: earlier) rest).outcome = .ok () := by
  have hany : earlier.any (·.name == listener.name) = true ↔
      listener.name ∈ earlier.map (·.name) := by
    simp
  rw [checkListeners]
  by_cases hseen : listener.name ∈ earlier.map (·.name)
  · rw [if_pos (hany.2 hseen), Report.outcome_bind_eq_ok]
    simp [hseen]
  · rw [if_neg (mt hany.1 hseen)]
    -- A port that is used again is noted, which changes nothing in the outcome.
    cases earlier.find? (·.port == listener.port) <;>
      simp only [hseen, not_false_eq_true, true_and, Report.outcome_bind_eq_ok,
        Report.outcome_note, Unique.exists_iff]

/-- The check of listeners passes exactly when their names differ from each other and from the names
before. -/
theorem outcome_checkListeners_eq_ok_iff :
    (checkListeners gateway index earlier rest).outcome = .ok () ↔
      (rest.map (·.name)).Nodup ∧ (rest.map (·.name)).Disjoint (earlier.map (·.name)) := by
  induction rest generalizing index earlier with
  | nil => simp [checkListeners]
  | cons listener rest ih =>
      rw [outcome_checkListeners_cons_eq_ok_iff, ih, List.map_cons, List.map_cons, List.nodup_cons,
        List.disjoint_cons_left, List.disjoint_cons_right]
      tauto

end Check

/-- A listener tells of where it comes from what its plan says. -/
theorem ListenerPlan.origin?_of_toListener {plan : ListenerPlan} {planned : Envoy.Listener}
    (h : plan.toListener = .ok planned) (hmetadata : plan.metadata.isEmpty = false) (key : String) :
    planned.origin? key = plan.metadata.get? key := by
  rw [toListener] at h
  split at h
  · cases h
  · cases h
    simp [Envoy.Listener.origin?, toMetadata, hmetadata, Table.ofList]

namespace Listener

variable {listener : Listener} {snapshot : Snapshot} {settings : Settings} {gateway : Gateway}
  {index : Nat} {part : ListenerPart}

theorem becomes_of_part (h : listener.part snapshot settings gateway index = .ok part) :
    listener.Becomes gateway.key settings part.listener part.configuration := by
  have hmanager : ∀ chain ∈ part.listener.filterChains, ∃ config manager,
      chain.managerConfig? = some config ∧
      Envoy.ConnectionManager.decode? config.value = some manager ∧
      Graph.discoveredRoutes? manager = some part.configuration.name := by
    intro chain hchain
    exact exists_manager_of_part h hchain
  simp only [Listener.part, Listener.plan, bind_eq_ok, pure_eq_ok] at h
  obtain ⟨_, ⟨tls, _, rfl⟩, _, _, planned, hplanned, configuration, _, rfl⟩ := h
  have horigin := ListenerPlan.origin?_of_toListener hplanned (by simp [Table.ofList])
  simp only [ListenerPlan.toListener, List.isEmpty_cons, Bool.false_eq_true, if_false,
    Except.ok.injEq] at hplanned
  subst hplanned
  refine ⟨rfl, rfl, ?_, ?_, ?_, ?_⟩
  · rw [horigin]
    simp [Table.ofList, Table.get?_insert_of_ne, ObjectKey.display]
  · rw [horigin]
    simp [Table.ofList, Table.get?_insert_of_ne]
  · rw [horigin]
    simp [Table.ofList]
  · obtain ⟨config, manager, hfacts⟩ := hmanager _ List.mem_cons_self
    exact ⟨_, config, manager, rfl, hfacts⟩

theorem name_configuration_of_part
    (h : listener.part snapshot settings gateway index = .ok part) :
    part.configuration.name = Naming.listener gateway.key listener.name := by
  obtain ⟨_, _, hconfiguration, _⟩ := exists_outlines_of_part h
  exact RouteConfigurationPlan.name_of_toConfiguration hconfiguration

end Listener

/-- What a graph has for the listeners of a Gateway: a listener and a route configuration for each,
at its place and with a name of its own. -/
structure Graph.Serves (graph : Graph) (gateway : Gateway) (settings : Settings) : Prop where
  size_listeners : graph.listeners.size = gateway.listeners.length
  size_configurations : graph.routeConfigurations.size = gateway.listeners.length
  nodup_names : (gateway.listeners.map fun listener =>
    s!"{gateway.key.ns}/{gateway.key.name}/{listener.name}").Nodup
  becomes : ∀ (index : Nat) (listener : Listener), gateway.listeners[index]? = some listener →
    ∃ planned configuration,
      graph.listeners.items[index]? = some planned ∧
      graph.routeConfigurations.items[index]? = some configuration ∧
      listener.Becomes gateway.key settings planned configuration

namespace Gateway

variable {gateway : Gateway} {snapshot : Snapshot} {settings : Settings}
  {parts : List ListenerPart}

theorem nodup_names_of_checkListeners
    (h : (checkListeners gateway 0 [] gateway.listeners).outcome = .ok ()) :
    (gateway.listeners.map fun listener => Naming.listener gateway.key listener.name).Nodup := by
  have hnodup := (outcome_checkListeners_eq_ok_iff.1 h).1
  have hmap : gateway.listeners.map (fun listener => Naming.listener gateway.key listener.name) =
      (gateway.listeners.map (·.name)).map (Naming.listener gateway.key) := by
    rw [List.map_map]
    rfl
  rw [hmap]
  exact hnodup.map (Naming.listener_injective gateway.key)

theorem map_name_listeners_of_parts (hparts : gateway.parts snapshot settings = .ok parts) :
    (parts.map (·.listener)).map (·.name) =
      gateway.listeners.map fun listener => Naming.listener gateway.key listener.name := by
  rw [List.map_map]
  apply map_eq_of_mapM_zipIdx hparts
  intro listener index part hpart
  exact (Listener.becomes_of_part hpart).name_eq

theorem map_name_configurations_of_parts (hparts : gateway.parts snapshot settings = .ok parts) :
    (parts.map (·.configuration)).map (·.name) =
      gateway.listeners.map fun listener => Naming.listener gateway.key listener.name := by
  rw [List.map_map]
  apply map_eq_of_mapM_zipIdx hparts
  intro listener index part hpart
  exact Listener.name_configuration_of_part hpart

/-- Listeners with names of their own are assembled without loss. -/
theorem items_assemble_of_parts (hparts : gateway.parts snapshot settings = .ok parts)
    (hnodup : (gateway.listeners.map fun listener =>
      Naming.listener gateway.key listener.name).Nodup) (backends : List BackendCluster) :
    (Graph.assemble parts backends).listeners.items = parts.map (·.listener) ∧
      (Graph.assemble parts backends).routeConfigurations.items = parts.map (·.configuration) := by
  constructor
  · apply Roster.items_ofList_of_nodup
    rw [map_name_listeners_of_parts hparts]
    exact hnodup
  · apply Roster.items_ofList_of_nodup
    rw [map_name_configurations_of_parts hparts]
    exact hnodup

theorem serves_assemble (hparts : gateway.parts snapshot settings = .ok parts)
    (hchecked : (checkListeners gateway 0 [] gateway.listeners).outcome = .ok ())
    (backends : List BackendCluster) : (Graph.assemble parts backends).Serves gateway settings := by
  have hnodup := nodup_names_of_checkListeners hchecked
  obtain ⟨hlisteners, hconfigurations⟩ := items_assemble_of_parts hparts hnodup backends
  have hlength : parts.length = gateway.listeners.length := by
    rw [← (mapM_eq_ok_iff.1 hparts).length_eq, List.length_zipIdx]
  refine ⟨?_, ?_, hnodup, ?_⟩
  · rw [Roster.size, hlisteners, List.length_map, hlength]
  · rw [Roster.size, hconfigurations, List.length_map, hlength]
  · intro index listener hlistener
    obtain ⟨part, hpart, hfacts⟩ := exists_getElem?_of_mapM_zipIdx hparts hlistener
    refine ⟨part.listener, part.configuration, ?_, ?_, Listener.becomes_of_part hfacts⟩
    · rw [hlisteners, List.getElem?_map, hpart]
      rfl
    · rw [hconfigurations, List.getElem?_map, hpart]
      rfl

end Gateway

namespace Sample

/-- A Gateway with two listeners on one port. -/
def twin : Gateway :=
  ⟨metadata "infra" "twin", "envoy",
    [http, listener "alternate" 80 "HTTP" (some "*.example.com") none]⟩

def sharedPort : Translator :=
  .ofSettings (snapshot.insert (.gateway twin)) .default

end Sample

namespace Translator

variable {translator : Translator} {key : ObjectKey} {gateway : Gateway} {graph : Graph}

/-- A translation that succeeds has kept every listener of the Gateway, whether or not listeners
share a port. -/
theorem serves_of_translate (hgateway : translator.snapshot.gateway? key = some gateway)
    (h : (translator.translate key).outcome = .ok graph) :
    graph.Serves gateway translator.settings := by
  obtain ⟨_, found, hfound, hchecked, _⟩ := outcome_translate_eq_ok_iff.1 h
  rw [hgateway, Option.some.injEq] at hfound
  subst hfound
  obtain ⟨parts, backends, hparts, _, rfl⟩ := exists_parts_of_translate hgateway h
  exact Gateway.serves_assemble hparts hchecked backends.items

theorem serves_of_sample :
    ∃ graph, (Sample.sharedPort.translate Sample.twin.key).outcome = .ok graph ∧
      graph.listeners.names = ["infra/twin/http", "infra/twin/alternate"] ∧
      graph.listeners.items.map (fun listener => listener.address.bind (·.port)) =
        [some 80, some 80] ∧
      graph.Serves Sample.twin Sample.sharedPort.settings := by
  have hgateway : Sample.sharedPort.snapshot.gateway? Sample.twin.key = some Sample.twin := by
    decide +kernel
  have hrun : (Sample.sharedPort.translate Sample.twin.key).outcome.map (fun graph =>
        (graph.listeners.names,
          graph.listeners.items.map fun listener => listener.address.bind (·.port))) =
      .ok (["infra/twin/http", "infra/twin/alternate"], [some 80, some 80]) := by
    decide +kernel
  obtain ⟨graph, hgraph, hfacts⟩ := map_eq_ok.1 hrun
  rw [Prod.mk.injEq] at hfacts
  exact ⟨graph, hgraph, hfacts.1, hfacts.2, serves_of_translate hgateway hgraph⟩

end Translator

end GatewayCompiler
