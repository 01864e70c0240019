import GatewayCompiler.Proofs.Gateway.Frame
import GatewayCompiler.Proofs.Gateway.Listeners

/-!
# Gateways with more listeners

Listeners that are appended to a Gateway come after the others in every loop, and what is in a graph
stays where it is.  The graph of the Gateway is therefore how the graph of the longer one begins,
even where a route is served by old and new listeners and they share its clusters.
-/

namespace GatewayCompiler

/-- The Gateway with more listeners at the end. -/
def Gateway.appendListeners (gateway : Gateway) (more : List Listener) : Gateway :=
  { gateway with listeners := gateway.listeners ++ more }

/-- Each list of resources of a graph begins with that of another. -/
structure Graph.IsPrefix (graph extended : Graph) : Prop where
  listeners : graph.listeners.items <+: extended.listeners.items
  routeConfigurations : graph.routeConfigurations.items <+: extended.routeConfigurations.items
  clusters : graph.clusters.items <+: extended.clusters.items
  loadAssignments : graph.loadAssignments.items <+: extended.loadAssignments.items

theorem Graph.isPrefix_assemble {parts parts' : List ListenerPart}
    {backends backends' : List BackendCluster} (hparts : parts <+: parts')
    (hbackends : backends <+: backends') :
    (assemble parts backends).IsPrefix (assemble parts' backends') where
  listeners := Roster.items_prefix_ofList (hparts.map _)
  routeConfigurations := Roster.items_prefix_ofList (hparts.map _)
  clusters := Roster.items_prefix_ofList (hbackends.map _)
  loadAssignments := Roster.items_prefix_ofList (hbackends.map _)

theorem Snapshot.gateway?_insert_self (snapshot : Snapshot) (gateway : Gateway) :
    (snapshot.insert (.gateway gateway)).gateway? gateway.key = some gateway :=
  Table.get?_insert_self _ _ _

namespace Gateway

variable {gateway : Gateway} {more : List Listener} {snapshot : Snapshot} {settings : Settings}

@[simp]
theorem key_appendListeners : (gateway.appendListeners more).key = gateway.key :=
  rfl

/-- The parts of the listeners that were there are those of the Gateway before. -/
theorem exists_parts_of_appendListeners {all : List ListenerPart}
    (h : (gateway.appendListeners more).parts snapshot settings = .ok all) :
    ∃ parts rest, gateway.parts snapshot settings = .ok parts ∧ all = parts ++ rest := by
  rw [parts, appendListeners, List.zipIdx_append, List.mapM_append, bind_eq_ok] at h
  obtain ⟨parts, hparts, h⟩ := h
  simp only [bind_eq_ok, pure_eq_ok] at h
  obtain ⟨rest, _, rfl⟩ := h
  -- A part asks its Gateway for nothing but the key, so `hparts` is about the shorter one as well.
  exact ⟨parts, rest, hparts, rfl⟩

theorem checkListeners_of_appendListeners
    (h : (checkListeners (gateway.appendListeners more) 0 []
      (gateway.appendListeners more).listeners).outcome = .ok ()) :
    (checkListeners gateway 0 [] gateway.listeners).outcome = .ok () := by
  rw [outcome_checkListeners_eq_ok_iff] at h ⊢
  obtain ⟨hnodup, _⟩ := h
  rw [appendListeners, List.map_append] at hnodup
  exact ⟨hnodup.of_append_left, List.disjoint_nil_right _⟩

end Gateway

namespace Translator

variable {translator : Translator} {gateway : Gateway} {more : List Listener}

/-- The resources of a Gateway begin those of the Gateway with more listeners. -/
theorem outcome_resources_of_appendListeners {extended : Graph}
    (h : (translator.resources (gateway.appendListeners more)).outcome = .ok extended) :
    ∃ graph, (translator.resources gateway).outcome = .ok graph ∧ graph.IsPrefix extended := by
  obtain ⟨all, backends', hall, hbackends', rfl⟩ := outcome_resources_eq_ok_iff.1 h
  obtain ⟨parts, rest, hparts, rfl⟩ := Gateway.exists_parts_of_appendListeners hall
  rw [List.flatMap_append, ClusterRules.registerAll_append, bind_eq_ok] at hbackends'
  obtain ⟨backends, hbackends, hrest⟩ := hbackends'
  refine ⟨_, outcome_resources_eq_ok_iff.2 ⟨parts, backends, hparts, hbackends, rfl⟩, ?_⟩
  exact Graph.isPrefix_assemble (List.prefix_append parts rest)
    (ClusterRules.items_prefix_registerAll hrest)

/-- Another Gateway in the place of one makes no difference to the resources of any. -/
theorem resources_insert_gateway (snapshot : Snapshot) (settings : Settings)
    (policy : EndpointPolicy) (other : Gateway) :
    resources ⟨snapshot.insert (.gateway other), settings, policy⟩ gateway =
      resources ⟨snapshot, settings, policy⟩ gateway := by
  have halike : (snapshot.insert (.gateway other)).ResolveAlike snapshot := ⟨rfl, rfl, rfl, rfl⟩
  apply halike.resources_eq
  intro listener _
  exact Listener.servedRoutes_congr rfl rfl listener gateway.key

end Translator

namespace Sample

/-- A listener for one host on a port of its own. -/
def admin : Listener :=
  listener "admin" 8080 "HTTP" (some "shop.example.com") none

/-- A route of this listener only, which comes between the other routes and has a Service of its
own. -/
def audit : HttpRoute :=
  ⟨metadata "shop" "audit", [{ edge with sectionName := some "admin" }], [],
    [⟨[], [], [backend none "api" none]⟩]⟩

def audited : Snapshot :=
  (snapshot.insert (.httpRoute audit)).insert (.service (service "shop" "api" "10.0.0.4"))

end Sample

namespace Translator

variable {snapshot : Snapshot} {settings : Settings} {policy : EndpointPolicy} {key : ObjectKey}

/-- When a Gateway with more listeners at the end is translated, so is the Gateway without them, and
all that its graph lists is listed first, in the same order. -/
theorem translate_of_appendListeners {gateway : Gateway} {more : List Listener} {extended : Graph}
    (hgateway : snapshot.gateway? key = some gateway)
    (h : (Translator.translate ⟨snapshot.insert (.gateway (gateway.appendListeners more)), settings,
      policy⟩ key).outcome = .ok extended) :
    ∃ graph, (Translator.translate ⟨snapshot, settings, policy⟩ key).outcome = .ok graph ∧
      graph.IsPrefix extended := by
  obtain ⟨hvalid, found, hfound, hchecked, hresources⟩ := outcome_translate_eq_ok_iff.1 h
  have hkey : gateway.key = key := Catalog.key_eq_of_get? hgateway
  have hput := snapshot.gateway?_insert_self (gateway.appendListeners more)
  rw [Gateway.key_appendListeners, hkey] at hput
  obtain rfl : found = gateway.appendListeners more := Option.some.inj (hfound.symm.trans hput)
  rw [resources_insert_gateway] at hresources
  obtain ⟨graph, hgraph, hprefix⟩ := outcome_resources_of_appendListeners hresources
  have hdiffer := Gateway.checkListeners_of_appendListeners hchecked
  exact ⟨graph, outcome_translate_eq_ok_iff.2 ⟨hvalid, gateway, hgateway, hdiffer, hgraph⟩, hprefix⟩

theorem translate_of_appendListeners_of_sample :
    ∃ graph extended,
      (Translator.translate ⟨Sample.audited, .default, .clusterIp⟩ Sample.gateway.key).outcome =
        .ok graph ∧
      (Translator.translate ⟨Sample.audited.insert (.gateway (Sample.gateway.appendListeners
        [Sample.admin])), .default, .clusterIp⟩ Sample.gateway.key).outcome = .ok extended ∧
      extended.names .routeConfiguration =
        ["infra/edge/http", "infra/edge/https", "infra/edge/admin"] ∧
      extended.names .cluster =
        ["blog/web/8080", "shop/web/8080", "data/orders/8080", "shop/api/8080"] ∧
      graph.names .cluster = ["blog/web/8080", "shop/web/8080", "data/orders/8080"] ∧
      graph.IsPrefix extended := by
  have hgateway : Sample.audited.gateway? Sample.gateway.key = some Sample.gateway := by
    decide +kernel
  have hrun : (Translator.translate ⟨Sample.audited.insert (.gateway (Sample.gateway.appendListeners
        [Sample.admin])), .default, .clusterIp⟩ Sample.gateway.key).outcome.map (fun graph =>
          (graph.names .routeConfiguration, graph.names .cluster)) =
      .ok (["infra/edge/http", "infra/edge/https", "infra/edge/admin"],
        ["blog/web/8080", "shop/web/8080", "data/orders/8080", "shop/api/8080"]) := by
    decide +kernel
  have hbefore : (Translator.translate ⟨Sample.audited, .default, .clusterIp⟩
        Sample.gateway.key).outcome.map (·.names .cluster) =
      .ok ["blog/web/8080", "shop/web/8080", "data/orders/8080"] := by
    decide +kernel
  obtain ⟨extended, hextended, hnames⟩ := map_eq_ok.1 hrun
  rw [Prod.mk.injEq] at hnames
  obtain ⟨graph, hgraph, hprefix⟩ := translate_of_appendListeners hgateway hextended
  rw [hgraph] at hbefore
  exact ⟨graph, extended, hgraph, hextended, hnames.1, hnames.2, Except.ok.inj hbefore, hprefix⟩

end Translator

end GatewayCompiler
