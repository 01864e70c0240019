import GatewayCompiler.Graph.Consistency
import GatewayCompiler.Translation.Listeners
import GatewayCompiler.Translation.VirtualHosts

/-!
# Translation of a Gateway

A Gateway becomes a graph with a listener and a route configuration for each of its listeners and
the clusters their routes use, or the first fault.  The graph is checked before it is handed out.
-/

namespace GatewayCompiler

/-- Refuses a name that is used again and notes a port that is used again; `earlier` are the
listeners before, the last first. -/
def checkListeners (gateway : Gateway) : Nat → List Listener → List Listener → Report Fault Unit
  | _, _, [] => pure ()
  | index, earlier, listener :: rest => do
    if earlier.any (·.name == listener.name) then
      Report.fail <| .invalid gateway.ref s!"spec.listeners[{index}].name"
        s!"listener name '{listener.name}' is used more than once"
    if let some first := earlier.find? (·.port == listener.port) then
      Report.note [.sharedPort gateway.key listener.port first.name listener.name]
    checkListeners gateway (index + 1) (listener :: earlier) rest

/-- What a translation takes: the objects, the settings and the policy. -/
structure Translator where
  snapshot : Snapshot
  settings : Settings
  policy : EndpointPolicy

namespace Translator

/-- The translator with the policy that the settings choose. -/
def ofSettings (snapshot : Snapshot) (settings : Settings) : Translator :=
  ⟨snapshot, settings, EndpointPolicy.ofSettings settings⟩

def clusterRules (translator : Translator) : ClusterRules :=
  ⟨translator.policy, translator.settings.connectTimeoutSeconds⟩

/-- Adds the resources of one listener to the graph; clusters are collected apart. -/
def addListener (translator : Translator) (gateway : Gateway) (state : Graph × BackendClusters)
    (entry : Listener × Nat) : Report Fault (Graph × BackendClusters) := do
  let (graph, clusters) := state
  let (listener, index) := entry
  let listenerPlan ← listener.plan translator.snapshot translator.settings gateway index
  let (routesPlan, clusters) ←
    (listener.routeConfiguration translator.snapshot translator.clusterRules gateway.key).run clusters
  Report.note routesPlan.sharedDomains
  let graph := graph.addListener (← listenerPlan.toListener)
  let graph := graph.addRouteConfiguration (← routesPlan.toConfiguration)
  return (graph, clusters)

/-- The graph with a cluster and its assignment. -/
def addBackend (graph : Graph) (backend : BackendCluster) : Graph :=
  (graph.addCluster backend.cluster).addLoadAssignment backend.assignment

/-- The resources of a Gateway. -/
def resources (translator : Translator) (gateway : Gateway) : Report Fault Graph := do
  let (graph, clusters) ← gateway.listeners.zipIdx.foldlM (translator.addListener gateway) (∅, ∅)
  return clusters.items.foldl addBackend graph

/-- The graph of the Gateway of this key. -/
def translate (translator : Translator) (key : ObjectKey) : Report Fault Graph := do
  translator.settings.validate
  let some gateway := translator.snapshot.gateway? key
    | Report.fail (.notFound ⟨"Gateway", key.ns, key.name⟩ none)
  checkListeners gateway 0 [] gateway.listeners
  let graph ← translator.resources gateway
  graph.checkConsistency
  return graph

end Translator

end GatewayCompiler
