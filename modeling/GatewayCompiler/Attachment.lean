import GatewayCompiler.Snapshot

/-!
# Attachment of routes

A route attaches to a listener when one of its parent references selects the listener and the
listener admits routes of its namespace.
-/

namespace GatewayCompiler

/-- The label that holds the name of a namespace, also when the namespace does not give it. -/
def namespaceNameLabel : String := "kubernetes.io/metadata.name"

/-- Whether a reference from a namespace selects the listener of the Gateway. -/
def ParentRef.selects (parent : ParentRef) (routeNamespace : String) (gateway : ObjectKey)
    (listener : Listener) : Bool :=
  parent.groupKind == GroupKind.gateway &&
    parent.ns.getD routeNamespace == gateway.ns &&
    parent.name == gateway.name &&
    parent.sectionName.all (· == listener.name) &&
    parent.port.all (· == listener.port)

namespace Snapshot

/-- The labels of a namespace, with its name among them.  A namespace without an object has no other
labels. -/
def labelsOf (snapshot : Snapshot) (ns : String) : Labels :=
  let labels := ((snapshot.namespace? ns).map (·.metadata.labels)).getD ∅
  if labels.contains namespaceNameLabel then labels else labels.insert namespaceNameLabel ns

end Snapshot

namespace Listener

/-- Whether the listener admits routes of the namespace, being one of a Gateway of `gatewayNamespace`.
Without a rule it admits the routes of that namespace only. -/
def admits (listener : Listener) (snapshot : Snapshot) (gatewayNamespace routeNamespace : String) :
    Bool :=
  match listener.allowedRoutes with
  | none => routeNamespace == gatewayNamespace
  | some allowed =>
    (allowed.kinds.isEmpty || allowed.kinds.any (·.groupKind == GroupKind.httpRoute)) &&
      match allowed.namespaces with
      | none => routeNamespace == gatewayNamespace
      | some namespaces =>
        match namespaces.scope with
        | .same => routeNamespace == gatewayNamespace
        | .all => true
        | .selector => namespaces.selector.any (·.accepts (snapshot.labelsOf routeNamespace))

end Listener

namespace HttpRoute

def attaches (route : HttpRoute) (snapshot : Snapshot) (gateway : ObjectKey) (listener : Listener) :
    Bool :=
  route.parentRefs.any (·.selects route.namespaceName gateway listener) &&
    listener.admits snapshot gateway.ns route.namespaceName

/-- Routes attach by the namespaces and their labels alone. -/
theorem attaches_congr {s t : Snapshot} (h : s.namespaces = t.namespaces) (route : HttpRoute)
    (gateway : ObjectKey) (listener : Listener) :
    route.attaches s gateway listener = route.attaches t gateway listener := by
  have hlabels : s.labelsOf = t.labelsOf := by
    funext name
    rw [Snapshot.labelsOf, Snapshot.labelsOf, Snapshot.namespace?, Snapshot.namespace?, h]
  rw [attaches, attaches, Listener.admits, Listener.admits, hlabels]

end HttpRoute

end GatewayCompiler
