import GatewayCompiler.Authorization
import GatewayCompiler.Catalog
import GatewayCompiler.Model.ApiObject
import GatewayCompiler.Report

/-!
# Snapshots

A snapshot holds at most one object of each kind and key.  An object takes the place of an earlier
one of its kind and key, which is worth a notice.
-/

namespace GatewayCompiler

structure Snapshot where
  namespaces : Catalog Namespace.name
  gateways : Catalog Gateway.key
  httpRoutes : Catalog HttpRoute.key
  services : Catalog Service.key
  secrets : Catalog Secret.key
  referenceGrants : Catalog ReferenceGrant.key

/-- The objects of a namespace, in ascending order of name. -/
def Catalog.inNamespace {α : Type} {keyOf : α → ObjectKey} (catalog : Catalog keyOf) (ns : String) :
    List α :=
  catalog.values.filter fun object => (keyOf object).ns == ns

namespace Snapshot

def empty : Snapshot := ⟨∅, ∅, ∅, ∅, ∅, ∅⟩

instance : EmptyCollection Snapshot := ⟨empty⟩

/-- The snapshot with the object in it. -/
def insert (snapshot : Snapshot) : ApiObject → Snapshot
  | .ns o => { snapshot with namespaces := snapshot.namespaces.put o }
  | .gateway o => { snapshot with gateways := snapshot.gateways.put o }
  | .httpRoute o => { snapshot with httpRoutes := snapshot.httpRoutes.put o }
  | .service o => { snapshot with services := snapshot.services.put o }
  | .secret o => { snapshot with secrets := snapshot.secrets.put o }
  | .referenceGrant o => { snapshot with referenceGrants := snapshot.referenceGrants.put o }

/-- What to note of an object that would take the place of another. -/
def replacement (snapshot : Snapshot) (object : ApiObject) : List Notice :=
  let noteIf {α : Type} {keyOf : α → ObjectKey} (catalog : Catalog keyOf) (o : α) : List Notice :=
    if catalog.contains (keyOf o) then [.objectReplaced object.kind (keyOf o)] else []
  match object with
  | .ns o => if snapshot.namespaces.contains o.name then [.namespaceReplaced o.name] else []
  | .gateway o => noteIf snapshot.gateways o
  | .httpRoute o => noteIf snapshot.httpRoutes o
  | .service o => noteIf snapshot.services o
  | .secret o => noteIf snapshot.secrets o
  | .referenceGrant o => noteIf snapshot.referenceGrants o

/-- Inserts the object and notes whether it replaces another. -/
def put (snapshot : Snapshot) (object : ApiObject) : Report Fault Snapshot :=
  ⟨snapshot.replacement object, .ok (snapshot.insert object)⟩

/-- Inserts the objects in this order. -/
def putAll (snapshot : Snapshot) (objects : List ApiObject) : Report Fault Snapshot :=
  objects.foldlM put snapshot

def ofObjects (objects : List ApiObject) : Report Fault Snapshot :=
  putAll ∅ objects

def size (snapshot : Snapshot) : Nat :=
  snapshot.namespaces.size + snapshot.gateways.size + snapshot.httpRoutes.size +
    snapshot.services.size + snapshot.secrets.size + snapshot.referenceGrants.size

def isEmpty (snapshot : Snapshot) : Bool :=
  snapshot.size == 0

def namespace? (snapshot : Snapshot) (name : String) : Option Namespace :=
  snapshot.namespaces.get? name

def gateway? (snapshot : Snapshot) (key : ObjectKey) : Option Gateway :=
  snapshot.gateways.get? key

def service? (snapshot : Snapshot) (key : ObjectKey) : Option Service :=
  snapshot.services.get? key

def secret? (snapshot : Snapshot) (key : ObjectKey) : Option Secret :=
  snapshot.secrets.get? key

/-- All routes in ascending order of key. -/
def routes (snapshot : Snapshot) : List HttpRoute :=
  snapshot.httpRoutes.values

def routesIn (snapshot : Snapshot) (ns : String) : List HttpRoute :=
  snapshot.httpRoutes.inNamespace ns

def grantsIn (snapshot : Snapshot) (ns : String) : List ReferenceGrant :=
  snapshot.referenceGrants.inNamespace ns

/-- Refuses a reference into another namespace that no grant of that namespace permits. -/
def ensureAuthorized (snapshot : Snapshot) (referrer : ObjectRef)
    (referrerKind targetKind : GroupKind) (target : ObjectKey) (field : String) :
    Except Fault Unit :=
  GatewayCompiler.ensureAuthorized (snapshot.grantsIn target.ns) referrer referrerKind targetKind
    target field

end Snapshot

end GatewayCompiler
