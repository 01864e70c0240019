import GatewayCompiler.Table

/-!
# Object identity

An object is known by its namespace and name within its kind.  Keys are ordered by namespace, then
by name; every listing follows that order.
-/

namespace GatewayCompiler

/-- The namespace of a namespaced object that does not give one. -/
def defaultNamespace : String := "default"

/-- The API group of gateways, routes and grants. -/
def gatewayGroup : String := "gateway.networking.k8s.io"

/-- The API group of namespaces, services and secrets. -/
def coreGroup : String := ""

abbrev Labels := Table String String

structure Metadata where
  name : String
  ns : Option String
  labels : Labels
  deriving DecidableEq, Repr, Inhabited

/-- The namespace of an object, `default` when it gives none. -/
def Metadata.namespaceName (metadata : Metadata) : String :=
  metadata.ns.getD defaultNamespace

/-- A namespaced object among those of its kind. -/
structure ObjectKey where
  ns : String
  name : String
  deriving DecidableEq, Repr, Inhabited

namespace ObjectKey

instance : Ord ObjectKey := ⟨compareLex (compareOn ns) (compareOn name)⟩

instance : Std.TransOrd ObjectKey :=
  inferInstanceAs (Std.TransCmp (compareLex (compareOn ns) (compareOn name)))

instance : Std.LawfulEqOrd ObjectKey where
  eq_of_compare {a b} h := by
    have h' : (compareOn ns a b).then (compareOn name a b) = .eq := h
    simp only [Ordering.then_eq_eq, compareOn, Std.compare_eq_iff_eq] at h'
    cases a; cases b; simp_all

def display (key : ObjectKey) : String :=
  s!"{key.ns}/{key.name}"

end ObjectKey

def Metadata.key (metadata : Metadata) : ObjectKey :=
  ⟨metadata.namespaceName, metadata.name⟩

/-- An object of any kind, as messages name it. -/
structure ObjectRef where
  kind : String
  ns : String
  name : String
  deriving DecidableEq, Repr, Inhabited

namespace ObjectRef

def key (object : ObjectRef) : ObjectKey :=
  ⟨object.ns, object.name⟩

def display (object : ObjectRef) : String :=
  s!"{object.kind} {object.key.display}"

end ObjectRef

/-- The object of a kind with this metadata. -/
def Metadata.ref (metadata : Metadata) (kind : String) : ObjectRef :=
  ⟨kind, metadata.namespaceName, metadata.name⟩

/-- A kind of object within its API group. -/
structure GroupKind where
  group : String
  kind : String
  deriving DecidableEq, Repr, Inhabited

namespace GroupKind

def gateway : GroupKind := ⟨gatewayGroup, "Gateway"⟩

def httpRoute : GroupKind := ⟨gatewayGroup, "HTTPRoute"⟩

def service : GroupKind := ⟨coreGroup, "Service"⟩

def secret : GroupKind := ⟨coreGroup, "Secret"⟩

/-- The kind, followed by its group unless that is the core group. -/
def display (kind : GroupKind) : String :=
  if kind.group = "" then kind.kind else s!"{kind.kind}.{kind.group}"

end GroupKind

end GatewayCompiler
