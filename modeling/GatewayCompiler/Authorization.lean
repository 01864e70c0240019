import GatewayCompiler.Fault
import GatewayCompiler.Model.ReferenceGrant

/-!
# References between namespaces

A reference within a namespace is always allowed.  A reference into another namespace needs a grant
that lives there, lists the kind and namespace of the referrer, and lists the kind of the target,
with its name or with none.
-/

namespace GatewayCompiler

/-- A reference from an object of a kind in a namespace to an object. -/
structure CrossReference where
  source : GroupKind
  sourceNamespace : String
  target : GroupKind
  targetNamespace : String
  targetName : String
  deriving DecidableEq, Repr

def CrossReference.leavesNamespace (reference : CrossReference) : Bool :=
  reference.sourceNamespace != reference.targetNamespace

def GrantSource.covers (source : GrantSource) (reference : CrossReference) : Bool :=
  source.group == reference.source.group && source.kind == reference.source.kind &&
    source.ns == reference.sourceNamespace

def GrantTarget.covers (target : GrantTarget) (reference : CrossReference) : Bool :=
  target.group == reference.target.group && target.kind == reference.target.kind &&
    target.name.all (· == reference.targetName)

/-- A grant permits references into its own namespace only. -/
def ReferenceGrant.permits (grant : ReferenceGrant) (reference : CrossReference) : Bool :=
  grant.metadata.namespaceName == reference.targetNamespace &&
    grant.sources.any (·.covers reference) && grant.targets.any (·.covers reference)

/-- Whether the reference stays in its namespace or one of the grants permits it. -/
def CrossReference.isAuthorized (reference : CrossReference) (grants : List ReferenceGrant) : Bool :=
  !reference.leavesNamespace || grants.any (·.permits reference)

/-- Refuses a reference that is not authorized.  `field` is where the referrer makes it. -/
def ensureAuthorized (grants : List ReferenceGrant) (referrer : ObjectRef)
    (referrerKind targetKind : GroupKind) (target : ObjectKey) (field : String) :
    Except Fault Unit :=
  let reference : CrossReference :=
    ⟨referrerKind, referrer.ns, targetKind, target.ns, target.name⟩
  if reference.isAuthorized grants then .ok ()
  else .error (.unauthorized referrer ⟨targetKind.kind, target.ns, target.name⟩ field)

end GatewayCompiler
