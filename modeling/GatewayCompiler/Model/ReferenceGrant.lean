import GatewayCompiler.Model.Identity

/-!
# Reference grants

A grant lets objects of other namespaces refer to objects of its own namespace.
-/

namespace GatewayCompiler

/-- Objects of this kind in this namespace may refer. -/
structure GrantSource where
  group : String
  kind : String
  ns : String
  deriving DecidableEq, Repr

/-- Objects of this kind, or the one of this name, may be referred to. -/
structure GrantTarget where
  group : String
  kind : String
  name : Option String
  deriving DecidableEq, Repr

structure ReferenceGrant where
  metadata : Metadata
  sources : List GrantSource
  targets : List GrantTarget
  deriving DecidableEq, Repr

def ReferenceGrant.key (grant : ReferenceGrant) : ObjectKey :=
  grant.metadata.key

end GatewayCompiler
