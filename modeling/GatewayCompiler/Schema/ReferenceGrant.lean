import GatewayCompiler.Model.ReferenceGrant
import GatewayCompiler.Schema.Metadata

/-!
# The JSON form of reference grants
-/

namespace GatewayCompiler

open Schema

namespace GrantSource

def reader : Reader GrantSource :=
  Record.reader "ReferenceGrantFrom" <| GrantSource.mk
    <$> .withDefault "group" Reader.string ""
    <*> .required "kind" Reader.string
    <*> .required "namespace" Reader.string

def toJson (source : GrantSource) : Json :=
  .ofFields [
    ("group", .string source.group),
    ("kind", .string source.kind),
    ("namespace", .string source.ns)]

end GrantSource

namespace GrantTarget

def reader : Reader GrantTarget :=
  Record.reader "ReferenceGrantTo" <| GrantTarget.mk
    <$> .withDefault "group" Reader.string ""
    <*> .required "kind" Reader.string
    <*> .optional "name" Reader.string

def toJson (target : GrantTarget) : Json :=
  .ofFields <|
    Writer.field "group" (.string target.group) ++
    Writer.field "kind" (.string target.kind) ++
    Writer.fieldIfSome "name" (target.name.map .string)

end GrantTarget

namespace ReferenceGrant

/-- What stands under `spec`: who may refer, and to what. -/
def specReader : Reader (List GrantSource × List GrantTarget) :=
  Record.reader "ReferenceGrantSpec" <| Prod.mk
    <$> .list "from" GrantSource.reader
    <*> .list "to" GrantTarget.reader

def reader : Reader ReferenceGrant :=
  Record.reader "ReferenceGrant" <|
    (fun metadata (sources, targets) => ⟨metadata, sources, targets⟩)
    <$> .required "metadata" Metadata.reader
    <*> .withDefault "spec" specReader ([], [])

def toJson (grant : ReferenceGrant) : Json :=
  .ofFields [
    ("metadata", grant.metadata.toJson),
    ("spec", .ofFields [
      ("from", Writer.list GrantSource.toJson grant.sources),
      ("to", Writer.list GrantTarget.toJson grant.targets)])]

end ReferenceGrant

end GatewayCompiler
