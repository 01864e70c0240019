import GatewayCompiler.Model.Identity
import GatewayCompiler.Schema.Reader
import GatewayCompiler.Schema.Writer

/-!
# The JSON form of metadata and of keys

Labels are left out when there are none.
-/

namespace GatewayCompiler

open Schema

namespace Metadata

def reader : Reader Metadata :=
  Record.reader "ObjectMeta" <| Metadata.mk
    <$> .required "name" Reader.string
    <*> .optional "namespace" Reader.string
    <*> .withDefault "labels" Reader.stringTable ∅

def toJson (metadata : Metadata) : Json :=
  .ofFields <|
    Writer.field "name" (.string metadata.name) ++
    Writer.fieldIfSome "namespace" (metadata.ns.map .string) ++
    (if metadata.labels.isEmpty then [] else [("labels", Writer.stringTable metadata.labels)])

end Metadata

namespace ObjectKey

def reader : Reader ObjectKey :=
  Record.reader "ObjectKey" <| ObjectKey.mk
    <$> .required "namespace" Reader.string
    <*> .required "name" Reader.string

def toJson (key : ObjectKey) : Json :=
  .ofFields [("namespace", .string key.ns), ("name", .string key.name)]

end ObjectKey

end GatewayCompiler
