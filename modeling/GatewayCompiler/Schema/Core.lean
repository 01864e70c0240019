import GatewayCompiler.Model.Core
import GatewayCompiler.Schema.Metadata

/-!
# The JSON form of Namespaces, Services and Secrets
-/

namespace GatewayCompiler

open Schema

namespace Namespace

def reader : Reader Namespace :=
  Record.reader "Namespace" <| Namespace.mk <$> .required "metadata" Metadata.reader

def toJson (object : Namespace) : Json :=
  .ofFields [("metadata", object.metadata.toJson)]

end Namespace

namespace ServicePort

def reader : Reader ServicePort :=
  Record.reader "ServicePort" <| ServicePort.mk
    <$> .optional "name" Reader.string
    <*> .required "port" Reader.uint16
    <*> .optional "protocol" Reader.string

def toJson (port : ServicePort) : Json :=
  .ofFields <|
    Writer.fieldIfSome "name" (port.name.map .string) ++
    Writer.field "port" (Writer.uint16 port.port) ++
    Writer.fieldIfSome "protocol" (port.protocol.map .string)

end ServicePort

namespace Service

/-- What stands under `spec`: the cluster address and the ports. -/
def specReader : Reader (Option String × List ServicePort) :=
  Record.reader "ServiceSpec" <| Prod.mk
    <$> .optional "clusterIP" Reader.string
    <*> .list "ports" ServicePort.reader

def reader : Reader Service :=
  Record.reader "Service" <|
    (fun metadata (clusterIP, ports) => ⟨metadata, clusterIP, ports⟩)
    <$> .required "metadata" Metadata.reader
    <*> .withDefault "spec" specReader (none, [])

def toJson (service : Service) : Json :=
  .ofFields [
    ("metadata", service.metadata.toJson),
    ("spec", .ofFields <|
      Writer.fieldIfSome "clusterIP" (service.clusterIP.map .string) ++
      Writer.field "ports" (Writer.list ServicePort.toJson service.ports))]

end Service

namespace Secret

def reader : Reader Secret :=
  Record.reader "Secret" <| Secret.mk
    <$> .required "metadata" Metadata.reader
    <*> .optional "type" Reader.string
    <*> .withDefault "data" Reader.stringTable ∅

def toJson (secret : Secret) : Json :=
  .ofFields <|
    Writer.field "metadata" secret.metadata.toJson ++
    Writer.fieldIfSome "type" (secret.type.map .string) ++
    Writer.field "data" (Writer.stringTable secret.data)

end Secret

end GatewayCompiler
