import GatewayCompiler.Model.Gateway
import GatewayCompiler.Schema.LabelSelector
import GatewayCompiler.Schema.Metadata

/-!
# The JSON form of Gateways
-/

namespace GatewayCompiler

open Schema

def TlsMode.words : List (String × TlsMode) :=
  [("Terminate", .terminate), ("Passthrough", .passthrough)]

def NamespaceScope.words : List (String × NamespaceScope) :=
  [("All", .all), ("Same", .same), ("Selector", .selector)]

namespace CertificateRef

def reader : Reader CertificateRef :=
  Record.reader "SecretObjectReference" <| CertificateRef.mk
    <$> .optional "group" Reader.string
    <*> .optional "kind" Reader.string
    <*> .required "name" Reader.string
    <*> .optional "namespace" Reader.string

def toJson (ref : CertificateRef) : Json :=
  .ofFields [
    ("group", Writer.option .string ref.group),
    ("kind", Writer.option .string ref.kind),
    ("name", .string ref.name),
    ("namespace", Writer.option .string ref.ns)]

end CertificateRef

namespace ListenerTls

def reader : Reader ListenerTls :=
  Record.reader "GatewayTlsConfig" <| ListenerTls.mk
    <$> .withDefault "mode" (Reader.enumeration TlsMode.words) .terminate
    <*> .list "certificateRefs" CertificateRef.reader

def toJson (tls : ListenerTls) : Json :=
  .ofFields [
    ("mode", Writer.enumeration TlsMode.words tls.mode),
    ("certificateRefs", Writer.list CertificateRef.toJson tls.certificateRefs)]

end ListenerTls

namespace RouteNamespaces

def reader : Reader RouteNamespaces :=
  Record.reader "RouteNamespaces" <| RouteNamespaces.mk
    <$> .withDefault "from" (Reader.enumeration NamespaceScope.words) .same
    <*> .optional "selector" LabelSelector.reader

def toJson (namespaces : RouteNamespaces) : Json :=
  .ofFields [
    ("from", Writer.enumeration NamespaceScope.words namespaces.scope),
    ("selector", Writer.option LabelSelector.toJson namespaces.selector)]

end RouteNamespaces

namespace RouteKind

def reader : Reader RouteKind :=
  Record.reader "RouteGroupKind" <| RouteKind.mk
    <$> .optional "group" Reader.string
    <*> .required "kind" Reader.string

def toJson (kind : RouteKind) : Json :=
  .ofFields [("group", Writer.option .string kind.group), ("kind", .string kind.kind)]

end RouteKind

namespace AllowedRoutes

def reader : Reader AllowedRoutes :=
  Record.reader "AllowedRoutes" <| AllowedRoutes.mk
    <$> .optional "namespaces" RouteNamespaces.reader
    <*> .list "kinds" RouteKind.reader

def toJson (allowed : AllowedRoutes) : Json :=
  .ofFields [
    ("namespaces", Writer.option RouteNamespaces.toJson allowed.namespaces),
    ("kinds", Writer.list RouteKind.toJson allowed.kinds)]

end AllowedRoutes

namespace Listener

def reader : Reader Listener :=
  Record.reader "Listener" <| Listener.mk
    <$> .required "name" Reader.string
    <*> .required "port" Reader.uint16
    <*> .required "protocol" Reader.string
    <*> .optional "hostname" Reader.string
    <*> .optional "tls" ListenerTls.reader
    <*> .optional "allowedRoutes" AllowedRoutes.reader

def toJson (listener : Listener) : Json :=
  .ofFields <|
    Writer.field "name" (.string listener.name) ++
    Writer.field "port" (Writer.uint16 listener.port) ++
    Writer.field "protocol" (.string listener.protocol) ++
    Writer.fieldIfSome "hostname" (listener.hostname.map .string) ++
    Writer.fieldIfSome "tls" (listener.tls.map ListenerTls.toJson) ++
    Writer.fieldIfSome "allowedRoutes" (listener.allowedRoutes.map AllowedRoutes.toJson)

end Listener

namespace Gateway

/-- What stands under `spec`: the class and the listeners. -/
def specReader : Reader (String × List Listener) :=
  Record.reader "GatewaySpec" <| Prod.mk
    <$> .withDefault "gatewayClassName" Reader.string ""
    <*> .list "listeners" Listener.reader

def reader : Reader Gateway :=
  Record.reader "Gateway" <|
    (fun metadata (className, listeners) => ⟨metadata, className, listeners⟩)
    <$> .required "metadata" Metadata.reader
    <*> .required "spec" specReader

def toJson (gateway : Gateway) : Json :=
  .ofFields [
    ("metadata", gateway.metadata.toJson),
    ("spec", .ofFields [
      ("gatewayClassName", .string gateway.className),
      ("listeners", Writer.list Listener.toJson gateway.listeners)])]

end Gateway

end GatewayCompiler
