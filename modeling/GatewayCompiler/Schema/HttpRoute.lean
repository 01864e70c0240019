import GatewayCompiler.Model.HttpRoute
import GatewayCompiler.Schema.Metadata

/-!
# The JSON form of HTTP routes
-/

namespace GatewayCompiler

open Schema

def PathMatchKind.words : List (String × PathMatchKind) :=
  [("Exact", .exact), ("PathPrefix", .pathPrefix), ("RegularExpression", .regularExpression)]

def ValueMatchKind.words : List (String × ValueMatchKind) :=
  [("Exact", .exact), ("RegularExpression", .regularExpression)]

namespace ParentRef

def reader : Reader ParentRef :=
  Record.reader "ParentReference" <| ParentRef.mk
    <$> .optional "group" Reader.string
    <*> .optional "kind" Reader.string
    <*> .optional "namespace" Reader.string
    <*> .required "name" Reader.string
    <*> .optional "sectionName" Reader.string
    <*> .optional "port" Reader.uint16

def toJson (parent : ParentRef) : Json :=
  .ofFields [
    ("group", Writer.option .string parent.group),
    ("kind", Writer.option .string parent.kind),
    ("namespace", Writer.option .string parent.ns),
    ("name", .string parent.name),
    ("sectionName", Writer.option .string parent.sectionName),
    ("port", Writer.option Writer.uint16 parent.port)]

end ParentRef

namespace PathMatch

def reader : Reader PathMatch :=
  Record.reader "HttpPathMatch" <| PathMatch.mk
    <$> .withDefault "type" (Reader.enumeration PathMatchKind.words) .pathPrefix
    <*> .withDefault "value" Reader.string "/"

def toJson (path : PathMatch) : Json :=
  .ofFields [
    ("type", Writer.enumeration PathMatchKind.words path.kind),
    ("value", .string path.value)]

end PathMatch

namespace ValueMatch

def reader (typeName : String) : Reader ValueMatch :=
  Record.reader typeName <| ValueMatch.mk
    <$> .withDefault "type" (Reader.enumeration ValueMatchKind.words) .exact
    <*> .required "name" Reader.string
    <*> .required "value" Reader.string

def toJson (m : ValueMatch) : Json :=
  .ofFields [
    ("type", Writer.enumeration ValueMatchKind.words m.kind),
    ("name", .string m.name),
    ("value", .string m.value)]

end ValueMatch

namespace RouteMatch

def reader : Reader RouteMatch :=
  Record.reader "HttpRouteMatch" <| RouteMatch.mk
    <$> .optional "path" PathMatch.reader
    <*> .list "headers" (ValueMatch.reader "HttpHeaderMatch")
    <*> .list "queryParams" (ValueMatch.reader "HttpQueryParamMatch")
    <*> .optional "method" Reader.string

def toJson (m : RouteMatch) : Json :=
  .ofFields [
    ("path", Writer.option PathMatch.toJson m.path),
    ("headers", Writer.list ValueMatch.toJson m.headers),
    ("queryParams", Writer.list ValueMatch.toJson m.queryParams),
    ("method", Writer.option .string m.method)]

end RouteMatch

namespace HttpHeader

def reader : Reader HttpHeader :=
  Record.reader "HttpHeader" <| HttpHeader.mk
    <$> .required "name" Reader.string
    <*> .required "value" Reader.string

def toJson (header : HttpHeader) : Json :=
  .ofFields [("name", .string header.name), ("value", .string header.value)]

end HttpHeader

namespace HeaderModifier

def reader : Reader HeaderModifier :=
  Record.reader "HeaderModifier" <| HeaderModifier.mk
    <$> .list "set" HttpHeader.reader
    <*> .list "add" HttpHeader.reader
    <*> .list "remove" Reader.string

def toJson (modifier : HeaderModifier) : Json :=
  .ofFields [
    ("set", Writer.list HttpHeader.toJson modifier.set),
    ("add", Writer.list HttpHeader.toJson modifier.add),
    ("remove", Writer.list .string modifier.remove)]

end HeaderModifier

namespace PathModifier

def reader : Reader PathModifier :=
  Record.reader "HttpPathModifier" <| PathModifier.mk
    <$> .required "type" Reader.string
    <*> .optional "replaceFullPath" Reader.string
    <*> .optional "replacePrefixMatch" Reader.string

def toJson (modifier : PathModifier) : Json :=
  .ofFields [
    ("type", .string modifier.kind),
    ("replaceFullPath", Writer.option .string modifier.replaceFullPath),
    ("replacePrefixMatch", Writer.option .string modifier.replacePrefixMatch)]

end PathModifier

namespace RequestRedirect

def reader : Reader RequestRedirect :=
  Record.reader "RequestRedirect" <| RequestRedirect.mk
    <$> .optional "scheme" Reader.string
    <*> .optional "hostname" Reader.string
    <*> .optional "path" PathModifier.reader
    <*> .optional "port" Reader.uint16
    <*> .optional "statusCode" Reader.uint16

def toJson (redirect : RequestRedirect) : Json :=
  .ofFields [
    ("scheme", Writer.option .string redirect.scheme),
    ("hostname", Writer.option .string redirect.hostname),
    ("path", Writer.option PathModifier.toJson redirect.path),
    ("port", Writer.option Writer.uint16 redirect.port),
    ("statusCode", Writer.option Writer.uint16 redirect.statusCode)]

end RequestRedirect

namespace UrlRewrite

def reader : Reader UrlRewrite :=
  Record.reader "UrlRewrite" <| UrlRewrite.mk
    <$> .optional "hostname" Reader.string
    <*> .optional "path" PathModifier.reader

def toJson (rewrite : UrlRewrite) : Json :=
  .ofFields [
    ("hostname", Writer.option .string rewrite.hostname),
    ("path", Writer.option PathModifier.toJson rewrite.path)]

end UrlRewrite

namespace RouteFilter

def reader : Reader RouteFilter :=
  Record.reader "HttpRouteFilter" <| RouteFilter.mk
    <$> .required "type" Reader.string
    <*> .optional "requestHeaderModifier" HeaderModifier.reader
    <*> .optional "responseHeaderModifier" HeaderModifier.reader
    <*> .optional "requestRedirect" RequestRedirect.reader
    <*> .optional "urlRewrite" UrlRewrite.reader

def toJson (filter : RouteFilter) : Json :=
  .ofFields <|
    Writer.field "type" (.string filter.kind) ++
    Writer.fieldIfSome "requestHeaderModifier"
      (filter.requestHeaderModifier.map HeaderModifier.toJson) ++
    Writer.fieldIfSome "responseHeaderModifier"
      (filter.responseHeaderModifier.map HeaderModifier.toJson) ++
    Writer.fieldIfSome "requestRedirect" (filter.requestRedirect.map RequestRedirect.toJson) ++
    Writer.fieldIfSome "urlRewrite" (filter.urlRewrite.map UrlRewrite.toJson)

end RouteFilter

namespace BackendPort

/-- A number that is a port, or else a name. -/
def reader : Reader BackendPort := fun json =>
  match Reader.uint16 json with
  | .ok port => .ok (.number port)
  | .error _ =>
    match json with
    | .string s => .ok (.name s)
    | _ => .error (.alternative "BackendPort")

def toJson : BackendPort → Json
  | .number port => Writer.uint16 port
  | .name value => .string value

end BackendPort

namespace BackendRef

def reader : Reader BackendRef :=
  Record.reader "HttpBackendRef" <| BackendRef.mk
    <$> .optional "group" Reader.string
    <*> .optional "kind" Reader.string
    <*> .required "name" Reader.string
    <*> .optional "namespace" Reader.string
    <*> .optional "port" BackendPort.reader
    <*> .optional "weight" Reader.uint32
    <*> .list "filters" RouteFilter.reader

def toJson (backend : BackendRef) : Json :=
  .ofFields [
    ("group", Writer.option .string backend.group),
    ("kind", Writer.option .string backend.kind),
    ("name", .string backend.name),
    ("namespace", Writer.option .string backend.ns),
    ("port", Writer.option BackendPort.toJson backend.port),
    ("weight", Writer.option Writer.uint32 backend.weight),
    ("filters", Writer.list RouteFilter.toJson backend.filters)]

end BackendRef

namespace RouteRule

def reader : Reader RouteRule :=
  Record.reader "HttpRouteRule" <| RouteRule.mk
    <$> .list "matches" RouteMatch.reader
    <*> .list "filters" RouteFilter.reader
    <*> .list "backendRefs" BackendRef.reader

def toJson (rule : RouteRule) : Json :=
  .ofFields [
    ("matches", Writer.list RouteMatch.toJson rule.matchList),
    ("filters", Writer.list RouteFilter.toJson rule.filters),
    ("backendRefs", Writer.list BackendRef.toJson rule.backendRefs)]

end RouteRule

namespace HttpRoute

/-- What stands under `spec`: the parents, the hostnames and the rules. -/
def specReader : Reader (List ParentRef × List String × List RouteRule) :=
  Record.reader "HttpRouteSpec" <| (fun parents hostnames rules => (parents, hostnames, rules))
    <$> .list "parentRefs" ParentRef.reader
    <*> .list "hostnames" Reader.string
    <*> .list "rules" RouteRule.reader

def reader : Reader HttpRoute :=
  Record.reader "HttpRoute" <|
    (fun metadata (parents, hostnames, rules) => ⟨metadata, parents, hostnames, rules⟩)
    <$> .required "metadata" Metadata.reader
    <*> .withDefault "spec" specReader ([], [], [])

def toJson (route : HttpRoute) : Json :=
  .ofFields [
    ("metadata", route.metadata.toJson),
    ("spec", .ofFields [
      ("parentRefs", Writer.list ParentRef.toJson route.parentRefs),
      ("hostnames", Writer.list .string route.hostnames),
      ("rules", Writer.list RouteRule.toJson route.rules)])]

end HttpRoute

end GatewayCompiler
