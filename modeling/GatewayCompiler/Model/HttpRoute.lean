import GatewayCompiler.Model.Identity

/-!
# HTTP routes

A route names the Gateways it attaches to, the hostnames it serves, and a list of rules.  A rule has
matches, filters and weighted backends.
-/

namespace GatewayCompiler

/-- A Gateway, or one of its listeners, that a route attaches to. -/
structure ParentRef where
  group : Option String
  kind : Option String
  ns : Option String
  name : String
  sectionName : Option String
  port : Option UInt16
  deriving DecidableEq, Repr

def ParentRef.groupKind (parent : ParentRef) : GroupKind :=
  ⟨parent.group.getD gatewayGroup, parent.kind.getD "Gateway"⟩

inductive PathMatchKind where
  | exact
  | pathPrefix
  | regularExpression
  deriving DecidableEq, Repr

structure PathMatch where
  kind : PathMatchKind
  value : String
  deriving DecidableEq, Repr

/-- A match without a path accepts every path. -/
def PathMatch.root : PathMatch := ⟨.pathPrefix, "/"⟩

inductive ValueMatchKind where
  | exact
  | regularExpression
  deriving DecidableEq, Repr

/-- A condition on the value of a header or query parameter. -/
structure ValueMatch where
  kind : ValueMatchKind
  name : String
  value : String
  deriving DecidableEq, Repr

structure RouteMatch where
  path : Option PathMatch
  headers : List ValueMatch
  queryParams : List ValueMatch
  method : Option String
  deriving DecidableEq, Repr

namespace RouteMatch

/-- What a rule without matches accepts: every request. -/
def everything : RouteMatch := ⟨none, [], [], none⟩

def pathOrRoot (m : RouteMatch) : PathMatch :=
  m.path.getD PathMatch.root

end RouteMatch

structure HttpHeader where
  name : String
  value : String
  deriving DecidableEq, Repr

structure HeaderModifier where
  set : List HttpHeader
  add : List HttpHeader
  remove : List String
  deriving DecidableEq, Repr

structure PathModifier where
  kind : String
  replaceFullPath : Option String
  replacePrefixMatch : Option String
  deriving DecidableEq, Repr

structure RequestRedirect where
  scheme : Option String
  hostname : Option String
  path : Option PathModifier
  port : Option UInt16
  statusCode : Option UInt16
  deriving DecidableEq, Repr

structure UrlRewrite where
  hostname : Option String
  path : Option PathModifier
  deriving DecidableEq, Repr

/-- A filter names its kind and carries the body of that kind.  Kinds that are not supported are
kept, so that they can be reported. -/
structure RouteFilter where
  kind : String
  requestHeaderModifier : Option HeaderModifier
  responseHeaderModifier : Option HeaderModifier
  requestRedirect : Option RequestRedirect
  urlRewrite : Option UrlRewrite
  deriving DecidableEq, Repr

/-- A port of a backend, by number or by name. -/
inductive BackendPort where
  | number (port : UInt16)
  | name (value : String)
  deriving DecidableEq, Repr

def BackendPort.display : BackendPort → String
  | .number port => toString port.toNat
  | .name value => value

structure BackendRef where
  group : Option String
  kind : Option String
  name : String
  ns : Option String
  port : Option BackendPort
  weight : Option UInt32
  filters : List RouteFilter
  deriving DecidableEq, Repr

namespace BackendRef

def groupKind (backend : BackendRef) : GroupKind :=
  ⟨backend.group.getD coreGroup, backend.kind.getD "Service"⟩

/-- A backend without a weight has weight one. -/
def weightOrOne (backend : BackendRef) : UInt32 :=
  backend.weight.getD 1

end BackendRef

structure RouteRule where
  matchList : List RouteMatch
  filters : List RouteFilter
  backendRefs : List BackendRef
  deriving DecidableEq, Repr

structure HttpRoute where
  metadata : Metadata
  parentRefs : List ParentRef
  hostnames : List String
  rules : List RouteRule
  deriving DecidableEq, Repr

namespace HttpRoute

def key (route : HttpRoute) : ObjectKey :=
  route.metadata.key

def ref (route : HttpRoute) : ObjectRef :=
  route.metadata.ref "HTTPRoute"

def namespaceName (route : HttpRoute) : String :=
  route.metadata.namespaceName

end HttpRoute

end GatewayCompiler
