import GatewayCompiler.Envoy.Common

/-!
# Route configurations

A route configuration has virtual hosts, a virtual host has domains and routes, and a route has a
match and an action.
-/

namespace GatewayCompiler.Envoy

inductive PathSpecifier where
  | path (value : String)
  | pathPrefix (value : String)
  | separatedPrefix (value : String)
  | regex (value : String)
  deriving DecidableEq, Repr

/-- A condition on a header or query parameter. -/
inductive ValueSpecifier where
  | exact (value : String)
  | regex (value : String)
  | present (value : Bool)
  deriving DecidableEq, Repr

structure ValueMatcher where
  name : String
  specifier : Option ValueSpecifier
  deriving DecidableEq, Repr

structure RouteMatch where
  path : Option PathSpecifier
  headers : List ValueMatcher
  queryParameters : List ValueMatcher
  deriving DecidableEq, Repr

structure ClusterWeight where
  name : String
  weight : Option UInt32
  deriving DecidableEq, Repr

inductive ClusterSpecifier where
  | cluster (name : String)
  | header (name : String)
  | weighted (clusters : List ClusterWeight) (totalWeight : Option UInt32)
  deriving DecidableEq, Repr

structure ForwardAction where
  cluster : Option ClusterSpecifier
  hostRewrite : Option String
  regexRewrite : Option RegexRewrite
  deriving DecidableEq, Repr

inductive PathRedirect where
  | path (value : String)
  | regex (rewrite : RegexRewrite)
  deriving DecidableEq, Repr

inductive RedirectCode where
  | movedPermanently
  | found
  | seeOther
  | temporaryRedirect
  | permanentRedirect
  deriving DecidableEq, Repr

namespace RedirectCode

def all : List RedirectCode :=
  [.movedPermanently, .found, .seeOther, .temporaryRedirect, .permanentRedirect]

/-- The number of a code in its message. -/
def number : RedirectCode → Nat
  | .movedPermanently => 0
  | .found => 1
  | .seeOther => 2
  | .temporaryRedirect => 3
  | .permanentRedirect => 4

/-- The HTTP status a code answers with. -/
def status : RedirectCode → UInt32
  | .movedPermanently => 301
  | .found => 302
  | .seeOther => 303
  | .temporaryRedirect => 307
  | .permanentRedirect => 308

def ofStatus? (status : UInt32) : Option RedirectCode :=
  all.find? (·.status == status)

end RedirectCode

structure RedirectAction where
  scheme : Option String
  host : String
  port : UInt32
  path : Option PathRedirect
  code : UInt32
  deriving DecidableEq, Repr

structure DirectResponse where
  status : UInt32
  body : Option DataSource
  deriving DecidableEq, Repr

inductive RouteAction where
  | forward (action : ForwardAction)
  | redirect (action : RedirectAction)
  | respond (response : DirectResponse)
  deriving DecidableEq, Repr

/-- How a header is added to those that are there, by the number of the choice. -/
structure HeaderOption where
  key : String
  value : String
  appendAction : UInt32
  deriving DecidableEq, Repr

/-- Adds a value beside those that are there. -/
def appendOrAdd : UInt32 := 0

/-- Replaces the values that are there. -/
def overwriteOrAdd : UInt32 := 2

structure Route where
  name : String
  routeMatch : Option RouteMatch
  action : Option RouteAction
  requestHeadersToAdd : List HeaderOption
  requestHeadersToRemove : List String
  responseHeadersToAdd : List HeaderOption
  responseHeadersToRemove : List String
  deriving DecidableEq, Repr

structure VirtualHost where
  name : String
  domains : List String
  routes : List Route
  deriving DecidableEq, Repr

structure RouteConfiguration where
  name : String
  virtualHosts : List VirtualHost
  deriving DecidableEq, Repr

end GatewayCompiler.Envoy
