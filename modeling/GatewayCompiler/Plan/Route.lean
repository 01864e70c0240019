import GatewayCompiler.Envoy.Route
import GatewayCompiler.Fault
import GatewayCompiler.Text.Blank

/-!
# Plans of route configurations

A planned route has a match, an action and changes of headers.  A path is matched whole, by a prefix
of its characters, by a prefix of its segments, or by a regular expression; a prefix of segments is
replaced by rewriting with a regular expression, so that the path keeps one slash where the
replacement ends.
-/

namespace GatewayCompiler

inductive PathPlan where
  | exact (path : String)
  | pathPrefix (path : String)
  | segments (path : String)
  | regex (pattern : String)
  deriving DecidableEq, Repr

/-- A condition on a header or query parameter: a value goes before a pattern, a pattern before
presence. -/
structure ValuePlan where
  name : String
  value : Option String
  regex : Option String
  present : Option Bool
  deriving DecidableEq, Repr

structure MatchPlan where
  path : PathPlan
  headers : List ValuePlan
  queryParameters : List ValuePlan
  deriving DecidableEq, Repr

/-- Replaces a prefix of segments. -/
structure PathReplacement where
  matched : String
  replacement : String
  deriving DecidableEq, Repr

structure RewritePlan where
  host : Option String
  segments : Option PathReplacement
  fullPath : Option String
  deriving DecidableEq, Repr

def RewritePlan.none : RewritePlan := ⟨.none, .none, .none⟩

structure WeightedPlan where
  name : String
  weight : UInt32
  deriving DecidableEq, Repr

structure RedirectPlan where
  scheme : Option String
  host : Option String
  port : Option UInt32
  path : Option String
  segments : Option PathReplacement
  status : Option UInt32
  deriving DecidableEq, Repr

inductive ActionPlan where
  | forward (clusters : List WeightedPlan) (totalWeight : Option UInt32)
    (rewrite : Option RewritePlan)
  | redirect (plan : RedirectPlan)
  | respond (status : UInt32) (body : Option String)
  deriving DecidableEq, Repr

/-- Headers to set, to add and to remove. -/
structure HeaderChanges where
  set : List (String × String)
  add : List (String × String)
  remove : List String
  deriving DecidableEq, Repr

structure RoutePlan where
  name : Option String
  routeMatch : MatchPlan
  action : ActionPlan
  requestHeaders : HeaderChanges
  responseHeaders : HeaderChanges
  deriving DecidableEq, Repr

structure VirtualHostPlan where
  name : String
  domains : List String
  routes : List RoutePlan
  deriving DecidableEq, Repr

structure RouteConfigurationPlan where
  name : String
  virtualHosts : List VirtualHostPlan
  deriving DecidableEq, Repr

/-- The path without the slashes at its end. -/
def trimSlashes (path : String) : String :=
  String.ofList (Text.dropEndWhile (· == '/') path.toList)

/-- Whether a character has a meaning of its own in a regular expression. -/
def isRegexMeta (c : Char) : Bool :=
  "\\.+*?()|[]\x7b\x7d^$#&-~".toList.contains c

/-- A regular expression that matches the text alone. -/
def escapeRegex (text : String) : String :=
  String.ofList (text.toList.flatMap fun c => if isRegexMeta c then ['\\', c] else [c])

namespace PathPlan

/-- Every path starts with the empty prefix of segments. -/
def toSpecifier : PathPlan → Envoy.PathSpecifier
  | .exact path => .path path
  | .pathPrefix path => .pathPrefix path
  | .segments path =>
    let trimmed := trimSlashes path
    if trimmed.isEmpty then .pathPrefix "/" else .separatedPrefix trimmed
  | .regex pattern => .regex pattern

end PathPlan

namespace ValuePlan

def toMatcher (plan : ValuePlan) : Envoy.ValueMatcher :=
  ⟨plan.name, some <|
    match plan.value, plan.regex with
    | some value, _ => .exact value
    | none, some regex => .regex regex
    | none, none => .present (plan.present.getD true)⟩

end ValuePlan

namespace MatchPlan

def toMatch (plan : MatchPlan) : Envoy.RouteMatch :=
  ⟨some plan.path.toSpecifier, plan.headers.map ValuePlan.toMatcher,
    plan.queryParameters.map ValuePlan.toMatcher⟩

end MatchPlan

namespace PathReplacement

/-- Where nothing replaces the prefix, the rest of the path starts with a single slash. -/
def toRegex (replacement : PathReplacement) : Envoy.RegexRewrite :=
  let matched := escapeRegex (trimSlashes replacement.matched)
  let target := trimSlashes replacement.replacement
  if target.isEmpty then ⟨some s!"^{matched}/*(.*)$", "/\\1"⟩
  else ⟨some s!"^{matched}(/.*)?$", s!"{target}\\1"⟩

end PathReplacement

namespace RewritePlan

/-- A replacement of the whole path goes before a replacement of its prefix. -/
def toRegex? (rewrite : RewritePlan) : Option Envoy.RegexRewrite :=
  match rewrite.fullPath with
  | some path => some ⟨some "^/.*$", path⟩
  | .none => rewrite.segments.map PathReplacement.toRegex

end RewritePlan

namespace RedirectPlan

/-- A redirect without a status has moved permanently. -/
def code? (redirect : RedirectPlan) : Option Envoy.RedirectCode :=
  match redirect.status with
  | some status => Envoy.RedirectCode.ofStatus? status
  | none => some .movedPermanently

def toPath (redirect : RedirectPlan) : Option Envoy.PathRedirect :=
  match redirect.path with
  | some path => some (.path path)
  | none => redirect.segments.map fun replacement => .regex replacement.toRegex

def toAction (redirect : RedirectPlan) (code : Envoy.RedirectCode) : Envoy.RedirectAction where
  scheme := redirect.scheme
  host := redirect.host.getD ""
  port := redirect.port.getD 0
  path := redirect.toPath
  code := UInt32.ofNat code.number

end RedirectPlan

namespace ActionPlan

/-- Puts the replacement of a prefix into an action that has a path to rewrite. -/
def withReplacement (action : ActionPlan) (replacement : PathReplacement) : ActionPlan :=
  match action with
  | .forward clusters totalWeight rewrite =>
    .forward clusters totalWeight
      (some { rewrite.getD RewritePlan.none with segments := some replacement })
  | .redirect plan => .redirect { plan with segments := some replacement }
  | .respond status body => .respond status body

def forwardAction (clusters : List WeightedPlan) (totalWeight : Option UInt32)
    (rewrite : Option RewritePlan) : Envoy.ForwardAction where
  cluster := some (.weighted (clusters.map fun c => ⟨c.name, some c.weight⟩) totalWeight)
  hostRewrite := rewrite.bind (·.host)
  regexRewrite := rewrite.bind RewritePlan.toRegex?

/-- The action of the route of this name. -/
def toAction (routeName : String) : ActionPlan → Except Fault Envoy.RouteAction
  | .forward clusters totalWeight rewrite =>
    if clusters.isEmpty then
      .error (.inconsistent "Route" routeName "has a weighted-cluster action without clusters")
    else .ok (.forward (forwardAction clusters totalWeight rewrite))
  | .redirect plan =>
    match plan.code? with
    | some code => .ok (.redirect (plan.toAction code))
    | none => .error <| .inconsistent "Route" routeName
        s!"has unsupported redirect status code {(plan.status.getD 0).toNat}"
  | .respond status body => .ok (.respond ⟨status, body.map .text⟩)

end ActionPlan

namespace HeaderChanges

def none : HeaderChanges := ⟨[], [], []⟩

def isEmpty (changes : HeaderChanges) : Bool :=
  changes.set.isEmpty && changes.add.isEmpty && changes.remove.isEmpty

/-- Headers that replace come before headers that are added. -/
def toOptions (changes : HeaderChanges) : List Envoy.HeaderOption :=
  (changes.set.map fun (key, value) => ⟨key, value, Envoy.overwriteOrAdd⟩) ++
    changes.add.map fun (key, value) => ⟨key, value, Envoy.appendOrAdd⟩

end HeaderChanges

namespace RoutePlan

def toRoute (plan : RoutePlan) : Except Fault Envoy.Route := do
  let name := plan.name.getD ""
  let action ← plan.action.toAction name
  return {
    name
    routeMatch := some plan.routeMatch.toMatch
    action := some action
    requestHeadersToAdd := plan.requestHeaders.toOptions
    requestHeadersToRemove := plan.requestHeaders.remove
    responseHeadersToAdd := plan.responseHeaders.toOptions
    responseHeadersToRemove := plan.responseHeaders.remove }

end RoutePlan

namespace VirtualHostPlan

def toVirtualHost (plan : VirtualHostPlan) : Except Fault Envoy.VirtualHost := do
  return ⟨plan.name, plan.domains, ← plan.routes.mapM RoutePlan.toRoute⟩

end VirtualHostPlan

namespace RouteConfigurationPlan

def toConfiguration (plan : RouteConfigurationPlan) : Except Fault Envoy.RouteConfiguration := do
  return ⟨plan.name, ← plan.virtualHosts.mapM VirtualHostPlan.toVirtualHost⟩

end RouteConfigurationPlan

end GatewayCompiler
