import GatewayCompiler.Envoy.Route
import GatewayCompiler.Envoy.Wire.Common

/-!
# Route configurations on the wire

A choice is written where its member with the smallest number belongs.
-/

namespace GatewayCompiler.Envoy

open Wire

namespace PathSpecifier

def fields : PathSpecifier → Fields
  | .pathPrefix value => Write.presentString 1 value
  | .path value => Write.presentString 2 value
  | .regex value => Write.message 10 (regexFields value)
  | .separatedPrefix value => Write.presentString 14 value

def members : List (Nat × Read.Member PathSpecifier) := [
  (1, Read.scalarMember Read.asString .pathPrefix),
  (2, Read.scalarMember Read.asString .path),
  (10, Read.messageMember regexOfFields? .regex),
  (14, Read.scalarMember Read.asString .separatedPrefix)]

def ofFields? (fields : Fields) : Option (Option PathSpecifier) :=
  Read.choice members fields

end PathSpecifier

/-- Numbers of the fields of a matcher, which differ between headers and query parameters. -/
structure MatcherNumbers where
  stringMatch : Nat
  presentMatch : Nat

def headerNumbers : MatcherNumbers := ⟨13, 7⟩

def queryNumbers : MatcherNumbers := ⟨5, 6⟩

/-- The members of a string matcher, which is exact or a regular expression. -/
def stringMatcherMembers : List (Nat × Read.Member ValueSpecifier) := [
  (1, Read.scalarMember Read.asString .exact),
  (5, Read.messageMember regexOfFields? .regex)]

def stringMatcherOfFields? (fields : Fields) : Option (Option ValueSpecifier) :=
  Read.choice stringMatcherMembers fields

namespace ValueSpecifier

def fields (numbers : MatcherNumbers) : ValueSpecifier → Fields
  | .exact value => Write.message numbers.stringMatch (Write.presentString 1 value)
  | .regex value => Write.message numbers.stringMatch (Write.message 5 (regexFields value))
  | .present value => Write.presentNumber numbers.presentMatch value.toNat

def members (numbers : MatcherNumbers) : List (Nat × Read.Member (Option ValueSpecifier)) := [
  (numbers.stringMatch, Read.messageMember stringMatcherOfFields? id),
  (numbers.presentMatch, Read.scalarMember Read.asBool fun b => some (.present b))]

def ofFields? (numbers : MatcherNumbers) (fields : Fields) : Option (Option ValueSpecifier) := do
  let chosen ← Read.choice (members numbers) fields
  return chosen.join

end ValueSpecifier

namespace ValueMatcher

def fields (numbers : MatcherNumbers) (matcher : ValueMatcher) : Fields :=
  Write.string 1 matcher.name ++
    Write.optional (ValueSpecifier.fields numbers) matcher.specifier

def ofFields? (numbers : MatcherNumbers) (fields : Fields) : Option ValueMatcher := do
  let name ← Read.string 1 fields
  let specifier ← ValueSpecifier.ofFields? numbers fields
  return ⟨name, specifier⟩

end ValueMatcher

namespace RouteMatch

def fields (m : RouteMatch) : Fields :=
  Write.optional PathSpecifier.fields m.path ++
    Write.repeated 6 (ValueMatcher.fields headerNumbers) m.headers ++
    Write.repeated 7 (ValueMatcher.fields queryNumbers) m.queryParameters

def ofFields? (fields : Fields) : Option RouteMatch := do
  let path ← PathSpecifier.ofFields? fields
  let headers ← Read.repeated (ValueMatcher.ofFields? headerNumbers) 6 fields
  let queryParameters ← Read.repeated (ValueMatcher.ofFields? queryNumbers) 7 fields
  return ⟨path, headers, queryParameters⟩

end RouteMatch

namespace ClusterWeight

def fields (cluster : ClusterWeight) : Fields :=
  Write.string 1 cluster.name ++
    Write.optional (fun weight => Write.message 2 (wrappedNumber weight)) cluster.weight

def ofFields? (fields : Fields) : Option ClusterWeight := do
  let name ← Read.string 1 fields
  let weight ← Read.message wrappedNumberOfFields? 2 fields
  return ⟨name, weight⟩

end ClusterWeight

namespace ClusterSpecifier

def fields : ClusterSpecifier → Fields
  | .cluster name => Write.presentString 1 name
  | .header name => Write.presentString 2 name
  | .weighted clusters totalWeight =>
    Write.message 3 <|
      Write.repeated 1 ClusterWeight.fields clusters ++
        Write.optional (fun total => Write.message 3 (wrappedNumber total)) totalWeight

def weightedOfFields? (fields : Fields) : Option ClusterSpecifier := do
  let clusters ← Read.repeated ClusterWeight.ofFields? 1 fields
  let totalWeight ← Read.message wrappedNumberOfFields? 3 fields
  return .weighted clusters totalWeight

def members : List (Nat × Read.Member ClusterSpecifier) := [
  (1, Read.scalarMember Read.asString .cluster),
  (2, Read.scalarMember Read.asString .header),
  (3, Read.messageMember weightedOfFields? id)]

def ofFields? (fields : Fields) : Option (Option ClusterSpecifier) :=
  Read.choice members fields

end ClusterSpecifier

namespace ForwardAction

def fields (action : ForwardAction) : Fields :=
  Write.optional ClusterSpecifier.fields action.cluster ++
    Write.optional (Write.presentString 6) action.hostRewrite ++
    Write.optional (fun rewrite => Write.message 32 rewrite.fields) action.regexRewrite

def ofFields? (fields : Fields) : Option ForwardAction := do
  let cluster ← ClusterSpecifier.ofFields? fields
  let hostRewrite ← Read.choice [(6, Read.scalarMember Read.asString id)] fields
  let regexRewrite ← Read.message RegexRewrite.ofFields? 32 fields
  return ⟨cluster, hostRewrite, regexRewrite⟩

end ForwardAction

namespace PathRedirect

def fields : PathRedirect → Fields
  | .path value => Write.presentString 2 value
  | .regex rewrite => Write.message 9 rewrite.fields

def members : List (Nat × Read.Member PathRedirect) := [
  (2, Read.scalarMember Read.asString .path),
  (9, Read.messageMember RegexRewrite.ofFields? .regex)]

def ofFields? (fields : Fields) : Option (Option PathRedirect) :=
  Read.choice members fields

end PathRedirect

namespace RedirectAction

def fields (action : RedirectAction) : Fields :=
  Write.string 1 action.host ++
    Write.optional PathRedirect.fields action.path ++
    Write.number 3 action.code.toNat ++
    Write.optional (Write.presentString 7) action.scheme ++
    Write.number 8 action.port.toNat

def ofFields? (fields : Fields) : Option RedirectAction := do
  let host ← Read.string 1 fields
  let path ← PathRedirect.ofFields? fields
  let code ← Read.scalar Read.asUInt32 0 3 fields
  let scheme ← Read.choice [(7, Read.scalarMember Read.asString id)] fields
  let port ← Read.scalar Read.asUInt32 0 8 fields
  return ⟨scheme, host, port, path, code⟩

end RedirectAction

namespace DirectResponse

def fields (response : DirectResponse) : Fields :=
  Write.number 1 response.status.toNat ++
    Write.optional (fun body => Write.message 2 body.fields) response.body

def ofFields? (fields : Fields) : Option DirectResponse := do
  let status ← Read.scalar Read.asUInt32 0 1 fields
  let body ← Read.message DataSource.ofFields? 2 fields
  return ⟨status, body.join⟩

end DirectResponse

namespace RouteAction

def fields : RouteAction → Fields
  | .forward action => Write.message 2 action.fields
  | .redirect action => Write.message 3 action.fields
  | .respond response => Write.message 7 response.fields

def members : List (Nat × Read.Member RouteAction) := [
  (2, Read.messageMember ForwardAction.ofFields? .forward),
  (3, Read.messageMember RedirectAction.ofFields? .redirect),
  (7, Read.messageMember DirectResponse.ofFields? .respond)]

def ofFields? (fields : Fields) : Option (Option RouteAction) :=
  Read.choice members fields

end RouteAction

namespace HeaderOption

def fields (header : HeaderOption) : Fields :=
  Write.message 1 (Write.string 1 header.key ++ Write.string 2 header.value) ++
    Write.number 3 header.appendAction.toNat

/-- The key and value of a header. -/
def pairOfFields? (fields : Fields) : Option (String × String) := do
  let key ← Read.string 1 fields
  let value ← Read.string 2 fields
  return (key, value)

def ofFields? (fields : Fields) : Option HeaderOption := do
  let pair ← Read.message pairOfFields? 1 fields
  let appendAction ← Read.scalar Read.asUInt32 0 3 fields
  let (key, value) := pair.getD ("", "")
  return ⟨key, value, appendAction⟩

end HeaderOption

namespace Route

def fields (route : Route) : Fields :=
  Write.optional (fun m => Write.message 1 m.fields) route.routeMatch ++
    Write.optional RouteAction.fields route.action ++
    Write.repeated 9 HeaderOption.fields route.requestHeadersToAdd ++
    Write.repeated 10 HeaderOption.fields route.responseHeadersToAdd ++
    Write.strings 11 route.responseHeadersToRemove ++
    Write.strings 12 route.requestHeadersToRemove ++
    Write.string 14 route.name

def ofFields? (fields : Fields) : Option Route := do
  let routeMatch ← Read.message RouteMatch.ofFields? 1 fields
  let action ← RouteAction.ofFields? fields
  let requestHeadersToAdd ← Read.repeated HeaderOption.ofFields? 9 fields
  let responseHeadersToAdd ← Read.repeated HeaderOption.ofFields? 10 fields
  let responseHeadersToRemove ← Read.strings 11 fields
  let requestHeadersToRemove ← Read.strings 12 fields
  let name ← Read.string 14 fields
  return ⟨name, routeMatch, action, requestHeadersToAdd, requestHeadersToRemove,
    responseHeadersToAdd, responseHeadersToRemove⟩

end Route

namespace VirtualHost

def fields (host : VirtualHost) : Fields :=
  Write.string 1 host.name ++ Write.strings 2 host.domains ++
    Write.repeated 3 Route.fields host.routes

def ofFields? (fields : Fields) : Option VirtualHost := do
  let name ← Read.string 1 fields
  let domains ← Read.strings 2 fields
  let routes ← Read.repeated Route.ofFields? 3 fields
  return ⟨name, domains, routes⟩

end VirtualHost

namespace RouteConfiguration

def fields (configuration : RouteConfiguration) : Fields :=
  Write.string 1 configuration.name ++
    Write.repeated 2 VirtualHost.fields configuration.virtualHosts

def ofFields? (fields : Fields) : Option RouteConfiguration := do
  let name ← Read.string 1 fields
  let virtualHosts ← Read.repeated VirtualHost.ofFields? 2 fields
  return ⟨name, virtualHosts⟩

def encode (configuration : RouteConfiguration) : Bytes :=
  Wire.encode configuration.fields

def decode? (bytes : Bytes) : Option RouteConfiguration :=
  (Wire.decode bytes).bind ofFields?

end RouteConfiguration

end GatewayCompiler.Envoy
