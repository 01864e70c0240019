import GatewayCompiler.Model.Core
import GatewayCompiler.Model.Gateway
import GatewayCompiler.Model.HttpRoute
import GatewayCompiler.Model.ReferenceGrant

/-!
# Objects of any kind
-/

namespace GatewayCompiler

/-- An object of one of the kinds that a translation reads. -/
inductive ApiObject where
  | ns (object : Namespace)
  | gateway (object : Gateway)
  | httpRoute (object : HttpRoute)
  | service (object : Service)
  | secret (object : Secret)
  | referenceGrant (object : ReferenceGrant)
  deriving DecidableEq, Repr

namespace ApiObject

def kind : ApiObject → String
  | .ns _ => "Namespace"
  | .gateway _ => "Gateway"
  | .httpRoute _ => "HTTPRoute"
  | .service _ => "Service"
  | .secret _ => "Secret"
  | .referenceGrant _ => "ReferenceGrant"

end ApiObject

end GatewayCompiler
