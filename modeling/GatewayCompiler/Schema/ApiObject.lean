import GatewayCompiler.Model.ApiObject
import GatewayCompiler.Schema.Core
import GatewayCompiler.Schema.Gateway
import GatewayCompiler.Schema.HttpRoute
import GatewayCompiler.Schema.ReferenceGrant

/-!
# The JSON form of objects of any kind
-/

namespace GatewayCompiler.ApiObject

def toJson : ApiObject → Json
  | .ns object => object.toJson
  | .gateway object => object.toJson
  | .httpRoute object => object.toJson
  | .service object => object.toJson
  | .secret object => object.toJson
  | .referenceGrant object => object.toJson

end GatewayCompiler.ApiObject
