import GatewayCompiler.Model.Identity
import GatewayCompiler.Wire.Field

/-!
# Parts shared by Envoy messages
-/

namespace GatewayCompiler.Envoy

open Wire (Bytes)

/-- A message of any type: the type by name, the message as bytes. -/
structure Any where
  typeUrl : String
  value : Bytes
  deriving DecidableEq, Repr

/-- A filter or transport socket: its name and configuration. -/
structure Extension where
  name : String
  config : Option Any
  deriving DecidableEq, Repr

structure SocketAddress where
  address : String
  port : Option UInt32
  deriving DecidableEq, Repr

/-- Where the proxy fetches a resource from: the aggregated stream, in a version of the API. -/
structure ConfigSource where
  aggregated : Bool
  apiVersion : UInt32
  deriving DecidableEq, Repr

/-- The version of the API that all resources are written in. -/
def apiVersion3 : UInt32 := 2

/-- The aggregated stream the resource itself came from. -/
def aggregatedSource : ConfigSource := ⟨true, apiVersion3⟩

/-- Data carried in the message itself. -/
inductive DataSource where
  | bytes (value : Bytes)
  | text (value : String)
  deriving DecidableEq, Repr

/-- Rewrites what a regular expression matches. -/
structure RegexRewrite where
  pattern : Option String
  substitution : String
  deriving DecidableEq, Repr

end GatewayCompiler.Envoy
