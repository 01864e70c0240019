import GatewayCompiler.Envoy.Common
import GatewayCompiler.Wire.Message

/-!
# Shared parts on the wire

Every message type has its fields in the order they are written, and reads itself back from fields.
-/

namespace GatewayCompiler.Envoy

open Wire

namespace Any

def fields (any : Any) : Fields :=
  Write.string 1 any.typeUrl ++ Write.bytes 2 any.value

def ofFields? (fields : Fields) : Option Any := do
  let typeUrl ← Read.string 1 fields
  let value ← Read.scalar Read.asBytes [] 2 fields
  return ⟨typeUrl, value⟩

end Any

namespace Extension

/-- `configNumber` is the number of the configuration, which differs between the places. -/
def fields (configNumber : Nat) (extension : Extension) : Fields :=
  Write.string 1 extension.name ++
    Write.optional (fun any => Write.message configNumber any.fields) extension.config

def ofFields? (configNumber : Nat) (fields : Fields) : Option Extension := do
  let name ← Read.string 1 fields
  let config ← Read.message Any.ofFields? configNumber fields
  return ⟨name, config⟩

end Extension

namespace SocketAddress

/-- The fields of an address that is a socket address. -/
def fields (socket : SocketAddress) : Fields :=
  Write.message 1 <|
    Write.string 2 socket.address ++
      Write.optional (fun port => Write.presentNumber 3 port.toNat) socket.port

/-- A port is a number or a name; a name is no number. -/
def portMembers : List (Nat × Read.Member (Option UInt32)) := [
  (3, Read.scalarMember Read.asUInt32 some),
  (4, Read.scalarMember Read.asString fun _ => none)]

def ofSocketFields? (fields : Fields) : Option SocketAddress := do
  let address ← Read.string 2 fields
  let port ← Read.choice portMembers fields
  return ⟨address, port.join⟩

/-- An address of another kind has no socket address. -/
def ofFields? (fields : Fields) : Option (Option SocketAddress) :=
  Read.message ofSocketFields? 1 fields

end SocketAddress

namespace ConfigSource

def fields (source : ConfigSource) : Fields :=
  (if source.aggregated then Write.message 3 [] else []) ++
    Write.number 6 source.apiVersion.toNat

def ofFields? (fields : Fields) : Option ConfigSource := do
  let aggregated ← Read.message (fun _ => some ()) 3 fields
  let apiVersion ← Read.scalar Read.asUInt32 0 6 fields
  return ⟨aggregated.isSome, apiVersion⟩

end ConfigSource

namespace DataSource

def fields : DataSource → Fields
  | .bytes value => Write.presentBytes 2 value
  | .text value => Write.presentString 3 value

def members : List (Nat × Read.Member DataSource) := [
  (2, Read.scalarMember Read.asBytes .bytes),
  (3, Read.scalarMember Read.asString .text)]

def ofFields? (fields : Fields) : Option (Option DataSource) :=
  Read.choice members fields

end DataSource

/-- The fields of a matcher for a regular expression. -/
def regexFields (regex : String) : Fields :=
  Write.string 2 regex

def regexOfFields? (fields : Fields) : Option String :=
  Read.string 2 fields

namespace RegexRewrite

def fields (rewrite : RegexRewrite) : Fields :=
  Write.optional (fun pattern => Write.message 1 (regexFields pattern)) rewrite.pattern ++
    Write.string 2 rewrite.substitution

def ofFields? (fields : Fields) : Option RegexRewrite := do
  let pattern ← Read.message regexOfFields? 1 fields
  let substitution ← Read.string 2 fields
  return ⟨pattern, substitution⟩

end RegexRewrite

/-- The fields of a number wrapped as a message. -/
def wrappedNumber (value : UInt32) : Fields :=
  Write.number 1 value.toNat

def wrappedNumberOfFields? (fields : Fields) : Option UInt32 :=
  Read.scalar Read.asUInt32 0 1 fields

end GatewayCompiler.Envoy
