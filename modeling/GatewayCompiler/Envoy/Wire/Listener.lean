import GatewayCompiler.Envoy.Listener
import GatewayCompiler.Envoy.Wire.Route

/-!
# Listeners on the wire

Metadata come last, whatever their number, with the entries of their maps in the order of keys, so
that equal listeners have equal bytes.
-/

namespace GatewayCompiler.Envoy

open Wire

namespace FilterChain

def fields (chain : FilterChain) : Fields :=
  Write.optional (fun names => Write.message 1 (Write.strings 11 names)) chain.serverNames ++
    Write.repeated 3 (Extension.fields 4) chain.filters ++
    Write.optional (fun socket => Write.message 6 (Extension.fields 3 socket))
      chain.transportSocket ++
    Write.string 7 chain.name

def ofFields? (fields : Fields) : Option FilterChain := do
  let serverNames ← Read.message (Read.strings 11) 1 fields
  let filters ← Read.repeated (Extension.ofFields? 4) 3 fields
  let transportSocket ← Read.message (Extension.ofFields? 3) 6 fields
  let name ← Read.string 7 fields
  return ⟨name, serverNames, filters, transportSocket⟩

end FilterChain

namespace FilterMetadata

/-- The fields of a map of strings, each string being one kind of dynamic value. -/
def valuesFields (values : Table String String) : Fields :=
  values.entries.flatMap (Write.mapEntry 1 (Write.presentString 3))

def fields (metadata : FilterMetadata) : Fields :=
  metadata.entries.flatMap (Write.mapEntry 1 valuesFields)

def valuesOfFields? (fields : Fields) : Option (Table String String) :=
  (Read.repeated (Read.mapEntry (Read.string 3) "") 1 fields).map Table.ofList

def ofFields? (fields : Fields) : Option FilterMetadata :=
  (Read.repeated (Read.mapEntry valuesOfFields? ∅) 1 fields).map Table.ofList

end FilterMetadata

namespace Listener

def fields (listener : Listener) : Fields :=
  Write.string 1 listener.name ++
    Write.optional (fun socket => Write.message 2 (SocketAddress.fields socket)) listener.address ++
    Write.repeated 3 FilterChain.fields listener.filterChains ++
    Write.repeated 9 (Extension.fields 3) listener.listenerFilters ++
    Write.optional (fun metadata => Write.message 6 (FilterMetadata.fields metadata))
      listener.metadata

def ofFields? (fields : Fields) : Option Listener := do
  let name ← Read.string 1 fields
  let address ← Read.message SocketAddress.ofFields? 2 fields
  let filterChains ← Read.repeated FilterChain.ofFields? 3 fields
  let listenerFilters ← Read.repeated (Extension.ofFields? 3) 9 fields
  let metadata ← Read.message FilterMetadata.ofFields? 6 fields
  return ⟨name, address.join, filterChains, listenerFilters, metadata⟩

def encode (listener : Listener) : Bytes :=
  Wire.encode listener.fields

def decode? (bytes : Bytes) : Option Listener :=
  (Wire.decode bytes).bind ofFields?

end Listener

namespace RouteDiscovery

def fields (discovery : RouteDiscovery) : Fields :=
  Write.optional (fun source => Write.message 1 (ConfigSource.fields source))
      discovery.configSource ++
    Write.string 2 discovery.routeConfigName

def ofFields? (fields : Fields) : Option RouteDiscovery := do
  let configSource ← Read.message ConfigSource.ofFields? 1 fields
  let routeConfigName ← Read.string 2 fields
  return ⟨routeConfigName, configSource⟩

end RouteDiscovery

namespace RouteSpecifier

def fields : RouteSpecifier → Fields
  | .discovered discovery => Write.message 3 discovery.fields
  | .inline configuration => Write.message 4 configuration.fields
  | .scoped => Write.message 31 []

def members : List (Nat × Read.Member RouteSpecifier) := [
  (3, Read.messageMember RouteDiscovery.ofFields? .discovered),
  (4, Read.messageMember RouteConfiguration.ofFields? .inline),
  (31, Read.messageMember (fun _ => some ()) fun _ => .scoped)]

def ofFields? (fields : Fields) : Option (Option RouteSpecifier) :=
  Read.choice members fields

end RouteSpecifier

namespace ConnectionManager

def fields (manager : ConnectionManager) : Fields :=
  Write.number 1 manager.codecType.toNat ++
    Write.string 2 manager.statPrefix ++
    Write.optional RouteSpecifier.fields manager.routes ++
    Write.repeated 5 (Extension.fields 4) manager.httpFilters

/-- Reads the fields that are written here.  Those that a connection manager can have besides are not
looked into. -/
def ofFields? (fields : Fields) : Option ConnectionManager := do
  let codecType ← Read.scalar Read.asUInt32 0 1 fields
  let statPrefix ← Read.string 2 fields
  let routes ← RouteSpecifier.ofFields? fields
  let httpFilters ← Read.repeated (Extension.ofFields? 4) 5 fields
  return ⟨codecType, statPrefix, routes, httpFilters⟩

def encode (manager : ConnectionManager) : Bytes :=
  Wire.encode manager.fields

/-- Reads bytes that have been written here.  Of others it takes some that a decoder of all fields
refuses. -/
def decode? (bytes : Bytes) : Option ConnectionManager :=
  (Wire.decode bytes).bind ofFields?

end ConnectionManager

namespace TlsCertificate

def fields (certificate : TlsCertificate) : Fields :=
  Write.optional (fun data => Write.message 1 (DataSource.fields data))
      certificate.certificateChain ++
    Write.optional (fun data => Write.message 2 (DataSource.fields data)) certificate.privateKey

def ofFields? (fields : Fields) : Option TlsCertificate := do
  let certificateChain ← Read.message DataSource.ofFields? 1 fields
  let privateKey ← Read.message DataSource.ofFields? 2 fields
  return ⟨certificateChain.join, privateKey.join⟩

end TlsCertificate

namespace TlsContext

/-- The certificates stand in the part that client and server contexts share. -/
def fields (context : TlsContext) : Fields :=
  Write.message 1 (Write.repeated 2 TlsCertificate.fields context.certificates)

def ofFields? (fields : Fields) : Option TlsContext := do
  let certificates ← Read.message (Read.repeated TlsCertificate.ofFields? 2) 1 fields
  return ⟨certificates.getD []⟩

def encode (context : TlsContext) : Bytes :=
  Wire.encode context.fields

def decode? (bytes : Bytes) : Option TlsContext :=
  (Wire.decode bytes).bind ofFields?

end TlsContext

namespace FilterChain

/-- The configuration of the first connection manager that has one. -/
def managerConfig? (chain : FilterChain) : Option Any :=
  chain.filters.findSome? fun filter =>
    if filter.name = connectionManagerName then filter.config else none

end FilterChain

end GatewayCompiler.Envoy
