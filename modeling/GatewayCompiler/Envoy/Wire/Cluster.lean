import GatewayCompiler.Envoy.Cluster
import GatewayCompiler.Envoy.Wire.Common

/-!
# Clusters and load assignments on the wire
-/

namespace GatewayCompiler.Envoy

open Wire

namespace LbEndpoint

/-- The address stands in an endpoint of its own. -/
def fields (endpoint : LbEndpoint) : Fields :=
  Write.optional
      (fun socket => Write.message 1 (Write.message 1 (SocketAddress.fields socket)))
      endpoint.address ++
    Write.optional (fun weight => Write.message 4 (wrappedNumber weight)) endpoint.weight

def addressOfFields? (fields : Fields) : Option (Option SocketAddress) := do
  let address ← Read.message SocketAddress.ofFields? 1 fields
  return address.join

def ofFields? (fields : Fields) : Option LbEndpoint := do
  let address ← Read.message addressOfFields? 1 fields
  let weight ← Read.message wrappedNumberOfFields? 4 fields
  return ⟨address.join, weight⟩

end LbEndpoint

namespace LoadAssignment

def fields (assignment : LoadAssignment) : Fields :=
  Write.string 1 assignment.clusterName ++
    Write.repeated 2 (Write.repeated 2 LbEndpoint.fields) assignment.localities

def ofFields? (fields : Fields) : Option LoadAssignment := do
  let clusterName ← Read.string 1 fields
  let localities ← Read.repeated (Read.repeated LbEndpoint.ofFields? 2) 2 fields
  return ⟨clusterName, localities⟩

def encode (assignment : LoadAssignment) : Bytes :=
  Wire.encode assignment.fields

def decode? (bytes : Bytes) : Option LoadAssignment :=
  (Wire.decode bytes).bind ofFields?

end LoadAssignment

namespace EndpointDiscovery

def fields (discovery : EndpointDiscovery) : Fields :=
  Write.optional (fun source => Write.message 1 (ConfigSource.fields source)) discovery.config ++
    Write.string 2 discovery.serviceName

def ofFields? (fields : Fields) : Option EndpointDiscovery := do
  let config ← Read.message ConfigSource.ofFields? 1 fields
  let serviceName ← Read.string 2 fields
  return ⟨serviceName, config⟩

end EndpointDiscovery

namespace Cluster

def fields (cluster : Cluster) : Fields :=
  Write.string 1 cluster.name ++
    Write.optional (fun type => Write.presentNumber 2 type.toNat) cluster.discoveryType ++
    Write.optional (fun discovery => Write.message 3 (EndpointDiscovery.fields discovery))
      cluster.endpointDiscovery ++
    Write.optional (fun seconds => Write.message 4 (Write.number 1 seconds.toNat))
      cluster.connectTimeoutSeconds ++
    Write.number 6 cluster.lbPolicy.toNat ++
    Write.optional (fun assignment => Write.message 33 (LoadAssignment.fields assignment))
      cluster.loadAssignment

def ofFields? (fields : Fields) : Option Cluster := do
  let name ← Read.string 1 fields
  let discoveryType ← Read.choice [(2, Read.scalarMember Read.asUInt32 id)] fields
  let endpointDiscovery ← Read.message EndpointDiscovery.ofFields? 3 fields
  let connectTimeoutSeconds ← Read.message (Read.scalar Read.asUInt64 0 1) 4 fields
  let lbPolicy ← Read.scalar Read.asUInt32 0 6 fields
  let loadAssignment ← Read.message LoadAssignment.ofFields? 33 fields
  return ⟨name, discoveryType, endpointDiscovery, connectTimeoutSeconds, lbPolicy, loadAssignment⟩

def encode (cluster : Cluster) : Bytes :=
  Wire.encode cluster.fields

def decode? (bytes : Bytes) : Option Cluster :=
  (Wire.decode bytes).bind ofFields?

end Cluster

end GatewayCompiler.Envoy
