import GatewayCompiler.Envoy.Wire.Cluster
import GatewayCompiler.Proofs.Wire.Shared

/-!
# Clusters and load assignments read back

A cluster and a load assignment are decoded from their bytes just as they were encoded.  What may be
absent is read as absent, and a locality without endpoints is still a locality.
-/

namespace GatewayCompiler.Envoy

open Wire

theorem LbEndpoint.reads (endpoint : LbEndpoint) :
    Reads LbEndpoint.ofFields? endpoint.fields endpoint := by
  have haddress (socket : SocketAddress) :
      Reads LbEndpoint.addressOfFields? (Write.message 1 socket.fields) (some socket) := by
    apply (IsPart.message 1 socket.reads).reads (by decide)
    intro fields hsocket
    simp [LbEndpoint.addressOfFields?, hsocket]
  apply ((IsPart.optional 1 endpoint.address haddress).append
    (IsPart.optional 4 endpoint.weight wrappedNumber_reads)).reads (by decide)
  intro fields ⟨haddress, hweight⟩
  simp [LbEndpoint.ofFields?, haddress, hweight]

theorem LoadAssignment.reads (assignment : LoadAssignment) :
    Reads LoadAssignment.ofFields? assignment.fields assignment := by
  have hlocality (endpoints : List LbEndpoint) :
      Reads (Read.repeated LbEndpoint.ofFields? 2) (Write.repeated 2 LbEndpoint.fields endpoints)
        endpoints :=
    (IsPart.repeated 2 endpoints LbEndpoint.reads).reads (by decide) fun _ => id
  apply ((IsPart.string 1 assignment.clusterName).append
    (IsPart.repeated 2 assignment.localities hlocality)).reads (by decide)
  intro fields ⟨hname, hlocalities⟩
  simp [LoadAssignment.ofFields?, hname, hlocalities]

theorem LoadAssignment.decode?_encode (assignment : LoadAssignment) :
    LoadAssignment.decode? assignment.encode = some assignment :=
  assignment.reads.decode_encode

theorem EndpointDiscovery.reads (discovery : EndpointDiscovery) :
    Reads EndpointDiscovery.ofFields? discovery.fields discovery := by
  apply ((IsPart.optional 1 discovery.config ConfigSource.reads).append
    (IsPart.string 2 discovery.serviceName)).reads (by decide)
  intro fields ⟨hconfig, hname⟩
  simp [EndpointDiscovery.ofFields?, hconfig, hname]

theorem Cluster.reads (cluster : Cluster) : Reads Cluster.ofFields? cluster.fields cluster := by
  have htype (type : UInt32) : Chooses [(2, Read.scalarMember Read.asUInt32 id)]
      (Write.presentNumber 2 type.toNat) (id type) :=
    .uint32 type rfl
  have hseconds (seconds : UInt64) :
      Reads (Read.scalar Read.asUInt64 0 1) (Write.number 1 seconds.toNat) seconds :=
    (IsPart.uint64 1 seconds).reads (by decide) fun _ => id
  have hparts := IsPart.string 1 cluster.name
    |>.append (IsPart.choice cluster.discoveryType htype)
    |>.append (IsPart.optional 3 cluster.endpointDiscovery EndpointDiscovery.reads)
    |>.append (IsPart.optional 4 cluster.connectTimeoutSeconds hseconds)
    |>.append (IsPart.uint32 6 cluster.lbPolicy)
    |>.append (IsPart.optional 33 cluster.loadAssignment LoadAssignment.reads)
  apply hparts.reads (by decide)
  intro fields ⟨⟨⟨⟨⟨hname, htype⟩, hdiscovery⟩, hseconds⟩, hpolicy⟩, hassignment⟩
  simp [Cluster.ofFields?, hname, htype, hdiscovery, hseconds, hpolicy, hassignment]

theorem Cluster.decode?_encode (cluster : Cluster) :
    Cluster.decode? cluster.encode = some cluster :=
  cluster.reads.decode_encode

end GatewayCompiler.Envoy
