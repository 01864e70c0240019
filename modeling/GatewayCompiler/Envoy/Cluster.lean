import GatewayCompiler.Envoy.Common

/-!
# Clusters and load assignments

A cluster says how the proxy reaches a backend; a load assignment lists its endpoints, in groups of
one locality each.
-/

namespace GatewayCompiler.Envoy

structure LbEndpoint where
  address : Option SocketAddress
  weight : Option UInt32
  deriving DecidableEq, Repr

structure LoadAssignment where
  clusterName : String
  localities : List (List LbEndpoint)
  deriving DecidableEq, Repr

/-- Endpoints that are fetched under a service name. -/
structure EndpointDiscovery where
  serviceName : String
  config : Option ConfigSource
  deriving DecidableEq, Repr

/-- The discovery types by number. -/
def strictDnsType : UInt32 := 1

def endpointDiscoveryType : UInt32 := 3

structure Cluster where
  name : String
  discoveryType : Option UInt32
  endpointDiscovery : Option EndpointDiscovery
  connectTimeoutSeconds : Option UInt64
  lbPolicy : UInt32
  loadAssignment : Option LoadAssignment
  deriving DecidableEq, Repr

end GatewayCompiler.Envoy
