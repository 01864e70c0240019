import GatewayCompiler.Envoy.Wire.Listener
import GatewayCompiler.Fault

/-!
# Plans of listeners

A planned listener has filter chains, each of which ends in a connection manager that fetches its
routes by name, and may terminate TLS.
-/

namespace GatewayCompiler

open Wire (Bytes)

structure CertificatePlan where
  certificateChain : Bytes
  privateKey : Bytes
  deriving DecidableEq, Repr

structure TlsPlan where
  certificates : List CertificatePlan
  deriving DecidableEq, Repr

/-- A chain with server names serves those alone. -/
structure ChainPlan where
  name : Option String
  serverNames : List String
  routeConfigName : String
  statPrefix : String
  tls : Option TlsPlan
  deriving DecidableEq, Repr

structure ListenerPlan where
  name : String
  address : String
  port : UInt32
  chains : List ChainPlan
  metadata : Table String String
  inspectsTls : Bool
  deriving DecidableEq, Repr

namespace CertificatePlan

/-- How logs speak of a certificate: the key stays hidden. -/
def display (certificate : CertificatePlan) : String :=
  s!"TlsCertificateConfig \x7b certificate_chain_bytes: {certificate.certificateChain.length}, " ++
    "private_key: \"<redacted>\" \x7d"

def toCertificate (certificate : CertificatePlan) : Envoy.TlsCertificate :=
  ⟨some (.bytes certificate.certificateChain), some (.bytes certificate.privateKey)⟩

end CertificatePlan

namespace TlsPlan

/-- How logs speak of the certificates of a chain: by their number. -/
def display (tls : TlsPlan) : String :=
  s!"TlsContextConfig \x7b certificates: {tls.certificates.length} \x7d"

def toContext (tls : TlsPlan) : Envoy.TlsContext :=
  ⟨tls.certificates.map CertificatePlan.toCertificate⟩

def toTransportSocket (tls : TlsPlan) : Envoy.Extension :=
  ⟨Envoy.tlsSocketName, some ⟨Envoy.tlsContextType, tls.toContext.encode⟩⟩

end TlsPlan

namespace ChainPlan

def toManager (chain : ChainPlan) : Envoy.ConnectionManager where
  codecType := 0
  statPrefix := chain.statPrefix
  routes := some (.discovered ⟨chain.routeConfigName, some Envoy.aggregatedSource⟩)
  httpFilters := [⟨Envoy.routerName, some ⟨Envoy.routerType, []⟩⟩]

def toFilter (chain : ChainPlan) : Envoy.Extension :=
  ⟨Envoy.connectionManagerName, some ⟨Envoy.connectionManagerType, chain.toManager.encode⟩⟩

def toFilterChain (chain : ChainPlan) : Envoy.FilterChain where
  name := chain.name.getD ""
  serverNames := if chain.serverNames.isEmpty then none else some chain.serverNames
  filters := [chain.toFilter]
  transportSocket := chain.tls.map TlsPlan.toTransportSocket

end ChainPlan

namespace ListenerPlan

/-- The name space of metadata that tell where a listener comes from. -/
def metadataNamespace : String := "gateway.networking.k8s.io"

def toMetadata (plan : ListenerPlan) : Option Envoy.FilterMetadata :=
  if plan.metadata.isEmpty then none
  else some (Table.ofList [(metadataNamespace, plan.metadata)])

def toListener (plan : ListenerPlan) : Except Fault Envoy.Listener :=
  if plan.chains.isEmpty then .error (.inconsistent "Listener" plan.name "has no filter chains")
  else .ok {
    name := plan.name
    address := some ⟨plan.address, some plan.port⟩
    filterChains := plan.chains.map ChainPlan.toFilterChain
    listenerFilters :=
      if plan.inspectsTls then [⟨Envoy.tlsInspectorName, some ⟨Envoy.tlsInspectorType, []⟩⟩]
      else []
    metadata := plan.toMetadata }

end ListenerPlan

end GatewayCompiler
