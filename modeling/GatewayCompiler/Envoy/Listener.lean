import GatewayCompiler.Envoy.Route

/-!
# Listeners

A listener binds an address and has filter chains.  A chain that serves HTTP ends in a connection
manager, which names the route configuration it uses; a chain that terminates TLS carries
certificates.
-/

namespace GatewayCompiler.Envoy

open Wire (Bytes)

structure FilterChain where
  name : String
  serverNames : Option (List String)
  filters : List Extension
  transportSocket : Option Extension
  deriving DecidableEq, Repr

/-- String values under a name space of filters. -/
abbrev FilterMetadata := Table String (Table String String)

structure Listener where
  name : String
  address : Option SocketAddress
  filterChains : List FilterChain
  listenerFilters : List Extension
  metadata : Option FilterMetadata
  deriving DecidableEq, Repr

/-- A route configuration that is fetched by name. -/
structure RouteDiscovery where
  routeConfigName : String
  configSource : Option ConfigSource
  deriving DecidableEq, Repr

/-- Where a connection manager has its routes from. -/
inductive RouteSpecifier where
  | discovered (discovery : RouteDiscovery)
  | inline (configuration : RouteConfiguration)
  | scoped
  deriving DecidableEq, Repr

structure ConnectionManager where
  codecType : UInt32
  statPrefix : String
  routes : Option RouteSpecifier
  httpFilters : List Extension
  deriving DecidableEq, Repr

structure TlsCertificate where
  certificateChain : Option DataSource
  privateKey : Option DataSource
  deriving DecidableEq, Repr

/-- The certificates a chain terminates TLS with. -/
structure TlsContext where
  certificates : List TlsCertificate
  deriving DecidableEq, Repr

def connectionManagerName : String :=
  "envoy.filters.network.http_connection_manager"

def connectionManagerType : String :=
  "type.googleapis.com/envoy.extensions.filters.network.http_connection_manager.v3." ++
    "HttpConnectionManager"

def routerName : String :=
  "envoy.filters.http.router"

def routerType : String :=
  "type.googleapis.com/envoy.extensions.filters.http.router.v3.Router"

def tlsInspectorName : String :=
  "envoy.filters.listener.tls_inspector"

def tlsInspectorType : String :=
  "type.googleapis.com/envoy.extensions.filters.listener.tls_inspector.v3.TlsInspector"

def tlsSocketName : String :=
  "envoy.transport_sockets.tls"

def tlsContextType : String :=
  "type.googleapis.com/envoy.extensions.transport_sockets.tls.v3.DownstreamTlsContext"

end GatewayCompiler.Envoy
