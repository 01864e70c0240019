import GatewayCompiler.Model.LabelSelector

/-!
# Gateways

A Gateway is a list of listeners.  A listener has a port, a protocol, perhaps a hostname and
certificates, and says which routes may attach to it.
-/

namespace GatewayCompiler

inductive TlsMode where
  | terminate
  | passthrough
  deriving DecidableEq, Repr

/-- A reference to a certificate, by default to a core Secret. -/
structure CertificateRef where
  group : Option String
  kind : Option String
  name : String
  ns : Option String
  deriving DecidableEq, Repr

def CertificateRef.groupKind (ref : CertificateRef) : GroupKind :=
  ⟨ref.group.getD coreGroup, ref.kind.getD "Secret"⟩

structure ListenerTls where
  mode : TlsMode
  certificateRefs : List CertificateRef
  deriving DecidableEq, Repr

/-- Which namespaces routes may come from. -/
inductive NamespaceScope where
  | all
  | same
  | selector
  deriving DecidableEq, Repr

structure RouteNamespaces where
  scope : NamespaceScope
  selector : Option LabelSelector
  deriving DecidableEq, Repr

structure RouteKind where
  group : Option String
  kind : String
  deriving DecidableEq, Repr

def RouteKind.groupKind (kind : RouteKind) : GroupKind :=
  ⟨kind.group.getD gatewayGroup, kind.kind⟩

structure AllowedRoutes where
  namespaces : Option RouteNamespaces
  kinds : List RouteKind
  deriving DecidableEq, Repr

/-- The protocol is kept as it was declared. -/
structure Listener where
  name : String
  port : UInt16
  protocol : String
  hostname : Option String
  tls : Option ListenerTls
  allowedRoutes : Option AllowedRoutes
  deriving DecidableEq, Repr

structure Gateway where
  metadata : Metadata
  className : String
  listeners : List Listener
  deriving DecidableEq, Repr

namespace Gateway

def key (gateway : Gateway) : ObjectKey :=
  gateway.metadata.key

def ref (gateway : Gateway) : ObjectRef :=
  gateway.metadata.ref "Gateway"

end Gateway

end GatewayCompiler
