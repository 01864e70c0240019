import GatewayCompiler.Model.Core
import GatewayCompiler.Plan.Cluster

/-!
# Endpoint policies

A Service port is reached through one endpoint.  A policy says which, and how the proxy learns it.
-/

namespace GatewayCompiler

inductive EndpointPolicy where
  /-- The endpoint has the cluster address of the Service and is assigned. -/
  | clusterIp
  /-- The endpoint has the DNS name of the Service in this domain and is resolved. -/
  | serviceDns (clusterDomain : String)
  deriving DecidableEq, Repr

namespace EndpointPolicy

def ofSettings (settings : Settings) : EndpointPolicy :=
  match settings.endpointMode with
  | .clusterIp => .clusterIp
  | .serviceDns => .serviceDns settings.clusterDomain

def endpoint (policy : EndpointPolicy) (service : Service) (port : ServicePort) :
    Except Fault EndpointPlan :=
  match policy with
  | .clusterIp =>
    match service.address? with
    | some address => .ok ⟨address, port.port.toUInt32⟩
    | none => .error <| .invalid service.ref "spec.clusterIP"
        "headless Service has no cluster IP (use the service-dns endpoint policy)"
  | .serviceDns clusterDomain =>
    .ok ⟨s!"{service.key.name}.{service.key.ns}.svc.{clusterDomain}", port.port.toUInt32⟩

def discovery (policy : EndpointPolicy) (endpoints : List EndpointPlan) : Discovery :=
  match policy with
  | .clusterIp => .assigned
  | .serviceDns _ => .resolved endpoints

end EndpointPolicy

end GatewayCompiler
