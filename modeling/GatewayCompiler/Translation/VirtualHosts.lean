import GatewayCompiler.Attachment
import GatewayCompiler.Hostname
import GatewayCompiler.Translation.Rules

/-!
# Virtual hosts of a listener

The routes that attach to a listener are grouped by the hosts they share with it.  Routes are met in
ascending order of key, so the first rule wins among equally specific matches.
-/

namespace GatewayCompiler

namespace HttpRoute

/-- The domains that a route serves on the listener of a Gateway, `*` standing for every host, if it
attaches and there is a host that both accept. -/
def domains? (route : HttpRoute) (snapshot : Snapshot) (gateway : ObjectKey) (listener : Listener) :
    Option (List String) :=
  if route.attaches snapshot gateway listener then
    match Hostname.intersection? listener.hostname route.hostnames with
    | some [] => some ["*"]
    | hostnames => hostnames
  else none

end HttpRoute

namespace VirtualHostPlan

/-- Puts routes at the end of the virtual host of the domains, which is new if there is none. -/
def addRoutes (configuration : String) (domains : List String) (routes : List RoutePlan) :
    List VirtualHostPlan → List VirtualHostPlan
  | [] => [⟨Naming.virtualHost configuration domains, domains, routes⟩]
  | host :: rest =>
    if host.domains = domains then { host with routes := host.routes ++ routes } :: rest
    else host :: addRoutes configuration domains routes rest

/-- The domains of virtual hosts, each with the name of its host. -/
def domainOwners (hosts : List VirtualHostPlan) : List (String × String) :=
  hosts.flatMap fun host => host.domains.map (·, host.name)

end VirtualHostPlan

namespace RouteConfigurationPlan

/-- The domains that an earlier virtual host has, with the first that has it. -/
def sharedDomains (plan : RouteConfigurationPlan) : List Notice :=
  let owners := VirtualHostPlan.domainOwners plan.virtualHosts
  owners.filterMap fun (domain, name) =>
    match owners.lookup domain with
    | some first => if first = name then none else some (.sharedDomain plan.name domain first name)
    | none => none

end RouteConfigurationPlan

namespace Listener

/-- The virtual hosts after one more route. -/
def addRoute (listener : Listener) (snapshot : Snapshot) (rules : ClusterRules) (gateway : ObjectKey)
    (hosts : List VirtualHostPlan) (route : HttpRoute) : Building (List VirtualHostPlan) := do
  let some domains := route.domains? snapshot gateway listener | return hosts
  let routes ← route.plans snapshot rules
  return VirtualHostPlan.addRoutes (Naming.routeConfiguration gateway listener.name) domains routes
    hosts

/-- The planned route configuration of the listener of a Gateway. -/
def routeConfiguration (listener : Listener) (snapshot : Snapshot) (rules : ClusterRules)
    (gateway : ObjectKey) : Building RouteConfigurationPlan := do
  let hosts ← snapshot.routes.foldlM (listener.addRoute snapshot rules gateway) []
  return ⟨Naming.routeConfiguration gateway listener.name, hosts⟩

end Listener

end GatewayCompiler
