import GatewayCompiler.Model.Identity

/-!
# Names of resources

The name of a resource is made only of the identities of the objects it comes from, so equal input
gives equal names.

| Resource | Name |
|---|---|
| listener, route configuration | namespace, name and listener of the Gateway |
| virtual host | route configuration, then its domains joined by commas |
| route | namespace and name of the route, `rule`, its index, `match`, its index |
| cluster, load assignment | namespace and name of the Service, port number |
-/

namespace GatewayCompiler.Naming

def listener (gateway : ObjectKey) (listenerName : String) : String :=
  s!"{gateway.ns}/{gateway.name}/{listenerName}"

/-- A route configuration has the name of its listener. -/
def routeConfiguration (gateway : ObjectKey) (listenerName : String) : String :=
  listener gateway listenerName

def virtualHost (routeConfiguration : String) (domains : List String) : String :=
  s!"{routeConfiguration}/" ++ ",".intercalate domains

def route (key : ObjectKey) (ruleIndex matchIndex : Nat) : String :=
  s!"{key.ns}/{key.name}/rule/{ruleIndex}/match/{matchIndex}"

def cluster (service : ObjectKey) (port : UInt16) : String :=
  s!"{service.ns}/{service.name}/{port.toNat}"

/-- A name for statistics, where a slash would separate levels. -/
def statistics (name : String) : String :=
  String.ofList (name.toList.map fun c => if c = '/' then '_' else c)

end GatewayCompiler.Naming
