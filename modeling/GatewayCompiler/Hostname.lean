/-!
# Hostnames

A listener and a route each name the hosts they serve; traffic flows for the hosts that both accept.
A pattern `*.suffix` accepts every longer host with that ending, any other pattern only itself.
Whoever names no host accepts every host.
-/

namespace GatewayCompiler.Hostname

/-- Whether a pattern with a wildcard covers every host that `hostname` accepts. -/
def covers (wildcard hostname : String) : Bool :=
  match wildcard.toList with
  | '*' :: '.' :: suffix =>
    suffix.length + 1 < hostname.toList.length && ('.' :: suffix).isSuffixOf hostname.toList
  | _ => false

/-- The pattern of the hosts that both accept, or `none` when there are no such hosts. -/
def intersect? (a b : String) : Option String :=
  if a = b then some a
  else if covers a b then some b
  else if covers b a then some a
  else none

/-- Puts a name at its place in an ascending list without repetition. -/
def insertName (name : String) : List String → List String
  | [] => [name]
  | head :: rest =>
    if name < head then name :: head :: rest
    else if name = head then head :: rest
    else head :: insertName name rest

/-- The names in ascending order, each once. -/
def ascending (names : List String) : List String :=
  names.foldl (fun acc name => insertName name acc) []

def nonEmpty? : List String → Option (List String)
  | [] => none
  | names => some names

/-- The hosts that a listener and a route both accept, in ascending order.  The list is empty when
both accept every host; there is none when no host is accepted by both. -/
def intersection? (listener : Option String) (route : List String) : Option (List String) :=
  match listener.filter (· ≠ ""), route with
  | none, [] => some []
  | none, names => some (ascending names)
  | some host, [] => some [host]
  | some host, names => nonEmpty? (ascending (names.filterMap (intersect? host)))

end GatewayCompiler.Hostname
