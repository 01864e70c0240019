import GatewayCompiler.Fault

/-!
# Reports

A step of the program may give notice of something that is allowed but likely wrong.  A report holds
the notices in the order they were given and the outcome; notices given before a fault are kept.
-/

namespace GatewayCompiler

inductive Notice where
  /-- An object took the place of an earlier one of its kind and key. -/
  | objectReplaced (kind : String) (key : ObjectKey)
  | namespaceReplaced (name : String)
  /-- Two listeners of a Gateway have one port. -/
  | sharedPort (gateway : ObjectKey) (port : UInt16) (first second : String)
  /-- Two virtual hosts of a route configuration have one domain. -/
  | sharedDomain (routeConfiguration domain first second : String)
  deriving DecidableEq, Repr

def Notice.message : Notice → String
  | .objectReplaced .. | .namespaceReplaced _ => "Duplicate object replaced"
  | .sharedPort .. => "Listeners share a port; the emitted Listeners will collide on bind"
  | .sharedDomain .. =>
    "Domain appears in more than one virtual host; Envoy rejects duplicate domains"

/-- What the notice is about. -/
def Notice.subject : Notice → String
  | .objectReplaced kind key => s!"{kind} {key.display}"
  | .namespaceReplaced name => s!"Namespace {name}"
  | .sharedPort gateway port first second =>
    s!"Gateway {gateway.display}, port {port.toNat}: {first}, {second}"
  | .sharedDomain configuration domain first second =>
    s!"RouteConfiguration {configuration}, domain {domain}: {first}, {second}"

/-- An outcome that is a value or a fault of type `ε`. -/
structure Report (ε α : Type) where
  notices : List Notice
  outcome : Except ε α

namespace Report

variable {ε δ α β : Type}

def pure (value : α) : Report ε α := ⟨[], .ok value⟩

def bind (report : Report ε α) (f : α → Report ε β) : Report ε β :=
  match report.outcome with
  | .ok value =>
    let next := f value
    ⟨report.notices ++ next.notices, next.outcome⟩
  | .error fault => ⟨report.notices, .error fault⟩

instance : Monad (Report ε) where
  pure := pure
  bind := bind

/-- An outcome without notices. -/
def ofExcept (outcome : Except ε α) : Report ε α := ⟨[], outcome⟩

instance : MonadLift (Except ε) (Report ε) := ⟨ofExcept⟩

def fail (fault : ε) : Report ε α := ⟨[], .error fault⟩

def note (notices : List Notice) : Report ε Unit := ⟨notices, .ok ()⟩

/-- The report with another account of its fault. -/
def mapFault (f : ε → δ) (report : Report ε α) : Report δ α :=
  ⟨report.notices, report.outcome.mapError f⟩

end Report

end GatewayCompiler
