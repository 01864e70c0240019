import GatewayCompiler.Model.Identity

/-!
# Faults

What can go wrong, by cause.  Every fault of a translation but the last kind names the object and the
field it comes from; a fault of the last kind says that the output itself does not hold together.
-/

namespace GatewayCompiler

/-- Why a file could not be read or written. -/
inductive FileError where
  | notFound
  | notADirectory
  | isADirectory
  | notUtf8
  | other (reason : String)
  deriving DecidableEq, Repr

def FileError.message : FileError → String
  | .notFound => "No such file or directory (os error 2)"
  | .notADirectory => "Not a directory (os error 20)"
  | .isADirectory => "Is a directory (os error 21)"
  | .notUtf8 => "stream did not contain valid UTF-8"
  | .other reason => reason

inductive Fault where
  /-- A Gateway, Service or Secret that is referred to does not exist. -/
  | notFound (object : ObjectRef) (referencedBy : Option String)
  /-- A reference into another namespace that no grant there permits. -/
  | unauthorized (source target : ObjectRef) (field : String)
  /-- A construct that has no translation. -/
  | unsupported (object : ObjectRef) (field detail : String)
  /-- Malformed input. -/
  | invalid (object : ObjectRef) (field detail : String)
  /-- The settings do not make sense. -/
  | settings (detail : String)
  /-- A manifest that is not a list of objects. -/
  | manifest (source detail : String)
  | file (context : String) (reason : FileError)
  | serialization (context : String)
  /-- A resource of the output that cannot stand as it is. -/
  | inconsistent (resourceKind name detail : String)
  deriving DecidableEq, Repr

namespace Fault

def message : Fault → String
  | .notFound object none => s!"{object.display} not found"
  | .notFound object (some referrer) => s!"{object.display} not found (referenced by {referrer})"
  | .unauthorized source target field =>
    s!"{source.display} is not permitted to reference {target.display} ({field}): " ++
      "no matching ReferenceGrant in the target namespace"
  | .unsupported object field detail =>
    s!"unsupported construct in {object.display} at {field}: {detail}"
  | .invalid object field detail => s!"invalid {object.display} at {field}: {detail}"
  | .settings detail => s!"Configuration error: {detail}"
  | .manifest source detail => s!"Manifest error in {source}: {detail}"
  | .file context _ => s!"I/O error: {context}"
  | .serialization context => s!"Serialization error: {context}"
  | .inconsistent resourceKind name detail =>
    s!"inconsistent output: {resourceKind} '{name}' {detail}"

/-- The message followed by the reason that lies behind it, where there is one. -/
def fullMessage : Fault → String
  | .file context reason => s!"{(file context reason).message}: {reason.message}"
  | fault => fault.message

/-- A stable label of the kind of fault. -/
def category : Fault → String
  | .notFound .. => "not-found"
  | .unauthorized .. => "unauthorized-reference"
  | .unsupported .. => "unsupported-construct"
  | .invalid .. => "invalid-input"
  | .settings _ => "config"
  | .manifest .. => "manifest"
  | .file .. => "io"
  | .serialization _ => "serialization"
  | .inconsistent .. => "inconsistent-output"

/-- The object a fault is attributed to. -/
def object? : Fault → Option ObjectRef
  | .notFound object _ | .unsupported object _ _ | .invalid object _ _ => some object
  | .unauthorized source _ _ => some source
  | _ => none

end Fault

end GatewayCompiler
