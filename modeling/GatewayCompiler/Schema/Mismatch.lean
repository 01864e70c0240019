import GatewayCompiler.Json.Value
import GatewayCompiler.Text.Quoted

/-!
# Values that do not fit their type

A value is read as a typed object field by field, and the first thing that does not fit is
reported: what was found, and what the field takes.
-/

namespace GatewayCompiler.Schema

/-- Why a JSON value is not a value of its type. -/
inductive Mismatch where
  /-- A field that has no default is absent. -/
  | missing (field : String)
  /-- A value of another kind. -/
  | kind (found : Json) (expected : String)
  /-- The right kind, but not a value of the type. -/
  | value (found : Json) (expected : String)
  /-- An array in place of a record has too few or too many elements. -/
  | length (found : Nat) (expected : String)
  /-- A word that is not one of an enumeration. -/
  | variant (found : String) (known : List String)
  /-- None of the alternatives of a type fits. -/
  | alternative (typeName : String)
  deriving Repr

/-- How a message speaks of a value. -/
def describe : Json → String
  | .null => "null"
  | .bool b => s!"boolean `{b}`"
  | .int n => s!"integer `{n}`"
  | .float x => s!"floating point `{x.text}`"
  | .string s => s!"string {Text.quoted s}"
  | .array _ => "sequence"
  | .object _ => "map"

/-- The words of an enumeration, as a message lists them. -/
def oneOf : List String → String
  | [] => "there are no variants"
  | [a] => s!"expected `{a}`"
  | [a, b] => s!"expected `{a}` or `{b}`"
  | known => "expected one of " ++ ", ".intercalate (known.map fun v => s!"`{v}`")

def Mismatch.message : Mismatch → String
  | .missing field => s!"missing field `{field}`"
  | .kind found expected => s!"invalid type: {describe found}, expected {expected}"
  | .value found expected => s!"invalid value: {describe found}, expected {expected}"
  | .length found expected => s!"invalid length {found}, expected {expected}"
  | .variant found known => s!"unknown variant `{found}`, {oneOf known}"
  | .alternative typeName => s!"data did not match any variant of untagged enum {typeName}"

end GatewayCompiler.Schema
