import GatewayCompiler.Json.Value
import GatewayCompiler.Table

/-!
# Typed writing

The JSON form of a typed object.  Some absent values are left out of their object, the others are
written as `null`.
-/

namespace GatewayCompiler.Schema.Writer

/-- A field that is always written. -/
def field (name : String) (value : Json) : List (String × Json) :=
  [(name, value)]

/-- A field that is left out when there is nothing to write. -/
def fieldIfSome (name : String) : Option Json → List (String × Json)
  | some value => [(name, value)]
  | none => []

def option {α : Type} (write : α → Json) : Option α → Json
  | some value => write value
  | none => .null

def list {α : Type} (write : α → Json) (values : List α) : Json :=
  .array (values.map write)

def uint16 (n : UInt16) : Json := .int n.toNat

def uint32 (n : UInt32) : Json := .int n.toNat

def uint64 (n : UInt64) : Json := .int n.toNat

def stringTable (table : Table String String) : Json :=
  .object (table.entries.map fun (key, value) => (key, .string value))

/-- The word of a value in an enumeration. -/
def enumeration {α : Type} [BEq α] (words : List (String × α)) (value : α) : Json :=
  .string (((words.find? fun w => w.2 == value).map (·.1)).getD "")

end GatewayCompiler.Schema.Writer
