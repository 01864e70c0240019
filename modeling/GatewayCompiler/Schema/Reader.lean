import GatewayCompiler.Schema.Mismatch
import GatewayCompiler.Table

/-!
# Typed reading

A reader takes a JSON value to a value of a type, or says what does not fit.  Records are read from
objects and, by position, from arrays.  In an object every field that is present is read before a
missing one is reported, and the fields are met in ascending order; fields the type does not have
are ignored.
-/

namespace GatewayCompiler.Schema

abbrev Reader (α : Type) := Json → Except Mismatch α

namespace Reader

def string : Reader String
  | .string s => .ok s
  | found => .error (.kind found "a string")

/-- An unsigned integer below `bound`. -/
def natBelow (bound : Nat) (expected : String) : Reader Nat
  | .int n =>
    if 0 ≤ n ∧ n < bound then .ok n.toNat else .error (.value (.int n) expected)
  | found => .error (.kind found expected)

def uint16 : Reader UInt16 := fun json => (natBelow UInt16.size "u16" json).map UInt16.ofNat

def uint32 : Reader UInt32 := fun json => (natBelow UInt32.size "u32" json).map UInt32.ofNat

def uint64 : Reader UInt64 := fun json => (natBelow UInt64.size "u64" json).map UInt64.ofNat

/-- `null` is the absent value. -/
def option {α : Type} (read : Reader α) : Reader (Option α)
  | .null => .ok none
  | json => (read json).map some

def list {α : Type} (read : Reader α) : Reader (List α)
  | .array items => items.mapM read
  | found => .error (.kind found "a sequence")

def entry {α : Type} (read : Reader α) : String × Json → Except Mismatch (String × α)
  | (key, value) => (read value).map (key, ·)

/-- A map from strings to values of one type. -/
def table {α : Type} (read : Reader α) : Reader (Table String α)
  | .object fields => (fields.mapM (entry read)).map Table.ofList
  | found => .error (.kind found "a map")

def stringTable : Reader (Table String String) :=
  table string

def unit : Reader Unit
  | .null => .ok ()
  | found => .error (.kind found "unit")

/-- A word of an enumeration. -/
def word {α : Type} (words : List (String × α)) (found : String) : Except Mismatch α :=
  match words.lookup found with
  | some value => .ok value
  | none => .error (.variant found (words.map (·.1)))

/-- A word of an enumeration, alone or as the only key of an object whose value is `null`. -/
def enumeration {α : Type} (words : List (String × α)) : Reader α
  | .string s => word words s
  | .object [(key, json)] => do
    let value ← word words key
    unit json
    return value
  | .object fields => .error (.value (.object fields) "map with a single key")
  | found => .error (.kind found "string or map")

end Reader

/-- Where the fields of a record are found, and what to say of one that is not there. -/
structure Source where
  find? : String → Option Json
  missing : String → Mismatch

/-- The fields of a record, each with the check of its value, and how the record is made of them. -/
structure Record (α : Type) where
  fields : List (String × (Json → Option Mismatch))
  build : Source → Except Mismatch α

namespace Record

variable {α β : Type}

def pure (value : α) : Record α := ⟨[], fun _ => .ok value⟩

def seq (f : Record (α → β)) (x : Unit → Record α) : Record β where
  fields := f.fields ++ (x ()).fields
  build source := do
    let g ← f.build source
    let a ← (x ()).build source
    return g a

instance : Applicative Record where
  pure := pure
  seq := seq

def fault? (read : Reader α) (json : Json) : Option Mismatch :=
  match read json with
  | .ok _ => none
  | .error e => some e

/-- A field that must be present. -/
def required (name : String) (read : Reader α) : Record α where
  fields := [(name, fault? read)]
  build source :=
    match source.find? name with
    | some json => read json
    | none => .error (source.missing name)

/-- A field with a default. -/
def withDefault (name : String) (read : Reader α) (default : α) : Record α where
  fields := [(name, fault? read)]
  build source :=
    match source.find? name with
    | some json => read json
    | none => .ok default

/-- A field that may be absent or `null`. -/
def optional (name : String) (read : Reader α) : Record (Option α) :=
  withDefault name (Reader.option read) none

/-- A list that is empty when absent. -/
def list (name : String) (read : Reader α) : Record (List α) :=
  withDefault name (Reader.list read) []

/-- Checks the fields of an object in their order. -/
def checkFields (checks : List (String × (Json → Option Mismatch))) :
    List (String × Json) → Except Mismatch Unit
  | [] => .ok ()
  | (key, json) :: rest =>
    match checks.lookup key with
    | none => checkFields checks rest
    | some check =>
      match check json with
      | some e => .error e
      | none => checkFields checks rest

def ofObject (fields : List (String × Json)) : Source where
  find? name := fields.lookup name
  missing name := .missing name

def elements (n : Nat) : String :=
  if n = 1 then "1 element" else s!"{n} elements"

/-- The elements of an array are the fields in the order of their declaration. -/
def ofArray (typeName : String) (names : List String) (items : List Json) : Source where
  find? name := items[names.idxOf name]?
  missing name :=
    .length (names.idxOf name) s!"struct {typeName} with {elements names.length}"

/-- The reader of a record. -/
def reader (typeName : String) (record : Record α) : Reader α
  | .object fields => do
    checkFields record.fields fields
    record.build (ofObject fields)
  | .array items => do
    let names := record.fields.map (·.1)
    let value ← record.build (ofArray typeName names items)
    if names.length < items.length then
      throw (.length items.length "fewer elements in array")
    return value
  | found => .error (.kind found s!"struct {typeName}")

end Record

end GatewayCompiler.Schema
