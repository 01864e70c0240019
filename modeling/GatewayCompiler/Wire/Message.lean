import GatewayCompiler.Text.Utf8
import GatewayCompiler.Wire.Field

/-!
# Messages as fields

How the parts of a message become fields and are found among them.  A scalar that has its default
value is not written, unless it is the chosen member of a choice; an absent message is not written,
an empty one is.  A scalar that occurs again replaces the earlier one; the fields of a message that
occurs again are added to the earlier ones.
-/

namespace GatewayCompiler.Wire

open Text (utf8 ofUtf8?)

namespace Write

/-- A string that is written even when it is empty. -/
def presentString (number : Nat) (s : String) : Fields :=
  [⟨number, .bytes (utf8 s)⟩]

def string (number : Nat) (s : String) : Fields :=
  if s = "" then [] else presentString number s

def strings (number : Nat) (values : List String) : Fields :=
  values.flatMap (presentString number)

def presentBytes (number : Nat) (bytes : Bytes) : Fields :=
  [⟨number, .bytes bytes⟩]

def bytes (number : Nat) (value : Bytes) : Fields :=
  if value = [] then [] else presentBytes number value

/-- A number that is written even when it is zero. -/
def presentNumber (number value : Nat) : Fields :=
  [⟨number, .varint value⟩]

def number (field value : Nat) : Fields :=
  if value = 0 then [] else presentNumber field value

def message (number : Nat) (fields : Fields) : Fields :=
  [⟨number, .bytes (encode fields)⟩]

def optional {α : Type} (write : α → Fields) : Option α → Fields
  | some value => write value
  | none => []

def repeated {α : Type} (number : Nat) (write : α → Fields) (values : List α) : Fields :=
  values.flatMap fun value => message number (write value)

/-- The value of an entry of a map: a message that is left out when nothing is in it. -/
def mapValue (number : Nat) (fields : Fields) : Fields :=
  if fields = [] then [] else message number fields

/-- An entry of a map: its key and value are fields 1 and 2. -/
def mapEntry {α : Type} (number : Nat) (write : α → Fields) (entry : String × α) : Fields :=
  message number (string 1 entry.1 ++ mapValue 2 (write entry.2))

end Write

namespace Read

/-- The payloads of a field, in order. -/
def payloads (number : Nat) (fields : Fields) : List Payload :=
  (fields.filter (·.number == number)).map (·.payload)

def asBytes : Payload → Option Bytes
  | .bytes bytes => some bytes
  | _ => none

def asString (payload : Payload) : Option String :=
  (asBytes payload).bind ofUtf8?

/-- A number of 32 bits; higher bits are dropped. -/
def asUInt32 : Payload → Option UInt32
  | .varint value => some (UInt32.ofNat value)
  | _ => none

def asUInt64 : Payload → Option UInt64
  | .varint value => some (UInt64.ofNat value)
  | _ => none

def asBool : Payload → Option Bool
  | .varint value => some (value != 0)
  | _ => none

def asFields (payload : Payload) : Option Fields :=
  (asBytes payload).bind decode

/-- A scalar: the last of its occurrences, or its default. -/
def scalar {α : Type} (read : Payload → Option α) (default : α) (number : Nat) (fields : Fields) :
    Option α := do
  let values ← (payloads number fields).mapM read
  return values.getLastD default

def string (number : Nat) (fields : Fields) : Option String :=
  scalar asString "" number fields

def strings (number : Nat) (fields : Fields) : Option (List String) :=
  (payloads number fields).mapM asString

/-- The fields of all the occurrences of a message together. -/
def merged (payloads : List Payload) : Option Fields :=
  (payloads.mapM asFields).map List.flatten

/-- A message that may be absent. -/
def message {α : Type} (read : Fields → Option α) (number : Nat) (fields : Fields) :
    Option (Option α) :=
  match payloads number fields with
  | [] => some none
  | occurrences => do
    let value ← read (← merged occurrences)
    return some value

def repeated {α : Type} (read : Fields → Option α) (number : Nat) (fields : Fields) :
    Option (List α) :=
  (payloads number fields).mapM fun payload => (asFields payload).bind read

/-- How a member of a choice is read from its occurrences in a row. -/
abbrev Member (α : Type) := List Payload → Option α

/-- A scalar member: the last occurrence counts. -/
def scalarMember {α β : Type} (read : Payload → Option β) (make : β → α) : Member α := fun run => do
  let values ← run.mapM read
  return make (← values.getLast?)

def messageMember {α β : Type} (read : Fields → Option β) (make : β → α) : Member α := fun run => do
  return make (← read (← merged run))

/-- Fields of one number that follow each other, with that number. -/
def runs : Fields → List (Nat × List Payload)
  | [] => []
  | ⟨number, payload⟩ :: rest =>
    match runs rest with
    | (next, payloads) :: others =>
      if next = number then (number, payload :: payloads) :: others
      else (number, [payload]) :: (next, payloads) :: others
    | [] => [(number, [payload])]

/-- A choice: the last member that occurs, each member being readable. -/
def choice {α : Type} (members : List (Nat × Member α)) (fields : Fields) : Option (Option α) := do
  let chosen := fields.filter fun field => (members.lookup field.number).isSome
  let values ← (runs chosen).mapM fun (number, run) =>
    (members.lookup number).bind fun read => read run
  return values.getLast?

/-- An entry of a map. -/
def mapEntry {α : Type} (read : Fields → Option α) (default : α) (fields : Fields) :
    Option (String × α) := do
  let key ← string 1 fields
  let value ← message read 2 fields
  return (key, value.getD default)

end Read

end GatewayCompiler.Wire
