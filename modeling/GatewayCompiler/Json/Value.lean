import GatewayCompiler.Decimal.Notation

/-!
# JSON values

Objects keep their fields in ascending order of key, so equal objects are equal values and every
reader meets the fields in the same order.  Integers keep their exact value while they fit 64 bits,
signed or unsigned; any other number is a double.
-/

namespace GatewayCompiler

open Decimal (Binary64)

inductive Json where
  | null
  | bool (value : Bool)
  | int (value : Int)
  | float (value : Binary64)
  | string (value : String)
  | array (items : List Json)
  | object (fields : List (String × Json))
  deriving Inhabited, Repr

namespace Json

/-- Puts a field at its place; a field of the same name is replaced. -/
def insertField (key : String) (value : Json) :
    List (String × Json) → List (String × Json)
  | [] => [(key, value)]
  | (k, v) :: rest =>
    if key < k then (key, value) :: (k, v) :: rest
    else if key = k then (key, value) :: rest
    else (k, v) :: insertField key value rest

/-- The object with these fields; of several of one name the last counts. -/
def ofFields (fields : List (String × Json)) : Json :=
  .object (fields.foldl (fun acc (k, v) => insertField k v acc) [])

def field? (key : String) : Json → Option Json
  | .object fields => fields.lookup key
  | _ => none

def string? : Json → Option String
  | .string s => some s
  | _ => none

/-- The integers that keep their exact value. -/
def isExact (n : Int) : Bool :=
  Int64.minValue.toInt ≤ n && n < UInt64.size

/-- An integer, or the double nearest to it when it needs more than 64 bits. -/
def ofInt (n : Int) : Option Json :=
  if isExact n then some (.int n) else (Binary64.ofInt? n).map .float

end Json

end GatewayCompiler
