/-!
# Network addresses

The bind address of a listener must be an IP address.  An IPv4 address is four decimal numbers
without leading zeros; an IPv6 address is eight groups of hexadecimal digits, where one `::` may
stand for a run of zero groups and the last two groups may be written as an IPv4 address.
-/

namespace GatewayCompiler

inductive Address where
  | v4 (octets : List Nat)
  | v6 (groups : List Nat)
  deriving DecidableEq, Repr

namespace Address

/-- A reader of the start of a text gives its value and what is left. -/
abbrev Reader (α : Type) := List Char → Option (α × List Char)

def digit? (radix : Nat) (c : Char) : Option Nat :=
  let n := c.toNat
  let value? :=
    if 48 ≤ n ∧ n ≤ 57 then some (n - 48)
    else if 97 ≤ n ∧ n ≤ 102 then some (n - 87)
    else if 65 ≤ n ∧ n ≤ 70 then some (n - 55)
    else none
  value?.filter (· < radix)

/-- The longest run of digits. -/
def digits (radix : Nat) : List Char → List Nat × List Char
  | [] => ([], [])
  | c :: rest =>
    match digit? radix c with
    | some d => let (ds, rest') := digits radix rest; (d :: ds, rest')
    | none => ([], c :: rest)

def ofDigits (radix : Nat) (ds : List Nat) : Nat :=
  ds.foldl (fun n d => n * radix + d) 0

/-- A decimal number below 256 without a leading zero. -/
def readOctet : Reader Nat := fun cs =>
  let (ds, rest) := digits 10 cs
  if ds = [] ∨ 3 < ds.length ∨ (1 < ds.length ∧ ds.head? = some 0) then none
  else if ofDigits 10 ds < 256 then some (ofDigits 10 ds, rest)
  else none

/-- One to four hexadecimal digits. -/
def readGroup : Reader Nat := fun cs =>
  let (ds, rest) := digits 16 cs
  if ds = [] ∨ 4 < ds.length then none else some (ofDigits 16 ds, rest)

def readChar (c : Char) : List Char → Option (List Char)
  | [] => none
  | d :: rest => if c = d then some rest else none

/-- A separator, unless this is the first item, and then an item. -/
def readNext {α : Type} (isFirst : Bool) (separator : Char) (item : Reader α) : Reader α := fun cs =>
  if isFirst then item cs else (readChar separator cs).bind item

def readV4 : Reader (List Nat) := fun cs => do
  let (a, cs) ← readOctet cs
  let (b, cs) ← readNext false '.' readOctet cs
  let (c, cs) ← readNext false '.' readOctet cs
  let (d, cs) ← readNext false '.' readOctet cs
  return ([a, b, c, d], cs)

/-- The two groups that an IPv4 address stands for. -/
def embedded (octets : List Nat) : List Nat :=
  [octets.getD 0 0 * 256 + octets.getD 1 0, octets.getD 2 0 * 256 + octets.getD 3 0]

/-- As many groups as there are, up to `limit`, and whether they end in an IPv4 address. -/
def readGroups (isFirst : Bool) : Nat → List Char → List Nat × Bool × List Char
  | 0, cs => ([], false, cs)
  | limit + 1, cs =>
    match if 0 < limit then readNext isFirst ':' readV4 cs else none with
    | some (octets, rest) => (embedded octets, true, rest)
    | none =>
      match readNext isFirst ':' readGroup cs with
      | some (group, rest) =>
        let (groups, hasV4, rest) := readGroups false limit rest
        (group :: groups, hasV4, rest)
      | none => ([], false, cs)

def readV6 : Reader (List Nat) := fun cs => do
  let (head, hasV4, cs) := readGroups true 8 cs
  if head.length = 8 then return (head, cs)
  if hasV4 then none
  let cs ← readChar ':' cs
  let cs ← readChar ':' cs
  let (tail, _, cs) := readGroups true (7 - head.length) cs
  return (head ++ List.replicate (8 - head.length - tail.length) 0 ++ tail, cs)

/-- Reads a whole text as an address. -/
def parse? (text : String) : Option Address :=
  let cs := text.toList
  match readV4 cs with
  | some (octets, rest) => if rest = [] then some (.v4 octets) else none
  | none =>
    match readV6 cs with
    | some (groups, rest) => if rest = [] then some (.v6 groups) else none
    | none => none

end Address

end GatewayCompiler
