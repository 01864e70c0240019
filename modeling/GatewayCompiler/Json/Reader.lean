import GatewayCompiler.Json.Value

/-!
# Reading JSON text

A text is one value with blanks around it.  A number with a fraction or an exponent is a double, as
is an integer beyond 64 bits and the negative zero.  The depth of a text is at most its length, which
bounds the recursion.
-/

namespace GatewayCompiler.Json

open Decimal (Binary64)

def isBlank (c : Char) : Bool :=
  c == ' ' || c == '\t' || c == '\n' || c == '\r'

def skipBlanks (cs : List Char) : List Char :=
  cs.dropWhile isBlank

/-- What follows `word` at the start of the text. -/
def afterWord? (word : List Char) (cs : List Char) : Option (List Char) :=
  if word.isPrefixOf cs then some (cs.drop word.length) else none

def hexValue? (c : Char) : Option Nat :=
  let n := c.toNat
  if 48 ≤ n ∧ n ≤ 57 then some (n - 48)
  else if 97 ≤ n ∧ n ≤ 102 then some (n - 87)
  else if 65 ≤ n ∧ n ≤ 70 then some (n - 55)
  else none

def hexUnit? : List Char → Option (Nat × List Char)
  | a :: b :: c :: d :: rest => do
    let a ← hexValue? a
    let b ← hexValue? b
    let c ← hexValue? c
    let d ← hexValue? d
    return (a * 4096 + b * 256 + c * 16 + d, rest)
  | _ => none

/-- The character of one or two hexadecimal units; a surrogate must be half of a pair. -/
def escapedUnit? (cs : List Char) : Option (Char × List Char) := do
  let (high, rest) ← hexUnit? cs
  if 0xd800 ≤ high ∧ high < 0xdc00 then
    let rest ← afterWord? ['\\', 'u'] rest
    let (low, rest) ← hexUnit? rest
    if 0xdc00 ≤ low ∧ low < 0xe000 then
      return (Char.ofNat (0x10000 + (high - 0xd800) * 0x400 + (low - 0xdc00)), rest)
    else none
  else if 0xdc00 ≤ high ∧ high < 0xe000 then none
  else return (Char.ofNat high, rest)

def simpleEscape? (c : Char) : Option Char :=
  match c with
  | '\x22' => some '\x22'
  | '\\' => some '\\'
  | '/' => some '/'
  | 'b' => some '\x08'
  | 'f' => some '\x0c'
  | 'n' => some '\n'
  | 'r' => some '\r'
  | 't' => some '\t'
  | _ => none

/-- The rest of a string after its opening quote. -/
def readString (fuel : Nat) (cs : List Char) : Option (List Char × List Char) :=
  match fuel, cs with
  | 0, _ => none
  | _ + 1, [] => none
  | fuel + 1, c :: rest =>
    if c = '\x22' then some ([], rest)
    else if c = '\\' then
      match rest with
      | 'u' :: rest => do
        let (ch, rest) ← escapedUnit? rest
        let (chars, rest) ← readString fuel rest
        return (ch :: chars, rest)
      | e :: rest => do
        let ch ← simpleEscape? e
        let (chars, rest) ← readString fuel rest
        return (ch :: chars, rest)
      | [] => none
    else if c.toNat < 32 then none
    else do
      let (chars, rest) ← readString fuel rest
      return (c :: chars, rest)

def digitsValue (ds : List Char) : Nat :=
  ds.foldl (fun n c => n * 10 + (c.toNat - 48)) 0

/-- The digits at the start of the text and what follows them. -/
def spanDigits (cs : List Char) : List Char × List Char :=
  (cs.takeWhile Char.isDigit, cs.dropWhile Char.isDigit)

/-- A sign and digits after `e`. -/
def readExponent? (cs : List Char) : Option (Option Int × List Char) :=
  match cs with
  | e :: rest =>
    if e = 'e' ∨ e = 'E' then
      let (negative, rest) := match rest with
        | '-' :: r => (true, r)
        | '+' :: r => (false, r)
        | r => (false, r)
      let (ds, rest) := spanDigits rest
      if ds = [] then none
      else some (some (if negative then -(digitsValue ds : Int) else digitsValue ds), rest)
    else some (none, cs)
  | [] => some (none, [])

def readNumber? (cs : List Char) : Option (Json × List Char) := do
  let (negative, cs) := match cs with
    | '-' :: r => (true, r)
    | r => (false, r)
  let (whole, cs) := spanDigits cs
  if whole = [] ∨ (whole.head? = some '0' ∧ 1 < whole.length) then none
  let (fraction, cs) ← match cs with
    | '.' :: r =>
      let (ds, r) := spanDigits r
      if ds = [] then none else some (some ds, r)
    | r => some (none, r)
  let (exponent, cs) ← readExponent? cs
  let magnitude := digitsValue whole
  if fraction = none ∧ exponent = none ∧ ¬(negative ∧ magnitude = 0) then
    let value ← Json.ofInt (if negative then -(magnitude : Int) else magnitude)
    return (value, cs)
  else
    let places := fraction.getD []
    let value ← Binary64.ofDecimal? negative (digitsValue (whole ++ places))
      (exponent.getD 0 - places.length)
    return (.float value, cs)

mutual

def readValue (fuel : Nat) (cs : List Char) : Option (Json × List Char) :=
  match fuel with
  | 0 => none
  | fuel + 1 =>
    match skipBlanks cs with
    | [] => none
    | c :: rest =>
      if c = '\x7b' then
        match skipBlanks rest with
        | '\x7d' :: rest => some (.object [], rest)
        | rest => do
          let (fields, rest) ← readFields fuel rest
          return (ofFields fields, rest)
      else if c = '[' then
        match skipBlanks rest with
        | ']' :: rest => some (.array [], rest)
        | rest => do
          let (items, rest) ← readItems fuel rest
          return (.array items, rest)
      else if c = '\x22' then do
        let (chars, rest) ← readString (rest.length + 1) rest
        return (.string (String.ofList chars), rest)
      else if c = 'n' then (afterWord? "ull".toList rest).map (.null, ·)
      else if c = 't' then (afterWord? "rue".toList rest).map (.bool true, ·)
      else if c = 'f' then (afterWord? "alse".toList rest).map (.bool false, ·)
      else readNumber? (c :: rest)

def readItems (fuel : Nat) (cs : List Char) : Option (List Json × List Char) :=
  match fuel with
  | 0 => none
  | fuel + 1 => do
    let (item, rest) ← readValue fuel cs
    match skipBlanks rest with
    | ',' :: rest =>
      let (items, rest) ← readItems fuel rest
      return (item :: items, rest)
    | ']' :: rest => return ([item], rest)
    | _ => none

def readFields (fuel : Nat) (cs : List Char) : Option (List (String × Json) × List Char) :=
  match fuel with
  | 0 => none
  | fuel + 1 =>
    match skipBlanks cs with
    | '\x22' :: rest => do
      let (key, rest) ← readString (rest.length + 1) rest
      let rest ← afterWord? [':'] (skipBlanks rest)
      let (value, rest) ← readValue fuel rest
      match skipBlanks rest with
      | ',' :: rest =>
        let (fields, rest) ← readFields fuel rest
        return ((String.ofList key, value) :: fields, rest)
      | '\x7d' :: rest => return ([(String.ofList key, value)], rest)
      | _ => none
    | _ => none

end

/-- The value of a whole text. -/
def parse? (text : String) : Option Json := do
  let cs := text.toList
  let (value, rest) ← readValue (2 * cs.length + 2) cs
  if skipBlanks rest = [] then some value else none

end GatewayCompiler.Json
