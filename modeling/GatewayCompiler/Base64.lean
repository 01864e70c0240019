/-!
# Base64

Certificates arrive, and encoded messages leave, in the standard alphabet with padding.  Reading is
strict: padding is required and the bits that no byte uses must be zero, so every byte string has
exactly one accepted text.  A refused text names the first offending symbol by its offset.
-/

namespace GatewayCompiler.Base64

/-- Why a text is not Base64. -/
inductive DecodeError where
  /-- A byte outside the alphabet, or padding where a symbol is needed. -/
  | symbol (byte : UInt8) (offset : Nat)
  /-- A single symbol left over after whole groups. -/
  | loneSymbol (length : Nat)
  /-- The last symbol sets bits that belong to no byte. -/
  | lastSymbol (byte : UInt8) (offset : Nat)
  | padding
  deriving DecidableEq, Repr

def DecodeError.message : DecodeError → String
  | .symbol byte offset => s!"Invalid symbol {byte.toNat}, offset {offset}."
  | .loneSymbol length => s!"Invalid input length: {length}"
  | .lastSymbol byte offset => s!"Invalid last symbol {byte.toNat}, offset {offset}."
  | .padding => "Invalid padding"

def pad : UInt8 := 61

/-- The symbol for a value below 64. -/
def symbol (n : Nat) : UInt8 :=
  if n < 26 then UInt8.ofNat (65 + n)
  else if n < 52 then UInt8.ofNat (97 + (n - 26))
  else if n < 62 then UInt8.ofNat (48 + (n - 52))
  else if n = 62 then 43 else 47

/-- The value of a symbol, or `none` outside the alphabet. -/
def value? (byte : UInt8) : Option Nat :=
  let n := byte.toNat
  if 65 ≤ n ∧ n ≤ 90 then some (n - 65)
  else if 97 ≤ n ∧ n ≤ 122 then some (n - 97 + 26)
  else if 48 ≤ n ∧ n ≤ 57 then some (n - 48 + 52)
  else if n = 43 then some 62
  else if n = 47 then some 63
  else none

/-- Three bytes give four symbols; a rest of one or two bytes is padded. -/
def encodeBytes : List UInt8 → List UInt8
  | [] => []
  | [a] => [symbol (a.toNat / 4), symbol (a.toNat % 4 * 16), pad, pad]
  | [a, b] =>
    [symbol (a.toNat / 4), symbol (a.toNat % 4 * 16 + b.toNat / 16), symbol (b.toNat % 16 * 4), pad]
  | a :: b :: c :: rest =>
    symbol (a.toNat / 4) :: symbol (a.toNat % 4 * 16 + b.toNat / 16) ::
      symbol (b.toNat % 16 * 4 + c.toNat / 64) :: symbol (c.toNat % 64) :: encodeBytes rest

def encode (bytes : List UInt8) : String :=
  String.ofList ((encodeBytes bytes).map fun b => Char.ofNat b.toNat)

def symbolAt (byte : UInt8) (offset : Nat) : Except DecodeError Nat :=
  match value? byte with
  | some n => .ok n
  | none => .error (.symbol byte offset)

/-- The symbols of the last group, up to its padding, and how many padding bytes follow them. -/
def lastGroup (start : Nat) (index : Nat) : List UInt8 → Except DecodeError (List Nat × Nat)
  | [] => .ok ([], 0)
  | byte :: rest =>
    if byte = pad then
      if index < 2 then .error (.symbol pad (start + index))
      else if rest.all (· = pad) then .ok ([], rest.length + 1)
      else .error (.symbol pad (start + index))
    else do
      let n ← symbolAt byte (start + index)
      let (symbols, padding) ← lastGroup start (index + 1) rest
      return (n :: symbols, padding)

/-- The last group, of at most four bytes, may be padded. -/
def decodeLast (start : Nat) (group : List UInt8) : Except DecodeError (List UInt8) := do
  let (symbols, padding) ← lastGroup start 0 group
  if start + group.length ≠ 0 ∧ symbols.length < 2 then throw (.loneSymbol (start + symbols.length))
  if (padding + symbols.length) % 4 ≠ 0 then throw .padding
  let last := group.getD (symbols.length - 1) 0
  match symbols with
  | [a, b] =>
    if b % 16 ≠ 0 then throw (.lastSymbol last (start + 1))
    return [UInt8.ofNat (a * 4 + b / 16)]
  | [a, b, c] =>
    if c % 4 ≠ 0 then throw (.lastSymbol last (start + 2))
    return [UInt8.ofNat (a * 4 + b / 16), UInt8.ofNat (b % 16 * 16 + c / 4)]
  | [a, b, c, d] =>
    return [UInt8.ofNat (a * 4 + b / 16), UInt8.ofNat (b % 16 * 16 + c / 4),
      UInt8.ofNat (c % 4 * 64 + d)]
  | _ => return []

/-- Reads whole groups while more bytes follow them, then the last group. -/
def decodeGroups (start : Nat) : List UInt8 → Except DecodeError (List UInt8)
  | a :: b :: c :: d :: e :: rest => do
    let a ← symbolAt a start
    let b ← symbolAt b (start + 1)
    let c ← symbolAt c (start + 2)
    let d ← symbolAt d (start + 3)
    let bytes ← decodeGroups (start + 4) (e :: rest)
    return UInt8.ofNat (a * 4 + b / 16) :: UInt8.ofNat (b % 16 * 16 + c / 4) ::
      UInt8.ofNat (c % 4 * 64 + d) :: bytes
  | group => decodeLast start group

/-- A byte outside the alphabet that stands alone at the end is reported before anything else. -/
def straySymbol? (bytes : List UInt8) : Option DecodeError :=
  match bytes.getLast? with
  | some byte =>
    if bytes.length % 4 = 1 ∧ byte ≠ pad ∧ value? byte = none then
      some (.symbol byte (bytes.length - 1))
    else none
  | none => none

def decodeBytes (bytes : List UInt8) : Except DecodeError (List UInt8) :=
  match straySymbol? bytes with
  | some e => .error e
  | none => decodeGroups 0 bytes

def decode (text : String) : Except DecodeError (List UInt8) :=
  decodeBytes text.toUTF8.data.toList

end GatewayCompiler.Base64
