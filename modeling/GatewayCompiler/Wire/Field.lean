/-!
# Fields on the wire

A protobuf message is a list of numbered fields.  This module writes such a list as bytes and reads
bytes back as one; it knows nothing of any message type.  Reading keeps every field in its order and
refuses bytes that no message type accepts: a field number of zero, an unknown wire type, a length
that runs past the end, a group that is not closed.
-/

namespace GatewayCompiler.Wire

abbrev Bytes := List UInt8

/-- The value of a field as its wire type gives it.  The contents of a group do not matter to any
message here. -/
inductive Payload where
  | varint (value : Nat)
  | fixed64 (bytes : Bytes)
  | bytes (bytes : Bytes)
  | group
  | fixed32 (bytes : Bytes)
  deriving DecidableEq, Repr

structure Field where
  number : Nat
  payload : Payload
  deriving DecidableEq, Repr

abbrev Fields := List Field

/-- Groups of seven bits, least significant first; all but the last have their top bit set. -/
def varint (n : Nat) : Bytes :=
  if n < 128 then [UInt8.ofNat n] else UInt8.ofNat (n % 128 + 128) :: varint (n / 128)

def Payload.wireType : Payload → Nat
  | .varint _ => 0
  | .fixed64 _ => 1
  | .bytes _ => 2
  | .group => 3
  | .fixed32 _ => 5

def key (number wireType : Nat) : Bytes :=
  varint (number * 8 + wireType)

def Field.encode (field : Field) : Bytes :=
  key field.number field.payload.wireType ++
    match field.payload with
    | .varint value => varint value
    | .fixed64 bytes => bytes
    | .bytes bytes => varint bytes.length ++ bytes
    | .group => key field.number 4
    | .fixed32 bytes => bytes

def encode (fields : Fields) : Bytes :=
  fields.flatMap Field.encode

/-- A number of at most 64 bits; `index` bytes of it have been read. -/
def readVarint (index : Nat) : Bytes → Option (Nat × Bytes)
  | [] => none
  | byte :: rest =>
    let n := byte.toNat
    if n < 128 then
      if index = 9 ∧ 2 ≤ n then none else some (n, rest)
    else if 9 ≤ index then none
    else (readVarint (index + 1) rest).map fun (high, rest) => (n - 128 + 128 * high, rest)

/-- A number of any size. -/
def readNumber : Bytes → Option (Nat × Bytes)
  | [] => none
  | byte :: rest =>
    let n := byte.toNat
    if n < 128 then some (n, rest)
    else (readNumber rest).map fun (high, rest) => (n - 128 + 128 * high, rest)

/-- The length of the bytes that follow.  A length beyond 64 bits is read as well: no reader holds
that many bytes, so it is refused for running past the end. -/
def readLength (bytes : Bytes) : Option (Nat × Bytes) :=
  (readVarint 0 bytes).or ((readNumber bytes).filter fun (length, _) => UInt64.size ≤ length)

/-- `n` bytes and what follows them. -/
def takeBytes (n : Nat) (bytes : Bytes) : Option (Bytes × Bytes) :=
  if n ≤ bytes.length then some (bytes.take n, bytes.drop n) else none

/-- The number and wire type of the next field. -/
def readKey (bytes : Bytes) : Option (Nat × Nat × Bytes) := do
  let (n, rest) ← readVarint 0 bytes
  if n < UInt32.size ∧ n / 8 ≠ 0 then some (n / 8, n % 8, rest) else none

/-- Reads fields to the end.  `enclosing` are the numbers of the groups that are open, innermost
first; only fields outside every group are kept. -/
def readFields (fuel : Nat) (enclosing : List Nat) (bytes : Bytes) : Option Fields :=
  match fuel, bytes with
  | _, [] => if enclosing = [] then some [] else none
  | 0, _ :: _ => none
  | fuel + 1, bytes => do
    let (number, wireType, rest) ← readKey bytes
    let keep (payload : Payload) (fields : Fields) : Fields :=
      if enclosing = [] then ⟨number, payload⟩ :: fields else fields
    match wireType with
    | 0 =>
      let (value, rest) ← readVarint 0 rest
      return keep (.varint value) (← readFields fuel enclosing rest)
    | 1 =>
      let (value, rest) ← takeBytes 8 rest
      return keep (.fixed64 value) (← readFields fuel enclosing rest)
    | 2 =>
      let (length, rest) ← readLength rest
      let (value, rest) ← takeBytes length rest
      return keep (.bytes value) (← readFields fuel enclosing rest)
    | 3 => return keep .group (← readFields fuel (number :: enclosing) rest)
    | 4 =>
      match enclosing with
      | inner :: outer => if inner = number then readFields fuel outer rest else none
      | [] => none
    | 5 =>
      let (value, rest) ← takeBytes 4 rest
      return keep (.fixed32 value) (← readFields fuel enclosing rest)
    | _ => none

/-- The fields of a message; each takes at least a byte. -/
def decode (bytes : Bytes) : Option Fields :=
  readFields bytes.length [] bytes

end GatewayCompiler.Wire
