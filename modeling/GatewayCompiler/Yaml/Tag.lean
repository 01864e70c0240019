import GatewayCompiler.Text.Utf8
import GatewayCompiler.Yaml.QuotedScalar
import GatewayCompiler.Yaml.Token

/-!
# Tags, anchors and directives

A tag is `!<uri>`, a handle with a suffix, or `!` with a suffix.  In a suffix a percent sign starts
an octet, and octets have to come in sequences that look like UTF-8.
-/

namespace GatewayCompiler.Yaml

open Text (utf8)

/-- The characters of names and handles. -/
def isNameChar (c : Char) : Bool :=
  c.isAlphanum || c == '_' || c == '-'

def Cursor.readName (cursor : Cursor) : List Char × Cursor :=
  cursor.takeWhile isNameChar

namespace Tag

/-- The characters that may stand in a suffix; brackets and commas only in `!<uri>` and in a
directive. -/
def isUriChar (isVerbatim : Bool) (c : Char) : Bool :=
  isNameChar c || ";/?:@&=+$.%!~*'()".toList.contains c || (isVerbatim && ",[]".toList.contains c)

/-- An octet that a percent sign starts. -/
def octet? : List Char → Option Nat
  | '%' :: rest => QuotedScalar.hexNumber? 2 rest
  | _ => none

/-- How many octets the sequence that starts with this one has. -/
def sequenceLength? (octet : Nat) : Option Nat :=
  if octet < 0x80 then some 1
  else if 0xc0 ≤ octet && octet < 0xe0 then some 2
  else if 0xe0 ≤ octet && octet < 0xf0 then some 3
  else if 0xf0 ≤ octet && octet < 0xf8 then some 4
  else none

/-- `n` octets that continue a sequence. -/
def continuation? : Nat → List Char → Option (List UInt8)
  | 0, _ => some []
  | n + 1, cs => do
    let octet ← octet? cs
    if 0x80 ≤ octet && octet < 0xc0 then
      return UInt8.ofNat octet :: (← continuation? n (cs.drop 3))
    else none

/-- The octets of one sequence. -/
def escapedOctets? (cs : List Char) : Option (List UInt8) := do
  let first ← octet? cs
  let length ← sequenceLength? first
  return UInt8.ofNat first :: (← continuation? (length - 1) (cs.drop 3))

/-- The bytes of the suffix that starts here. -/
def readUri (isVerbatim : Bool) : Nat → Cursor → Option (List UInt8 × Cursor)
  | 0, cursor => some ([], cursor)
  | fuel + 1, cursor =>
    match cursor.char? with
    | none => some ([], cursor)
    | some c =>
      if !isUriChar isVerbatim c then some ([], cursor)
      else if c = '%' then do
        let octets ← escapedOctets? cursor.rest
        let (bytes, next) ← readUri isVerbatim fuel (cursor.advance (3 * octets.length))
        return (octets ++ bytes, next)
      else do
        let (bytes, next) ← readUri isVerbatim fuel (cursor.advance 1)
        return (utf8 (String.singleton c) ++ bytes, next)

def uri? (isVerbatim : Bool) (cursor : Cursor) : Option (List UInt8 × Cursor) :=
  readUri isVerbatim cursor.left cursor

def nonEmptyUri? (isVerbatim : Bool) (cursor : Cursor) : Option (List UInt8 × Cursor) :=
  (uri? isVerbatim cursor).filter (·.1 ≠ [])

/-- A handle: `!`, and perhaps a name, and perhaps a second `!`. -/
def readHandle (cursor : Cursor) : Option (List Char × Cursor) :=
  if cursor.char? == some '!' then
    let (name, next) := (cursor.advance 1).readName
    if next.char? == some '!' then some ('!' :: name ++ ['!'], next.advance 1)
    else some ('!' :: name, next)
  else none

/-- A handle and a suffix, the handle being empty where the suffix is the whole tag. -/
def readParts (cursor : Cursor) : Option ((String × List UInt8) × Cursor) := do
  if cursor.charAt? 1 == some '<' then
    let (suffix, next) ← nonEmptyUri? true (cursor.advance 2)
    if next.char? == some '>' then return (("", suffix), next.advance 1) else none
  else
    let (handle, next) ← readHandle cursor
    if 1 < handle.length && handle.getLast? == some '!' then
      let (suffix, next) ← nonEmptyUri? false next
      return ((String.ofList handle, suffix), next)
    else
      let (bytes, next) ← uri? false next
      let suffix := utf8 (String.ofList (handle.drop 1)) ++ bytes
      return (if suffix = [] then ("", utf8 "!") else ("!", suffix), next)

/-- The tag that starts here.  A blank ends it, in a flow collection also a comma. -/
def read (inFlow : Bool) (cursor : Cursor) : Option (Token × Cursor) := do
  let ((handle, suffix), next) ← readParts cursor
  if isWordEnd next.char? || (inFlow && next.char? == some ',') then
    return (.tag handle suffix, next)
  else none

end Tag

namespace Anchor

/-- The characters besides blanks that may follow a name. -/
def isFollower (c : Char) : Bool :=
  "?:,]\x7d%@\x60".toList.contains c

/-- The name of an anchor or reference, after its indicator. -/
def readName (cursor : Cursor) : Option (String × Cursor) :=
  let (name, next) := cursor.readName
  if name ≠ [] && (isWordEnd next.char? || next.char?.any isFollower) then
    some (String.ofList name, next)
  else none

end Anchor

namespace Directive

/-- A number of at most nine digits. -/
def readNumber (cursor : Cursor) : Option (Nat × Cursor) :=
  let (digits, next) := cursor.takeWhile Char.isDigit
  if digits = [] || 9 < digits.length then none
  else some (digits.foldl (fun n d => n * 10 + (d.toNat - 48)) 0, next)

def readVersion (cursor : Cursor) : Option (Token × Cursor) := do
  let (major, next) ← readNumber (cursor.skipWhile isSpaceOrTab)
  if next.char? ≠ some '.' then none
  let (minor, next) ← readNumber (next.advance 1)
  return (.version major minor, next)

/-- A handle that is `!` alone or ends in `!`, and what it stands for. -/
def readTag (cursor : Cursor) : Option (Token × Cursor) := do
  let (handle, next) ← Tag.readHandle (cursor.skipWhile isSpaceOrTab)
  if handle.getLast? ≠ some '!' then none
  if !next.char?.any isSpaceOrTab then none
  let (start, next) ← Tag.nonEmptyUri? true (next.skipWhile isSpaceOrTab)
  if isWordEnd next.char? then return (.tagDirective (String.ofList handle) start, next) else none

/-- The directive after its indicator, to the end of its line. -/
def read (cursor : Cursor) : Option (Token × Cursor) := do
  let (name, next) := cursor.readName
  if !isWordEnd next.char? then none
  let (token, next) ←
    if name = ['Y', 'A', 'M', 'L'] then readVersion next
    else if name = ['T', 'A', 'G'] then readTag next
    else none
  let next ← next.endLine?
  return (token, next)

end Directive

end GatewayCompiler.Yaml
