/-!
# Places in a YAML text

A cursor is a place in a text: what follows, with its length, and the index, line and column reached.
Line breaks are LF, CR, both together, NEL, LS and PS.
-/

namespace GatewayCompiler.Yaml

def isBreak (c : Char) : Bool :=
  c == '\n' || c == '\r' || c == '\u0085' || c == '\u2028' || c == '\u2029'

def isSpaceOrTab (c : Char) : Bool :=
  c == ' ' || c == '\t'

/-- Whether a word may end before this character, or at the end of the text. -/
def isWordEnd : Option Char → Bool
  | none => true
  | some c => isSpaceOrTab c || isBreak c

/-- The characters that a text may hold. -/
def isReadable (c : Char) : Bool :=
  let n := c.toNat
  n == 9 || n == 10 || n == 13 || (0x20 ≤ n && n ≤ 0x7e) || n == 0x85 ||
    (0xa0 ≤ n && n ≤ 0xd7ff) || (0xe000 ≤ n && n ≤ 0xfffd) || 0x10000 ≤ n

/-- A text is taken in by chunks of this many bytes. -/
def chunkSize : Nat := 16384

/-- The index of the byte at which the first character that may not occur starts, if there is one. -/
def unreadableAt? (offset : Nat) : List Char → Option Nat
  | [] => none
  | c :: rest => if isReadable c then unreadableAt? (offset + c.utf8Size) rest else some offset

/-- The characters before the byte at an index. -/
def takeBytes (bytes : Nat) : List Char → List Char
  | [] => []
  | c :: rest => if c.utf8Size ≤ bytes then c :: takeBytes (bytes - c.utf8Size) rest else []

/-- The part of a text that can be taken in, and whether that is all of it.  A chunk with a character
that may not occur is not taken in at all. -/
def readablePart (cs : List Char) : List Char × Bool :=
  match unreadableAt? 0 cs with
  | none => (cs, true)
  | some offset => (takeBytes (offset / chunkSize * chunkSize) cs, false)

structure Cursor where
  rest : List Char
  /-- How many characters follow. -/
  left : Nat
  index : Nat
  line : Nat
  column : Nat
  left_eq : left = rest.length := by simp
  deriving DecidableEq, Repr

namespace Cursor

def start (cs : List Char) : Cursor where
  rest := cs
  left := cs.length
  index := 0
  line := 0
  column := 0

def char? (cursor : Cursor) : Option Char :=
  cursor.rest.head?

/-- The character that follows the next `n`. -/
def charAt? (cursor : Cursor) (n : Nat) : Option Char :=
  cursor.rest[n]?

/-- Past `n` characters of the line. -/
def advance (cursor : Cursor) (n : Nat) : Cursor :=
  { cursor with
    rest := cursor.rest.drop n
    left := cursor.left - n
    index := cursor.index + n
    column := cursor.column + n
    left_eq := by simp [cursor.left_eq] }

/-- Past `n` characters that end a line. -/
def nextLine (cursor : Cursor) (n : Nat) : Cursor where
  rest := cursor.rest.drop n
  left := cursor.left - n
  index := cursor.index + n
  line := cursor.line + 1
  column := 0
  left_eq := by simp [cursor.left_eq]

/-- A line break as it counts in a value, and the place after it.  Most breaks count as LF. -/
def readBreak (cursor : Cursor) : List Char × Cursor :=
  match cursor.rest with
  | '\r' :: '\n' :: _ => (['\n'], cursor.nextLine 2)
  | c :: _ =>
    if c == '\u2028' || c == '\u2029' then ([c], cursor.nextLine 1)
    else if isBreak c then (['\n'], cursor.nextLine 1)
    else ([], cursor)
  | [] => ([], cursor)

def skipBreak (cursor : Cursor) : Cursor :=
  cursor.readBreak.2

/-- The characters of the line in `p` that come next, and the place after them. -/
def takeWhile (p : Char → Bool) (cursor : Cursor) : List Char × Cursor :=
  let run := cursor.rest.takeWhile p
  (run, cursor.advance run.length)

def skipWhile (p : Char → Bool) (cursor : Cursor) : Cursor :=
  (cursor.takeWhile p).2

/-- Past a comment, if one starts here, to the end of its line. -/
def skipComment (cursor : Cursor) : Cursor :=
  if cursor.char? == some '#' then cursor.skipWhile (!isBreak ·) else cursor

/-- Past the blanks and the comment that may end a line, which must end there. -/
def endLine? (cursor : Cursor) : Option Cursor :=
  let cursor := (cursor.skipWhile isSpaceOrTab).skipComment
  if cursor.char?.all isBreak then some cursor.skipBreak else none

/-- Whether the three characters start a line and stand alone. -/
def isMarker (cursor : Cursor) (marker : List Char) : Bool :=
  cursor.column == 0 && marker.isPrefixOf cursor.rest && isWordEnd (cursor.charAt? 3)

def atDocumentStart (cursor : Cursor) : Bool :=
  cursor.isMarker ['-', '-', '-']

def atDocumentEnd (cursor : Cursor) : Bool :=
  cursor.isMarker ['.', '.', '.']

/-- Whether a document starts or ends here. -/
def atMarker (cursor : Cursor) : Bool :=
  cursor.atDocumentStart || cursor.atDocumentEnd

end Cursor

end GatewayCompiler.Yaml
