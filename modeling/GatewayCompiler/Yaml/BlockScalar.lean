import GatewayCompiler.Yaml.Cursor

/-!
# Block scalars

The lines of a block scalar are indented; a literal one keeps its line breaks, a folded one joins
lines of text by spaces.  The header says how the line breaks at the end count, and may give the
indent; otherwise the first line of text gives it.
-/

namespace GatewayCompiler.Yaml.BlockScalar

/-- What becomes of the line breaks at the end. -/
inductive Chomping where
  | strip
  | clip
  | keep
  deriving DecidableEq, Repr

structure Header where
  chomping : Chomping
  indent : Option Nat
  deriving DecidableEq, Repr

def chomping? : Option Char → Option Chomping
  | some '+' => some .keep
  | some '-' => some .strip
  | _ => none

/-- A digit that gives an indent; zero is no indent. -/
def readIndent (cursor : Cursor) : Option (Option Nat × Cursor) :=
  match cursor.char? with
  | some c =>
    if c = '0' then none
    else if c.isDigit then some (some (c.toNat - 48), cursor.advance 1)
    else some (none, cursor)
  | none => some (none, cursor)

/-- The chomping and the indent, in either order. -/
def readHeader (cursor : Cursor) : Option (Header × Cursor) := do
  match chomping? cursor.char? with
  | some chomping =>
    let (indent, cursor) ← readIndent (cursor.advance 1)
    return (⟨chomping, indent⟩, cursor)
  | none =>
    let (indent, cursor) ← readIndent cursor
    match indent, chomping? cursor.char? with
    | some _, some chomping => return (⟨chomping, indent⟩, cursor.advance 1)
    | _, _ => return (⟨.clip, indent⟩, cursor)

/-- Past the spaces of an indent; without one, past all spaces. -/
def skipIndent (indent : Option Nat) (cursor : Cursor) : Cursor :=
  let spaces := (cursor.rest.takeWhile (· == ' ')).length
  cursor.advance (match indent with
    | some n => min spaces (n - cursor.column)
    | none => spaces)

/-- The line breaks of the empty lines from here on, and the greatest column reached.  A tab where an
indent is expected is refused. -/
def readBreaks (indent : Option Nat) :
    Nat → List Char → Nat → Cursor → Option (List Char × Nat × Cursor)
  | 0, breaks, greatest, cursor => some (breaks, greatest, cursor)
  | fuel + 1, breaks, greatest, cursor =>
    let cursor := skipIndent indent cursor
    let greatest := max greatest cursor.column
    if indent.all (cursor.column < ·) && cursor.char? == some '\t' then none
    else if cursor.char?.any isBreak then
      let (text, next) := cursor.readBreak
      readBreaks indent fuel (breaks ++ text) greatest next
    else some (breaks, greatest, cursor)

/-- What has been read of a block scalar, and what is not decided yet. -/
structure Progress where
  /-- The text before the last line break, in reverse. -/
  reversed : List Char
  /-- The break at the end of the last line. -/
  lastBreak : List Char
  /-- The breaks of the empty lines after it. -/
  moreBreaks : List Char
  /-- Whether the last line starts with a blank. -/
  afterBlank : Bool
  deriving DecidableEq, Repr

/-- How the last line and the next one are joined. -/
def Progress.joint (progress : Progress) (isLiteral startsBlank : Bool) : List Char :=
  if !isLiteral && progress.lastBreak = ['\n'] && !progress.afterBlank && !startsBlank then
    if progress.moreBreaks = [] then [' '] else progress.moreBreaks
  else progress.lastBreak ++ progress.moreBreaks

/-- The lines at this indent from here on. -/
def readLines (isLiteral : Bool) (indent : Nat) :
    Nat → Progress → Cursor → Option (Progress × Cursor)
  | 0, progress, cursor => some (progress, cursor)
  | fuel + 1, progress, cursor =>
    if cursor.column = indent && cursor.char?.isSome then do
      let startsBlank := cursor.char?.any isSpaceOrTab
      let (line, atEnd) := cursor.takeWhile (!isBreak ·)
      let (lastBreak, next) := atEnd.readBreak
      let (moreBreaks, _, next) ← readBreaks (some indent) next.left [] 0 next
      let reversed := (progress.joint isLiteral startsBlank ++ line).reverse ++ progress.reversed
      readLines isLiteral indent fuel ⟨reversed, lastBreak, moreBreaks, startsBlank⟩ next
    else some (progress, cursor)

def Progress.text (progress : Progress) : List Char :=
  progress.reversed.reverse

/-- The value with the line breaks at its end that count. -/
def Progress.chomp (progress : Progress) : Chomping → List Char
  | .strip => progress.text
  | .clip => progress.text ++ progress.lastBreak
  | .keep => progress.text ++ progress.lastBreak ++ progress.moreBreaks

/-- The scalar after its indicator.  Its lines are indented at least to column `margin`; an indent in
the header counts from the column before. -/
def read (isLiteral : Bool) (margin : Nat) (cursor : Cursor) : Option (List Char × Cursor) := do
  let (header, cursor) ← readHeader cursor
  let cursor ← cursor.endLine?
  let given := header.indent.map (margin - 1 + ·)
  let (breaks, greatest, cursor) ← readBreaks given (cursor.left + 1) [] 0 cursor
  let indent := given.getD (max (max greatest margin) 1)
  let (progress, cursor) ←
    readLines isLiteral indent (cursor.left + 1) ⟨[], [], breaks, false⟩ cursor
  return (progress.chomp header.chomping, cursor)

end GatewayCompiler.Yaml.BlockScalar
