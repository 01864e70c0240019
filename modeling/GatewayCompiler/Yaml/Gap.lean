import GatewayCompiler.Yaml.Cursor

/-!
# Gaps between words

A value may run over several lines.  Blanks between two words of a line are kept; a single line break
counts as a space, and of several the first does not count.
-/

namespace GatewayCompiler.Yaml

/-- What stands between two words. -/
structure Gap where
  blanks : List Char
  broken : Bool
  firstBreak : List Char
  moreBreaks : List Char
  deriving DecidableEq, Repr

namespace Gap

def none : Gap := ⟨[], false, [], []⟩

/-- A gap that starts with a line break which does not count. -/
def escaped : Gap := ⟨[], true, [], []⟩

def addBlank (gap : Gap) (c : Char) : Gap :=
  if gap.broken then gap else { gap with blanks := gap.blanks ++ [c] }

def addBreak (gap : Gap) (text : List Char) : Gap :=
  if gap.broken then { gap with moreBreaks := gap.moreBreaks ++ text }
  else { gap with broken := true, firstBreak := text }

/-- What the gap counts as. -/
def text (gap : Gap) : List Char :=
  if gap.broken then
    if gap.firstBreak = ['\n'] then
      if gap.moreBreaks = [] then [' '] else gap.moreBreaks
    else gap.firstBreak ++ gap.moreBreaks
  else gap.blanks

/-- The gap from here on.  After a line break a tab to the left of column `margin` is refused. -/
def read (margin : Nat) : Nat → Gap → Cursor → Option (Gap × Cursor)
  | 0, gap, cursor => some (gap, cursor)
  | fuel + 1, gap, cursor =>
    match cursor.char? with
    | .none => some (gap, cursor)
    | some c =>
      if isSpaceOrTab c then
        if gap.broken && c == '\t' && cursor.column < margin then .none
        else read margin fuel (gap.addBlank c) (cursor.advance 1)
      else if isBreak c then
        let (text, next) := cursor.readBreak
        read margin fuel (gap.addBreak text) next
      else some (gap, cursor)

end Gap

end GatewayCompiler.Yaml
