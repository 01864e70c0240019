import GatewayCompiler.Yaml.Gap

/-!
# Plain scalars

A plain scalar has no quotes.  It ends at a colon before a blank, at a comment, at a marker of a
document, at a line that is not indented enough, and in a flow collection at a comma or bracket.
-/

namespace GatewayCompiler.Yaml

structure PlainScalar where
  text : List Char
  /-- Whether line breaks follow, so that a key may start next. -/
  endsLine : Bool
  deriving DecidableEq, Repr

namespace PlainScalar

def isFlowIndicator (c : Char) : Bool :=
  c == ',' || c == '[' || c == ']' || c == '\x7b' || c == '\x7d'

/-- The number of characters of the word that starts here.  In a flow collection a colon before an
indicator is refused. -/
def wordLength? (inFlow : Bool) : List Char → Option Nat
  | [] => some 0
  | c :: rest =>
    if isSpaceOrTab c || isBreak c then some 0
    else if inFlow && c == ':' && rest.head?.any (fun d => d == '?' || isFlowIndicator d) then none
    else if (c == ':' && isWordEnd rest.head?) || (inFlow && isFlowIndicator c) then some 0
    else (wordLength? inFlow rest).map (· + 1)

/-- The scalar that goes on here after `text` and a gap.  The text is kept in reverse.  A line of a
block collection has to be indented to column `margin`. -/
def read (inFlow : Bool) (margin : Nat) :
    Nat → List Char → Gap → Cursor → Option (PlainScalar × Cursor)
  | 0, _, _, _ => none
  | fuel + 1, text, gap, cursor =>
    if cursor.atMarker || cursor.char? == some '#' then some (⟨text.reverse, gap.broken⟩, cursor)
    else do
      let length ← wordLength? inFlow cursor.rest
      if length = 0 then
        return (⟨text.reverse, gap.broken⟩, cursor)
      let text := (gap.text ++ cursor.rest.take length).reverse ++ text
      let (gap, next) ← Gap.read margin cursor.left Gap.none (cursor.advance length)
      if gap = Gap.none || (!inFlow && next.column < margin) then
        return (⟨text.reverse, gap.broken⟩, next)
      read inFlow margin fuel text gap next

end PlainScalar

end GatewayCompiler.Yaml
