import GatewayCompiler.Yaml.Gap

/-!
# Quoted scalars

In single quotes a quote is written twice and nothing else is special; in double quotes a backslash
starts an escape.  Line breaks are folded in both.
-/

namespace GatewayCompiler.Yaml.QuotedScalar

/-- The escapes of one character. -/
def simpleEscapes : List (Char × Char) :=
  [('0', '\x00'), ('a', '\x07'), ('b', '\x08'), ('t', '\t'), ('\t', '\t'), ('n', '\n'), ('v', '\x0b'),
    ('f', '\x0c'), ('r', '\r'), ('e', '\x1b'), (' ', ' '), ('\x22', '\x22'), ('/', '/'), ('\\', '\\'),
    ('N', '\u0085'), ('_', '\u00a0'), ('L', '\u2028'), ('P', '\u2029')]

/-- How many digits follow the letter of an escape by code. -/
def codeLength? : Char → Option Nat
  | 'x' => some 2
  | 'u' => some 4
  | 'U' => some 8
  | _ => none

def hexValue? (c : Char) : Option Nat :=
  if c.isDigit then some (c.toNat - 48)
  else if 'a' ≤ c && c ≤ 'f' then some (c.toNat - 87)
  else if 'A' ≤ c && c ≤ 'F' then some (c.toNat - 55)
  else none

/-- The number that `n` hexadecimal digits write. -/
def hexNumber? (n : Nat) (cs : List Char) : Option Nat := do
  let digits ← (cs.take n).mapM hexValue?
  if digits.length = n then some (digits.foldl (fun value d => value * 16 + d) 0) else none

/-- The character of an escape, and how many characters follow the backslash. -/
def escape? : List Char → Option (Char × Nat)
  | [] => none
  | letter :: rest =>
    match simpleEscapes.lookup letter with
    | some c => some (c, 1)
    | none => do
      let length ← codeLength? letter
      let code ← hexNumber? length rest
      if code.isValidChar then some (Char.ofNat code, length + 1) else none

/-- The scalar that goes on here after `text`, to its closing quote.  The text is kept in reverse. -/
def read (quote : Char) : Nat → List Char → Cursor → Option (List Char × Cursor)
  | 0, _, _ => none
  | fuel + 1, text, cursor =>
    if cursor.atMarker then none
    else
      let afterGap (gap : Gap) (start : Cursor) : Option (List Char × Cursor) := do
        let (gap, next) ← Gap.read 0 start.left gap start
        read quote fuel (gap.text.reverse ++ text) next
      match cursor.rest with
      | [] => none
      | c :: rest =>
        if isSpaceOrTab c || isBreak c then afterGap Gap.none cursor
        else if c = quote then
          if quote = '\x27' && rest.head? == some quote then
            read quote fuel (c :: text) (cursor.advance 2)
          else some (text.reverse, cursor.advance 1)
        else if c = '\\' && quote = '\x22' then
          if rest.head?.any isBreak then afterGap Gap.escaped (cursor.advance 1).skipBreak
          else do
            let (char, length) ← escape? rest
            read quote fuel (char :: text) (cursor.advance (length + 1))
        else read quote fuel (c :: text) (cursor.advance 1)

end GatewayCompiler.Yaml.QuotedScalar
