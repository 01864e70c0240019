import GatewayCompiler.Text.Unprintable

/-!
# Quoted text in messages

A message that quotes a value shows it between double quotes.  Quotes, backslashes and the common
controls are written as two characters; any other character without a shape of its own is written
as its code point in hexadecimal.
-/

namespace GatewayCompiler.Text

/-- Lower-case hexadecimal digits, most significant first, with no leading zero. -/
def hexDigits (n : Nat) : List Char :=
  Nat.toDigits 16 n

/-- The characters that stand for `c` between the quotes. -/
def escapeChar (c : Char) : List Char :=
  match c with
  | '\x00' => ['\\', '0']
  | '\t' => ['\\', 't']
  | '\r' => ['\\', 'r']
  | '\n' => ['\\', 'n']
  | '\x22' => ['\\', '\x22']
  | '\\' => ['\\', '\\']
  | c => if isUnprintable c then ['\\', 'u', '\x7b'] ++ hexDigits c.toNat ++ ['\x7d'] else [c]

/-- The text between double quotes. -/
def quoted (s : String) : String :=
  String.ofList ('\x22' :: s.toList.flatMap escapeChar ++ ['\x22'])

end GatewayCompiler.Text
