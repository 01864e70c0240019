/-!
# Unsigned decimal text

Settings and options give numbers as text: digits, perhaps after a plus sign.  Of a character that is
no digit and a number that is too large, the one met first is reported.
-/

namespace GatewayCompiler.Decimal

inductive UnsignedError where
  | empty
  | invalidDigit
  | tooLarge
  deriving DecidableEq, Repr

def UnsignedError.message : UnsignedError → String
  | .empty => "cannot parse integer from empty string"
  | .invalidDigit => "invalid digit found in string"
  | .tooLarge => "number too large to fit in target type"

/-- Reads digits onto `value` while the result is below `bound`. -/
def readDigits (bound : Nat) (value : Nat) : List Char → Except UnsignedError Nat
  | [] => .ok value
  | c :: rest =>
    if c.isDigit then
      let next := value * 10 + (c.toNat - 48)
      if next < bound then readDigits bound next rest else .error .tooLarge
    else .error .invalidDigit

/-- The number below `bound` that a text stands for. -/
def readUnsigned (bound : Nat) (text : String) : Except UnsignedError Nat :=
  match text.toList with
  | [] => .error .empty
  | ['+'] => .error .invalidDigit
  | '+' :: rest => readDigits bound 0 rest
  | cs => readDigits bound 0 cs

def readUInt64 (text : String) : Except UnsignedError UInt64 :=
  (readUnsigned UInt64.size text).map UInt64.ofNat

end GatewayCompiler.Decimal
