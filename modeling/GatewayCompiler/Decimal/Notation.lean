import GatewayCompiler.Decimal.Shortest

/-!
# Written doubles

A double is written in positional form when its leading digit stands between 10⁻⁵ and 10¹⁵, with
`.0` when it is whole; any other is written with one digit before the point and a signed exponent
of two digits or more.
-/

namespace GatewayCompiler.Decimal

/-- Where positional form is used and how an exponent is written. -/
structure Layout where
  leastPositional : Int
  greatestPositional : Int
  exponentDigits : Nat

def numberLayout : Layout := ⟨-5, 15, 2⟩

def zeros (n : Nat) : List Char :=
  List.replicate n '0'

/-- The digits without zeros at the end. -/
def significantDigits (n : Nat) : List Char :=
  ((Nat.toDigits 10 n).reverse.dropWhile (· == '0')).reverse

/-- `digits` with the first of them at `10 ^ lead`. -/
def positional (digits : List Char) (lead : Int) : List Char :=
  if lead < 0 then '0' :: '.' :: (zeros ((-lead).toNat - 1) ++ digits)
  else
    let whole := lead.toNat + 1
    if digits.length ≤ whole then digits ++ zeros (whole - digits.length) ++ ['.', '0']
    else digits.take whole ++ '.' :: digits.drop whole

/-- `digits` with the first of them before the point. -/
def scientific (layout : Layout) (digits : List Char) (lead : Int) : List Char :=
  let exponent := Nat.toDigits 10 lead.natAbs
  let fraction := match digits.drop 1 with
    | [] => []
    | ds => '.' :: ds
  digits.take 1 ++ fraction ++ 'e' :: (if lead < 0 then '-' else '+') ::
    (zeros (layout.exponentDigits - exponent.length) ++ exponent)

def magnitudeChars (layout : Layout) (x : Binary64) : List Char :=
  if x.mantissa = 0 then ['0', '.', '0'] else
    let d := x.shortest
    let digits := significantDigits d.digits
    let lead := d.exponent + (Nat.toDigits 10 d.digits).length - 1
    if layout.leastPositional ≤ lead ∧ lead ≤ layout.greatestPositional then positional digits lead
    else scientific layout digits lead

/-- The text of a finite double. -/
def Binary64.text (x : Binary64) : String :=
  String.ofList ((if x.negative then ['-'] else []) ++ magnitudeChars numberLayout x)

end GatewayCompiler.Decimal
