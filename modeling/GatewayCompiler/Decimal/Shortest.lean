import GatewayCompiler.Decimal.Binary64

/-!
# The shortest decimal of a double

A double is shown with the fewest digits that read back as it.  Of the decimals with that many
digits the nearest is taken.  The search is exact: a decimal reads back as the double when it lies
between the midpoints to the neighbours, the midpoints included when the mantissa is even.
-/

namespace GatewayCompiler.Decimal

/-- `digits * 10 ^ exponent`. -/
structure Numeral where
  digits : Nat
  exponent : Int
  deriving DecidableEq, Repr

namespace Binary64

/-- Compares `a * 10 ^ k` with `b * 2 ^ q`. -/
def compareScaled (a : Nat) (k : Int) (b : Nat) (q : Int) : Ordering :=
  let ten := powerFraction 10 k
  let two := powerFraction 2 q
  compare (a * ten.1 * two.2) (b * two.1 * ten.2)

/-- The lower midpoint, in quarters of the last place.  Below a power of two the neighbour is half
as far away. -/
def lowerQuarters (x : Binary64) : Nat :=
  if x.mantissa = leastFullMantissa ∧ leastExponent < x.exponent then 4 * x.mantissa - 1
  else 4 * x.mantissa - 2

def upperQuarters (x : Binary64) : Nat :=
  4 * x.mantissa + 2

/-- Whether `digits * 10 ^ k` reads back as the magnitude of `x`. -/
def readsBack (x : Binary64) (digits : Nat) (k : Int) : Bool :=
  let low := compareScaled digits k x.lowerQuarters (x.exponent - 2)
  let high := compareScaled digits k x.upperQuarters (x.exponent - 2)
  if x.mantissa % 2 = 0 then low != .lt && high != .gt else low == .gt && high == .lt

/-- The exponent of the leading decimal digit of a fraction. -/
def leadingExponent (num den : Nat) : Int :=
  if den ≤ num then ((Nat.toDigits 10 (num / den)).length : Int) - 1
  else
    let reciprocal := (den + num - 1) / num
    Int.negOfNat (Nat.toDigits 10 (reciprocal - 1)).length

/-- Of two neighbours on the grid `10 ^ k` the one that reads back, the nearer if both do. -/
def onGrid? (x : Binary64) (num den : Nat) (k : Int) : Option Numeral :=
  let grid := powerFraction 10 k
  let scaledNum := num * grid.2
  let scaledDen := den * grid.1
  let below := scaledNum / scaledDen
  let rest := scaledNum % scaledDen
  let lowOk := below ≠ 0 ∧ x.readsBack below k
  let highOk := x.readsBack (below + 1) k
  if lowOk ∧ highOk then
    let up := scaledDen < 2 * rest ∨ (scaledDen = 2 * rest ∧ below % 2 = 1)
    some ⟨if up then below + 1 else below, k⟩
  else if lowOk then some ⟨below, k⟩
  else if highOk then some ⟨below + 1, k⟩
  else none

/-- The decimal of a magnitude other than zero: seventeen digits always suffice. -/
def shortest (x : Binary64) : Numeral :=
  let two := powerFraction 2 x.exponent
  let num := x.mantissa * two.1
  let lead := leadingExponent num two.2
  ((List.range 17).findSome? fun (n : Nat) => x.onGrid? num two.2 (lead - n)).getD ⟨0, 0⟩

end Binary64

end GatewayCompiler.Decimal
