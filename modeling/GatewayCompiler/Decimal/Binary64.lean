/-!
# Double-precision numbers

A finite double is a sign and `mantissa * 2 ^ exponent`.  Decimals are read to the nearest double,
a tie going to the even mantissa, in exact integer arithmetic.
-/

namespace GatewayCompiler.Decimal

/-- A finite double.  Its mantissa has 53 bits, or the exponent is the least one. -/
structure Binary64 where
  negative : Bool
  mantissa : Nat
  exponent : Int
  deriving DecidableEq, Repr, Inhabited

namespace Binary64

def leastExponent : Int := -1074

def greatestExponent : Int := 971

/-- The least mantissa of 53 bits. -/
def leastFullMantissa : Nat := 0x10000000000000

/-- `base ^ exponent` as a fraction. -/
def powerFraction (base : Nat) (exponent : Int) : Nat × Nat :=
  (Nat.pow base exponent.toNat, Nat.pow base (-exponent).toNat)

/-- The quotient rounded to the nearest integer, a tie going to the even one. -/
def roundDiv (num den : Nat) : Nat :=
  let q := num / den
  let r := num % den
  if 2 * r < den then q else if den < 2 * r then q + 1 else q + q % 2

def zero (negative : Bool) : Binary64 :=
  ⟨negative, 0, leastExponent⟩

/-- The exponent at which the fraction has a mantissa of 53 bits, but never below the least. -/
def exponentFor (num den : Nat) : Int :=
  let guess : Int := (Nat.log2 num : Int) - (Nat.log2 den : Int) - 52
  let unit := powerFraction 2 guess
  let exact := if num * unit.2 / (den * unit.1) < leastFullMantissa then guess - 1 else guess
  max exact leastExponent

/-- The double nearest to `num / den`, or `none` when it is out of range. -/
def ofFraction? (negative : Bool) (num den : Nat) : Option Binary64 :=
  if num = 0 then some (zero negative) else
    let exponent := exponentFor num den
    let unit := powerFraction 2 exponent
    let mantissa := roundDiv (num * unit.2) (den * unit.1)
    let rounded : Binary64 :=
      if mantissa < 2 * leastFullMantissa then ⟨negative, mantissa, exponent⟩
      else ⟨negative, mantissa / 2, exponent + 1⟩
    if greatestExponent < rounded.exponent then none else some rounded

/-- The double nearest to `digits * 10 ^ exponent`, or `none` when it is out of range.  A number
with that many digits and so large an exponent is out of range, or nothing, before any power is
taken. -/
def ofDecimal? (negative : Bool) (digits : Nat) (exponent : Int) : Option Binary64 :=
  if digits = 0 then some (zero negative) else
    let magnitude : Int := (Nat.log2 digits : Int) * 3 / 10 + exponent
    if 400 < magnitude then none
    else if magnitude < -400 - (Nat.log2 digits : Int) then some (zero negative)
    else
      let scale := powerFraction 10 exponent
      ofFraction? negative (digits * scale.1) scale.2

/-- The double nearest to an integer. -/
def ofInt? (n : Int) : Option Binary64 :=
  ofFraction? (n < 0) n.natAbs 1

end Binary64

end GatewayCompiler.Decimal
