/-!
# Binary floating point with 53 bits

Magnitudes of the common 64-bit floating-point format as exact integers, with
the three operations that reading a decimal needs: rounding a ratio to the
nearest such number, product and quotient. Ties go to the even mantissa.
-/

namespace Bindery.Decimal

/-- The number `mantissa * 2 ^ exponent`. -/
structure Binary64 where
  mantissa : Nat
  exponent : Int
deriving Repr, DecidableEq

namespace Binary64

/-- The exponent of the smallest positive number. -/
def leastExponent : Int := -1074

/-- The exponent of the largest finite numbers. -/
def greatestExponent : Int := 971

/-- Mantissas stay below this. -/
def mantissaLimit : Nat := Nat.pow 2 53

/-- The number zero. -/
def zero : Binary64 := ⟨0, leastExponent⟩

/-- The number as a ratio of integers. -/
def ratio (x : Binary64) : Nat × Nat :=
  (x.mantissa * Nat.pow 2 x.exponent.toNat, Nat.pow 2 (-x.exponent).toNat)

/-- The quotient of two integers as the nearest integer, an exact half going to the even one. -/
def roundDiv (num den : Nat) : Nat :=
  let whole := num / den
  let twice := 2 * (num % den)
  if den < twice ∨ (twice = den ∧ whole % 2 = 1) then whole + 1 else whole

/-- The largest integer whose power of two is at most `num / den`. -/
def floorLog2 (num den : Nat) : Int :=
  let guess : Int := (Nat.log2 num : Int) - (Nat.log2 den : Int)
  if den * Nat.pow 2 guess.toNat ≤ num * Nat.pow 2 (-guess).toNat then guess else guess - 1

/-- The number nearest to `num / den`; none if that is beyond the finite numbers. -/
def round? (num den : Nat) : Option Binary64 :=
  if num = 0 then some zero
  else
    let exponent := max leastExponent (floorLog2 num den - 52)
    let mantissa :=
      roundDiv (num * Nat.pow 2 (-exponent).toNat) (den * Nat.pow 2 exponent.toNat)
    let x : Binary64 :=
      if mantissa < mantissaLimit then ⟨mantissa, exponent⟩ else ⟨mantissa / 2, exponent + 1⟩
    if x.exponent ≤ greatestExponent then some x else none

/-- The nearest number to the product. -/
def mul? (x y : Binary64) : Option Binary64 :=
  round? (x.ratio.1 * y.ratio.1) (x.ratio.2 * y.ratio.2)

/-- The nearest number to the quotient. -/
def div? (x y : Binary64) : Option Binary64 :=
  round? (x.ratio.1 * y.ratio.2) (x.ratio.2 * y.ratio.1)

/-- The nearest number to a power of ten. -/
def tenPow? (k : Nat) : Option Binary64 := round? (Nat.pow 10 k) 1

/-- Neighbours below are half as far away where the exponent changes. -/
def closeBelow (x : Binary64) : Bool :=
  2 * x.mantissa == mantissaLimit && decide (leastExponent < x.exponent)

end Binary64

end Bindery.Decimal
