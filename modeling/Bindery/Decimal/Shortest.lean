import Bindery.Decimal.Binary64

/-!
# The fewest digits that read back

A positive floating-point number is written with the fewest decimal digits that
lie closer to it than to any other such number, and of those with the nearest.
The search walks the decimal grids from coarse to fine and looks at the number's
two neighbours on each.
-/

namespace Bindery.Decimal

/-- The decimal number `digits * 10 ^ exponent`. -/
structure Scientific where
  digits : Nat
  exponent : Int
deriving Repr, DecidableEq

/-- Trailing zeros move into the exponent; `fuel` bounds their number. -/
def Scientific.stripped (x : Scientific) : Nat → Scientific
  | 0 => x
  | fuel + 1 =>
    if x.digits % 10 = 0 ∧ x.digits ≠ 0 then
      Scientific.stripped ⟨x.digits / 10, x.exponent + 1⟩ fuel
    else x

namespace Binary64

/-- How many decimal digits stand before the point: the number is below ten to this power
and not below the next smaller one. -/
def pointPosition (x : Binary64) : Int :=
  let (num, den) := x.ratio
  if den ≤ num then (Nat.toDigits 10 (num / den)).length
  else 1 - (Nat.toDigits 10 ((den - 1) / num)).length

/-- The nearest grid point `d * 10 ^ k` that reads back as the number, if there is one. -/
def gridPoint? (x : Binary64) (k : Int) : Option Nat :=
  let e := x.exponent - 2
  let unit := Nat.pow 2 e.toNat * Nat.pow 10 (-k).toNat
  let grid := Nat.pow 10 k.toNat * Nat.pow 2 (-e).toNat
  let value := 4 * x.mantissa * unit
  let low := (4 * x.mantissa - if x.closeBelow then 1 else 2) * unit
  let high := (4 * x.mantissa + 2) * unit
  let even := x.mantissa % 2 = 0
  let readsBack (d : Nat) : Bool :=
    let place := d * grid
    (low < place ∨ (low = place ∧ even)) ∧ (place < high ∨ (place = high ∧ even))
  let below := value / grid
  let above := below + 1
  match readsBack below, readsBack above with
  | true, true =>
    let toBelow := value - below * grid
    let toAbove := above * grid - value
    if toBelow < toAbove ∨ (toBelow = toAbove ∧ below % 2 = 0) then some below else some above
  | true, false => some below
  | false, true => some above
  | false, false => none

/-- The shortest decimal that reads back as the positive number. Seventeen digits always do. -/
def shortest (x : Binary64) : Scientific :=
  let point := x.pointPosition
  let found := (List.range 17).findSome? fun i =>
    let k := point - (i + 1 : Nat)
    (x.gridPoint? k).map fun d => Scientific.mk d k
  match found with
  | some s => s.stripped 17
  | none => ⟨x.mantissa, 0⟩

end Binary64

end Bindery.Decimal
