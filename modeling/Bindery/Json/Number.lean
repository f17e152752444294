import Bindery.Decimal.Numeral
import Bindery.Decimal.Shortest

/-!
# Numbers in JSON texts

A number without point and exponent that fits 64 bits, signed or unsigned, is
kept as that integer. Every other number is a 64-bit floating-point number: the
digits are taken as long as they fit 64 bits, and the power of ten is applied by
one multiplication or division.
-/

namespace Bindery.Json

open Bindery.Decimal

/-- A number as a value holds it. -/
inductive Number where
  /-- An integer from `-2 ^ 63` to `2 ^ 64 - 1`. -/
  | integer (n : Int)
  /-- A floating-point number by sign and magnitude. -/
  | real (negative : Bool) (magnitude : Binary64)
deriving Repr, DecidableEq

/-- The parts of a written number. -/
structure Spelling where
  negative : Bool
  whole : List Char
  /-- The digits after the point, if there is one. -/
  fraction : Option (List Char)
  /-- Sign and digits of the exponent, if there is one. -/
  exponent : Option (Bool × List Char)
deriving Repr, DecidableEq

/-- The largest value that the digits of a floating-point number are collected in. -/
def significandLimit : Nat := Nat.pow 2 64 - 1

/-- Appends digits to a number while it stays within the limit; the digits left over come back. -/
def takeDigits (n : Nat) : List Char → Nat × List Char
  | [] => (n, [])
  | c :: rest =>
    let next := 10 * n + digitValue c
    if next ≤ significandLimit then takeDigits next rest else (n, c :: rest)

/-- Ten to the power of `exponent` times the number; none if that is beyond the finite numbers. -/
def scale? (x : Binary64) (exponent : Int) : Option Binary64 :=
  if x = Binary64.zero then some x
  else if 0 ≤ exponent then
    if exponent ≤ 308 then do x.mul? (← Binary64.tenPow? exponent.toNat) else none
  else do
    let step ← Binary64.tenPow? 308
    if -308 ≤ exponent then x.div? (← Binary64.tenPow? (-exponent).toNat)
    else if -616 ≤ exponent then
      (← x.div? step).div? (← Binary64.tenPow? (-exponent - 308).toNat)
    else some Binary64.zero

/-- The magnitude that a spelling denotes as a floating-point number. -/
def Spelling.magnitude? (s : Spelling) : Option Binary64 := do
  let (n, dropped) := takeDigits 0 s.whole
  let fraction := s.fraction.getD []
  let (significand, unused) := takeDigits n fraction
  let written : Int :=
    match s.exponent with
    | none => 0
    | some (false, digits) => valueOf digits
    | some (true, digits) => -(valueOf digits : Int)
  let exponent : Int := dropped.length - (fraction.length - unused.length : Nat) + written
  scale? (← Binary64.round? significand 1) exponent

/-- The number that a spelling denotes; none beyond the finite floating-point numbers. -/
def Spelling.number? (s : Spelling) : Option Number :=
  let n := valueOf s.whole
  let whole := s.fraction.isNone && s.exponent.isNone
  if whole && !s.negative && decide (n ≤ significandLimit) then some (.integer n)
  else if whole && s.negative && decide (0 < n ∧ n ≤ wordLimit) then some (.integer (-n))
  else s.magnitude?.map (.real s.negative)

/-- Positional notation is used while the point stands at most this many digits to the right. -/
def widestPositional : Int := 16

/-- Positional notation is used while fewer than this many zeros follow the point. -/
def deepestPositional : Int := -5

/-- A positive decimal: positional in the usual range, else one digit, a point and an exponent
with its sign. A positional number always shows a point and a digit after it. -/
def scientificText (x : Scientific) : List Char :=
  let digits := Nat.toDigits 10 x.digits
  let point : Int := digits.length + x.exponent
  if 0 < point ∧ point ≤ widestPositional then
    if (digits.length : Int) ≤ point then
      digits ++ List.replicate (point.toNat - digits.length) '0' ++ ['.', '0']
    else digits.take point.toNat ++ '.' :: digits.drop point.toNat
  else if deepestPositional < point ∧ point ≤ 0 then
    ['0', '.'] ++ List.replicate (-point).toNat '0' ++ digits
  else
    let exponent := point - 1
    let sign := if exponent < 0 then '-' else '+'
    let tail := digits.drop 1
    digits.take 1 ++ (if tail.isEmpty then [] else '.' :: tail) ++
      ['e', sign] ++ Nat.toDigits 10 exponent.natAbs

def Number.text : Number → String
  | .integer n => toString n
  | .real negative magnitude =>
    let body :=
      if magnitude.mantissa = 0 then ['0', '.', '0'] else scientificText magnitude.shortest
    String.ofList (if negative then '-' :: body else body)

end Bindery.Json
