/-
This file holds decimal numbers, a natural coefficient times a power of ten,
and the two ways of writing them: positional, with as many zeros as it takes,
and scientific, with one digit before the point.
-/

namespace SqlTree.Number

/-- A coefficient and the power of ten that it is multiplied by. -/
structure Decimal where
  coefficient : Nat
  exponent : Int
  deriving DecidableEq

namespace Decimal

/-- The digits of the coefficient, most significant first. -/
def digits (decimal : Decimal) : List Char :=
  Nat.toDigits 10 decimal.coefficient

/-- The exponent of the first digit: `d.ddd * 10 ^ magnitude`. -/
def magnitude (decimal : Decimal) : Int :=
  decimal.exponent + (decimal.digits.length - 1 : Nat)

/-- Moves trailing zeros of the coefficient into the exponent, `steps` at most. -/
def trim (decimal : Decimal) : Nat → Decimal
  | 0 => decimal
  | steps + 1 =>
    if decimal.coefficient ≠ 0 ∧ decimal.coefficient % 10 = 0 then
      trim ⟨decimal.coefficient / 10, decimal.exponent + 1⟩ steps
    else decimal

/-- The same number with no zero at the end of its coefficient. -/
def normalized (decimal : Decimal) : Decimal :=
  decimal.trim decimal.digits.length

/-- Every digit in its place, without an exponent: `1200`, `1.5`, `0.00012`. -/
def positional (decimal : Decimal) : List Char :=
  let digits := decimal.digits
  let places := (-decimal.exponent).toNat
  if places = 0 then digits ++ List.replicate decimal.exponent.toNat '0'
  else if places < digits.length then
    digits.take (digits.length - places) ++ '.' :: digits.drop (digits.length - places)
  else '0' :: '.' :: (List.replicate (places - digits.length) '0' ++ digits)

/-- One digit, the others after a point, and a signed exponent: `1e+16`, `1.5e-7`. -/
def scientific (decimal : Decimal) : List Char :=
  let fraction := decimal.digits.drop 1
  decimal.digits.take 1
    ++ (if fraction.isEmpty then [] else '.' :: fraction)
    ++ 'e' :: (if decimal.magnitude < 0 then '-' else '+')
      :: Nat.toDigits 10 decimal.magnitude.natAbs

end Decimal

end SqlTree.Number
