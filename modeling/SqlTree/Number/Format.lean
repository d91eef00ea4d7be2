/-
This file describes binary floating-point formats by their two field widths
and rounds a ratio of natural numbers to the nearest number of a format, a
half going to the even neighbour. Everything is exact arithmetic on `Nat`.

A nonnegative number of a format is its *code*: the exponent field followed by
the fraction field. Codes are ordered as the numbers are, and the code after
the largest finite one is infinity.
-/

namespace SqlTree.Number

/-- Divides and rounds to the nearest integer, a half going to the even one. -/
def roundHalfEven (numerator denominator : Nat) : Nat :=
  let quotient := numerator / denominator
  let twice := 2 * (numerator % denominator)
  if twice < denominator then quotient
  else if denominator < twice then quotient + 1
  else quotient + quotient % 2

/-- A format by the widths of its two fields; the sign has a bit of its own. -/
structure BinaryFormat where
  fractionWidth : Nat
  exponentWidth : Nat

namespace BinaryFormat

/-- Eight bytes: 52 bits of fraction and 11 of exponent. -/
def double : BinaryFormat := ⟨52, 11⟩

/-- Four bytes: 23 bits of fraction and 8 of exponent. -/
def single : BinaryFormat := ⟨23, 8⟩

variable (format : BinaryFormat)

/-- The number of fractions: one more than the largest fraction field. -/
def fractionUnit : Nat :=
  Nat.pow 2 format.fractionWidth

/-- The exponent of the last place of the smallest numbers. -/
def leastExponent : Int :=
  2 - (Nat.pow 2 (format.exponentWidth - 1) : Nat) - format.fractionWidth

/-- The code of infinity; larger codes are not numbers. -/
def infinity : Nat :=
  (Nat.pow 2 format.exponentWidth - 1) * format.fractionUnit

/-- The bit that separates the sign from the code. -/
def signBit : Nat :=
  Nat.pow 2 (format.exponentWidth + format.fractionWidth)

/-- The bit of the fraction that quiet not-a-number codes have set. -/
def quietBit : Nat :=
  Nat.pow 2 (format.fractionWidth - 1)

/-- The integer `m` of the value `m * 2 ^ q` of a finite code. -/
def significand (code : Nat) : Nat :=
  if code < format.fractionUnit then code
  else format.fractionUnit + code % format.fractionUnit

/-- The exponent `q` of the value `m * 2 ^ q` of a finite code. -/
def exponent (code : Nat) : Int :=
  format.leastExponent + (code / format.fractionUnit - 1 : Nat)

/-- The ratio scaled by `2 ^ (-exponent)`. -/
def scaled (numerator denominator : Nat) (exponent : Int) : Nat × Nat :=
  (numerator * Nat.pow 2 (-exponent).toNat, denominator * Nat.pow 2 exponent.toNat)

/-- The exponent of the last place of the numbers around a positive ratio. -/
def lastPlace (numerator denominator : Nat) : Int :=
  let magnitude : Int := (Nat.log2 numerator : Int) - Nat.log2 denominator
  let lower := max format.leastExponent (magnitude - 1 - format.fractionWidth)
  let (numerator, denominator) := scaled numerator denominator lower
  if numerator / denominator < 2 * format.fractionUnit then lower else lower + 1

/-- The code nearest to a ratio; beyond the largest number that is infinity. -/
def nearest (numerator denominator : Nat) : Nat :=
  if numerator = 0 then 0
  else
    let place := format.lastPlace numerator denominator
    let (numerator, denominator) := scaled numerator denominator place
    min format.infinity
      ((place - format.leastExponent).toNat * format.fractionUnit
        + roundHalfEven numerator denominator)

/-- The value of a finite code as a ratio. -/
def ratio (code : Nat) : Nat × Nat :=
  scaled (format.significand code) 1 (-format.exponent code)

/-- The code of the same value in another format. A quiet not-a-number stays
one and keeps the upper bits of its fraction. -/
def convert (target : BinaryFormat) (code : Nat) : Nat :=
  if code < format.infinity then
    let (numerator, denominator) := format.ratio code
    target.nearest numerator denominator
  else if code = format.infinity then target.infinity
  else
    let fraction := (code - format.infinity) * target.fractionUnit / format.fractionUnit
    target.infinity + (fraction ||| target.quietBit)

end BinaryFormat

end SqlTree.Number
