/-
This file finds the shortest decimal that reads back as a given binary number.
The reals that round to the number `m * 2 ^ q` form an interval around it. On
each grid of multiples of a power of ten, coarsest first, the two neighbours
of the number are tried, and the first grid with one of them in the interval
wins: of two hits the nearer, and an exact tie as the caller asks.
-/

import SqlTree.Number.Decimal
import SqlTree.Number.Format

namespace SqlTree.Number

/-- Which of two equally near decimals is taken. -/
inductive Tie where
  /-- The one with an even last digit. -/
  | toEven
  /-- The larger one. -/
  | up
  deriving DecidableEq

/-- A positive number with the interval of the reals that round to it, all
three as numerators over one denominator. -/
structure RoundingInterval where
  value : Nat
  low : Nat
  high : Nat
  denominator : Nat
  /-- Whether the two ends round to the number as well. -/
  closed : Bool

namespace RoundingInterval

/-- The interval of a finite positive code. Below a power of two the
neighbouring numbers are half as far apart. -/
def ofCode (format : BinaryFormat) (code : Nat) : RoundingInterval :=
  let significand := format.significand code
  let exponent := format.exponent code
  let below :=
    if significand = format.fractionUnit ∧ format.leastExponent < exponent then 1 else 2
  let unit := Nat.pow 2 (exponent - 2).toNat
  { value := 4 * significand * unit
    low := (4 * significand - below) * unit
    high := (4 * significand + 2) * unit
    denominator := Nat.pow 2 (2 - exponent).toNat
    closed := significand % 2 = 0 }

variable (interval : RoundingInterval)

/-- Whether `point` over the denominator rounds to the number. -/
def contains (point : Nat) : Bool :=
  if interval.closed then interval.low ≤ point ∧ point ≤ interval.high
  else interval.low < point ∧ point < interval.high

/-- The interval with its unit changed to `10 ^ exponent`. -/
def inUnitsOf (exponent : Int) : RoundingInterval :=
  let up := Nat.pow 10 (-exponent).toNat
  { value := interval.value * up
    low := interval.low * up
    high := interval.high * up
    denominator := interval.denominator * Nat.pow 10 exponent.toNat
    closed := interval.closed }

/-- The integer next to the value that lies in the interval, if one does. -/
def integer? (tie : Tie) : Option Nat :=
  let lower := interval.value / interval.denominator
  let twice := 2 * (interval.value % interval.denominator)
  match interval.contains (lower * interval.denominator),
      interval.contains ((lower + 1) * interval.denominator) with
  | true, true =>
    if twice < interval.denominator then some lower
    else if interval.denominator < twice then some (lower + 1)
    else if tie = .toEven ∧ lower % 2 = 0 then some lower
    else some (lower + 1)
  | true, false => some lower
  | false, true => some (lower + 1)
  | false, false => none

/-- A power of ten that is larger than the value, by less than a hundred. -/
def coarsest : Int :=
  let magnitude : Int := (Nat.log2 interval.value : Int) - Nat.log2 interval.denominator
  (magnitude + 1) * 30103 / 100000 + 1

/-- The shortest decimal in the interval. Twenty grids reach past the
seventeenth digit, where every number of eight bytes has a hit. -/
def shortest (tie : Tie) : Decimal :=
  let hit := (List.range 20).findSome? fun (step : Nat) =>
    let exponent := interval.coarsest - step
    ((interval.inUnitsOf exponent).integer? tie).map (Decimal.mk · exponent)
  (hit.getD ⟨0, 0⟩).normalized

end RoundingInterval

end SqlTree.Number
