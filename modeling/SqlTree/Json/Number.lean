/-
This file reads JSON numbers. A number without a point or an exponent is an
integer if eight bytes hold it, signed or unsigned, and is not a negative zero.
Every other number becomes floating-point: its digits make a significand of
eight bytes, digits that no longer fit are dropped, and the significand is
scaled by one rounded power of ten.
-/

import SqlTree.Json.Basic

namespace SqlTree.Json

/-- A number in its written parts: digits before and after the point, and the
exponent with its sign. -/
structure Numeral where
  negative : Bool
  whole : List Nat
  fraction : Option (List Nat)
  exponent : Option (Bool × List Nat)

namespace Numeral

/-- The digit that a character is, if it is one. -/
def digit? (char : Char) : Option Nat :=
  if char.isDigit then some (char.toNat - '0'.toNat) else none

/-- The digits at the front and what follows them. -/
def takeDigits (chars : List Char) : List Nat × List Char :=
  ((chars.takeWhile Char.isDigit).filterMap digit?, chars.dropWhile Char.isDigit)

/-- The exponent part, which has at least one digit. -/
def exponent? : List Char → Option (Option (Bool × List Nat))
  | [] => some none
  | mark :: rest =>
    if mark = 'e' ∨ mark = 'E' then
      let (negative, rest) := match rest with
        | '-' :: rest => (true, rest)
        | '+' :: rest => (false, rest)
        | rest => (false, rest)
      match takeDigits rest with
      | ([], _) => none
      | (digits, []) => some (some (negative, digits))
      | _ => none
    else none

/-- Splits a number into its parts; a zero in front of other digits is refused. -/
def ofChars? (chars : List Char) : Option Numeral := do
  let (negative, rest) := match chars with
    | '-' :: rest => (true, rest)
    | rest => (false, rest)
  let (whole, rest) := takeDigits rest
  if whole.isEmpty ∨ (whole.head? = some 0 ∧ whole.length ≠ 1) then none
  match rest with
  | '.' :: rest =>
    let (fraction, rest) := takeDigits rest
    if fraction.isEmpty then none
    return ⟨negative, whole, some fraction, ← exponent? rest⟩
  | rest => return ⟨negative, whole, none, ← exponent? rest⟩

end Numeral

/-- The largest significand and the largest integer: eight bytes of ones. -/
def significandLimit : Nat := 18446744073709551615

/-- The least integer without its sign: a one and sixty-three zeros. -/
def negativeLimit : Nat := 9223372036854775808

/-- Appends digits to a significand while it stays within the limit, and
returns the digits that are left. -/
def appendDigits (significand : Nat) : List Nat → Nat × List Nat
  | [] => (significand, [])
  | digit :: rest =>
    if 10 * significand + digit ≤ significandLimit then
      appendDigits (10 * significand + digit) rest
    else (significand, digit :: rest)

/-- The largest exponent of a power of ten that is a number. -/
def tenLimit : Nat := 308

/-- A power of ten, rounded if it is large. -/
def powerOfTen (exponent : Nat) : Number.Binary64 :=
  .ofNat (Nat.pow 10 exponent)

/-- Divides by a power of ten, in steps of the largest one. -/
def divideByTens (number : Number.Binary64) (exponent : Nat) : Number.Binary64 :=
  if exponent ≤ tenLimit then number.dividedBy (powerOfTen exponent)
  else if number.isZero then number
  else divideByTens (number.dividedBy (powerOfTen tenLimit)) (exponent - tenLimit)
termination_by exponent
decreasing_by
  simp only [tenLimit] at *
  omega

/-- The significand scaled by a power of ten; too large a number is refused. -/
def scaleByTens? (significand : Nat) (exponent : Int) : Option Number.Binary64 :=
  let number := Number.Binary64.ofNat significand
  if exponent < 0 then some (divideByTens number exponent.natAbs)
  else if exponent.natAbs ≤ tenLimit then
    let product := number.times (powerOfTen exponent.natAbs)
    if product.isInfinite then none else some product
  else if number.isZero then some number
  else none

/-- The largest exponent that is taken for what it says. -/
def exponentLimit : Nat := 2147483647

namespace Numeral

/-- The significand and the exponent of its last digit, the exponent part aside. -/
def significand (numeral : Numeral) : Nat × Int :=
  let (whole, left) := appendDigits 0 numeral.whole
  let fraction := numeral.fraction.getD []
  let (both, ignored) := appendDigits whole fraction
  (both, (left.length : Int) - (fraction.length - ignored.length : Nat))

/-- The floating-point number that is written. -/
def float? (numeral : Numeral) : Option Number.Binary64 := do
  let (significand, place) := numeral.significand
  let size ← match numeral.exponent with
    | none => scaleByTens? significand place
    | some (negative, digits) =>
      let exponent := digits.foldl (fun total digit => 10 * total + digit) 0
      if exponentLimit < exponent then
        if significand ≠ 0 ∧ !negative then none else some (.ofNat 0)
      else scaleByTens? significand (if negative then place - exponent else place + exponent)
  return .ofCode numeral.negative size.code

/-- The number as a document. -/
def toJson? (numeral : Numeral) : Option Json :=
  let value := numeral.whole.foldl (fun total digit => 10 * total + digit) 0
  let whole := numeral.fraction.isNone ∧ numeral.exponent.isNone
  if whole ∧ !numeral.negative ∧ value ≤ significandLimit then some (.integer value)
  else if whole ∧ numeral.negative ∧ 0 < value ∧ value ≤ negativeLimit then some (.integer (-value))
  else numeral.float?.map .float

end Numeral

end SqlTree.Json
