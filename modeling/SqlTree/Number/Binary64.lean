/-
This file holds floating-point numbers of eight bytes by their bits: what they
are, how they compare, how they change format, and the arithmetic that reading
a decimal needs. All of it is exact arithmetic on `Nat` followed by one rounding.
-/

import SqlTree.Number.Shortest

namespace SqlTree.Number

/-- A floating-point number of eight bytes, as its bits. -/
structure Binary64 where
  bits : UInt64
  deriving DecidableEq

namespace Binary64

/-- The bits without the sign. -/
def code (number : Binary64) : Nat :=
  number.bits.toNat % BinaryFormat.double.signBit

/-- Whether the sign is set, also that of zero. -/
def isNegative (number : Binary64) : Bool :=
  BinaryFormat.double.signBit ≤ number.bits.toNat

/-- Whether it is no number. -/
def isNaN (number : Binary64) : Bool :=
  BinaryFormat.double.infinity < number.code

/-- Whether it is an infinity of either sign. -/
def isInfinite (number : Binary64) : Bool :=
  number.code = BinaryFormat.double.infinity

/-- Whether it is a number that is not infinite. -/
def isFinite (number : Binary64) : Bool :=
  number.code < BinaryFormat.double.infinity

/-- Whether it is zero of either sign. -/
def isZero (number : Binary64) : Bool :=
  number.code = 0

/-- The number with a given sign and code. -/
def ofCode (negative : Bool) (code : Nat) : Binary64 :=
  ⟨UInt64.ofNat (if negative then BinaryFormat.double.signBit + code else code)⟩

/-- Numeric equality: the two zeros are equal and nothing equals not-a-number. -/
def equal (left right : Binary64) : Bool :=
  !left.isNaN && !right.isNaN && (left.bits == right.bits || (left.isZero && right.isZero))

/-! ### Other formats -/

/-- The same number from the four-byte format. -/
def ofSingle (bits : UInt32) : Binary64 :=
  let sign := BinaryFormat.single.signBit
  ofCode (sign ≤ bits.toNat)
    (BinaryFormat.single.convert BinaryFormat.double (bits.toNat % sign))

/-- The nearest number of the four-byte format. -/
def toSingle (number : Binary64) : UInt32 :=
  let code := BinaryFormat.double.convert BinaryFormat.single number.code
  UInt32.ofNat (if number.isNegative then BinaryFormat.single.signBit + code else code)

/-! ### Rounded arithmetic on nonnegative finite numbers -/

/-- The number nearest to a natural number. -/
def ofNat (value : Nat) : Binary64 :=
  ofCode false (BinaryFormat.double.nearest value 1)

/-- The absolute value as a ratio of naturals. -/
def ratio (number : Binary64) : Nat × Nat :=
  BinaryFormat.double.ratio number.code

/-- The number nearest to the product. -/
def times (left right : Binary64) : Binary64 :=
  let (leftNumerator, leftDenominator) := left.ratio
  let (rightNumerator, rightDenominator) := right.ratio
  ofCode false (BinaryFormat.double.nearest (leftNumerator * rightNumerator)
    (leftDenominator * rightDenominator))

/-- The number nearest to the quotient by a positive number. -/
def dividedBy (left right : Binary64) : Binary64 :=
  let (leftNumerator, leftDenominator) := left.ratio
  let (rightNumerator, rightDenominator) := right.ratio
  ofCode false (BinaryFormat.double.nearest (leftNumerator * rightDenominator)
    (leftDenominator * rightNumerator))

/-! ### Decimal digits -/

/-- The shortest decimal that reads back as this finite number, its sign aside. -/
def shortest (number : Binary64) (tie : Tie) : Decimal :=
  if number.isZero then ⟨0, 0⟩
  else (RoundingInterval.ofCode BinaryFormat.double number.code).shortest tie

/-- The sign that is written before the digits; negative zero has one. -/
def sign (number : Binary64) : List Char :=
  if number.isNegative then ['-'] else []

/-- The number with every digit in its place and no exponent. -/
def plain (number : Binary64) : List Char :=
  if number.isNaN then "NaN".toList
  else if number.isInfinite then number.sign ++ "inf".toList
  else number.sign ++ (number.shortest .up).positional

end Binary64

end SqlTree.Number
