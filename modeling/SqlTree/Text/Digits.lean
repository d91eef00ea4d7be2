/-
This file writes natural numbers in decimal, as they are or padded with zeros
on the left to a least width.

Signed numbers have a sign in front if they are negative, and nothing in front
otherwise. No number has zeros in front unless it is padded.
-/

namespace SqlTree.Digits

/-- The decimal digits of a number. -/
def natural (value : Nat) : List Char :=
  Nat.toDigits 10 value

/-- The decimal digits with zeros in front up to a width. -/
def padded (width value : Nat) : List Char :=
  let digits := natural value
  List.replicate (width - digits.length) '0' ++ digits

/-- The decimal digits after a minus sign for a negative number. -/
def integer (value : Int) : List Char :=
  if value < 0 then '-' :: natural value.natAbs else natural value.natAbs

end SqlTree.Digits
