/-
This file writes bytes and numbers in lower-case hexadecimal and reads
hexadecimal of either case back into bytes.

Each byte is two digits, the higher one first. Reading fails on an odd number of
digits and on any character that is none.
-/

namespace SqlTree.Hex

/-- The lower-case digit of a number below sixteen. -/
def digit (value : Nat) : Char :=
  if value < 10 then Char.ofNat ('0'.toNat + value) else Char.ofNat ('a'.toNat + (value - 10))

/-- The value of a digit of either case. -/
def value? (char : Char) : Option Nat :=
  if '0' ≤ char ∧ char ≤ '9' then some (char.toNat - '0'.toNat)
  else if 'a' ≤ char ∧ char ≤ 'f' then some (char.toNat - 'a'.toNat + 10)
  else if 'A' ≤ char ∧ char ≤ 'F' then some (char.toNat - 'A'.toNat + 10)
  else none

/-- A byte is two digits, the high half first. -/
def ofByte (byte : UInt8) : List Char :=
  [digit (byte.toNat / 16), digit (byte.toNat % 16)]

/-- The digits of bytes, two for each. -/
def ofBytes (bytes : List UInt8) : List Char :=
  bytes.flatMap ofByte

/-- Reads pairs of digits; an odd count of digits has no bytes. -/
def bytes? : List Char → Option (List UInt8)
  | [] => some []
  | [_] => none
  | high :: low :: rest => do
    let highValue ← value? high
    let lowValue ← value? low
    let bytes ← bytes? rest
    return UInt8.ofNat (16 * highValue + lowValue) :: bytes

/-- The number that a run of digits writes, most significant digit first. -/
def number? (digits : List Char) : Option Nat :=
  digits.foldlM (fun total char => (value? char).map (16 * total + ·)) 0

end SqlTree.Hex
