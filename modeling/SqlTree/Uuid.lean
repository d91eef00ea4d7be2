/-
This file holds universally unique identifiers: sixteen bytes, written as five
groups of hexadecimal digits.
-/

import SqlTree.Text.Hex

namespace SqlTree

/-- An identifier, with the number of its bytes. -/
structure Uuid where
  bytes : List UInt8
  length_bytes : bytes.length = 16
  deriving DecidableEq

namespace Uuid

/-- The identifier of sixteen bytes. -/
def ofBytes? (bytes : List UInt8) : Option Uuid :=
  if length : bytes.length = 16 then some ⟨bytes, length⟩ else none

/-- Groups of four, two, two, two and six bytes with hyphens between them. -/
def text (identifier : Uuid) : List Char :=
  let group (start count : Nat) := Hex.ofBytes ((identifier.bytes.drop start).take count)
  group 0 4 ++ '-' :: group 4 2 ++ '-' :: group 6 2 ++ '-' :: group 8 2 ++ '-' :: group 10 6

/-- Reads the same groups with digits of either case. -/
def ofText? (text : List Char) : Option Uuid :=
  let mark (place : Nat) := text[place]? = some '-'
  if text.length = 36 ∧ mark 8 ∧ mark 13 ∧ mark 18 ∧ mark 23 then
    (Hex.bytes? (text.filter (· ≠ '-'))).bind ofBytes?
  else none

end Uuid

end SqlTree
