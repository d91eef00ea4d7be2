/-
This file reads arrays of the binary format back. An array of one dimension has
its member type, the number of its first item and its items in it, each with its
length in front, and nothing after the last. What is read was written in one way
only.

Reading goes by pieces: a number of four bytes, an item with its length in front,
so many items with nothing after them. Each piece is read back by an equivalence,
which says at once that what is written is read and that nothing else is. The
pieces are put together by these equivalences only, and bytes are split nowhere
else. An item of more bytes than its length can say is not one of the format, so
every equivalence has the bound with it.
-/

import SqlTree.Proofs.Wire.Number

namespace SqlTree.Wire

/-! ### Numbers in front -/

/-- The first so many bytes and those that follow them. -/
def split? (width : Nat) (bytes : List UInt8) : Option (List UInt8 × List UInt8) :=
  if width ≤ bytes.length then some (bytes.splitAt width) else none

/-- The signed number of four bytes in front, and what follows it. -/
def signed? (bytes : List UInt8) : Option (Int × List UInt8) :=
  (split? 4 bytes).map (Prod.map signedOf id)

/-- So many bytes are split off exactly where there are so many. -/
theorem split?_eq_some_iff {width : Nat} {bytes front rest : List UInt8} :
    split? width bytes = some (front, rest) ↔ front.length = width ∧ bytes = front ++ rest := by
  rw [split?, List.splitAt_eq]
  constructor
  · intro read
    obtain ⟨enough, same⟩ := Option.ite_none_right_eq_some.mp read
    cases same
    exact ⟨List.length_take_of_le enough, (List.take_append_drop width bytes).symm⟩
  · rintro ⟨rfl, rfl⟩
    rw [if_pos (List.length_append ▸ Nat.le_add_right _ _), List.take_left, List.drop_left]

/-- Four bytes are read as the number that they were written for. -/
theorem signed?_eq_some_iff {bytes rest : List UInt8} {value : Int} :
    signed? bytes = some (value, rest) ↔ fits 4 value ∧ bytes = signedBytes 4 value ++ rest := by
  rw [signed?, Option.map_eq_some_iff]
  constructor
  · rintro ⟨⟨front, others⟩, read, same⟩
    obtain ⟨length, rfl⟩ := split?_eq_some_iff.mp read
    cases same
    obtain ⟨fitting, written⟩ := (eq_signedBytes_iff (by decide) _ front).mpr ⟨length, rfl⟩
    exact ⟨fitting, congrArg (· ++ others) written⟩
  · rintro ⟨fitting, rfl⟩
    refine ⟨(signedBytes 4 value, rest),
      split?_eq_some_iff.mpr ⟨length_signedBytes 4 value, rfl⟩, ?_⟩
    rw [Prod.map_apply, signedOf_signedBytes (by decide) fitting, id]

/-! ### Items -/

/-- The item in front, if it is not null, and what follows it. -/
def item? (bytes : List UInt8) : Option (Option (List UInt8) × List UInt8) :=
  (signed? bytes).bind fun length =>
  if length.1 = -1 then some (none, length.2)
  else if 0 ≤ length.1 then (split? length.1.toNat length.2).map (Prod.map some id)
  else none

/-- So many items and nothing after them. -/
def items? : Nat → List UInt8 → Option (List (Option (List UInt8)))
  | 0, bytes => if bytes.isEmpty then some [] else none
  | count + 1, bytes =>
    (item? bytes).bind fun item => (items? count item.2).map fun others => item.1 :: others

/-- The length of an item, which stands in front of it, fits its four bytes. -/
def ItemFits (item : Option (List UInt8)) : Prop :=
  fits 4 (item.elim 0 List.length : Nat)

/-- An item is read from its own bytes, with its length in front. -/
theorem item?_eq_some_iff {bytes rest : List UInt8} {item : Option (List UInt8)} :
    item? bytes = some (item, rest) ↔ ItemFits item ∧ bytes = itemBytes item ++ rest := by
  rw [item?, Option.bind_eq_some_iff]
  constructor
  · rintro ⟨⟨length, others⟩, read, taken⟩
    obtain ⟨fitting, rfl⟩ := signed?_eq_some_iff.mp read
    dsimp only at taken
    split at taken
    · next null =>
      subst null
      cases taken
      exact ⟨(by decide : fits 4 0), rfl⟩
    · obtain ⟨nonnegative, taken⟩ := Option.ite_none_right_eq_some.mp taken
      obtain ⟨⟨contents, after⟩, split, same⟩ := Option.map_eq_some_iff.mp taken
      obtain ⟨lengthEq, rfl⟩ := split?_eq_some_iff.mp split
      cases same
      have written : (contents.length : Int) = length := by omega
      rw [← written] at fitting ⊢
      exact ⟨fitting, (List.append_assoc _ _ _).symm⟩
  · rintro ⟨fitting, rfl⟩
    cases item with
    | none => exact ⟨(-1, rest), signed?_eq_some_iff.mpr ⟨by decide, rfl⟩, rfl⟩
    | some contents =>
      refine ⟨(contents.length, contents ++ rest),
        signed?_eq_some_iff.mpr ⟨fitting, List.append_assoc _ _ _⟩, ?_⟩
      have notNull : (contents.length : Int) ≠ -1 := by omega
      rw [if_neg notNull, if_pos (Int.natCast_nonneg _), Int.toNat_natCast,
        split?_eq_some_iff.mpr ⟨rfl, rfl⟩]
      rfl

/-- Items are read one after another, with nothing left after the last. -/
theorem items?_eq_some_iff {count : Nat} {bytes : List UInt8}
    {items : List (Option (List UInt8))} :
    items? count bytes = some items ↔
      items.length = count ∧ (∀ item ∈ items, ItemFits item) ∧
        bytes = items.flatMap itemBytes := by
  induction count generalizing bytes items with
  | zero =>
    rw [items?]
    constructor
    · intro read
      obtain ⟨nothing, same⟩ := Option.ite_none_right_eq_some.mp read
      cases same
      exact ⟨rfl, nofun, List.isEmpty_iff.mp nothing⟩
    · rintro ⟨length, _, rfl⟩
      rw [List.length_eq_zero_iff.mp length]
      rfl
  | succ count inductionHypothesis =>
    rw [items?, Option.bind_eq_some_iff]
    constructor
    · rintro ⟨⟨first, rest⟩, read, taken⟩
      obtain ⟨others, readOthers, rfl⟩ := Option.map_eq_some_iff.mp taken
      obtain ⟨firstFits, rfl⟩ := item?_eq_some_iff.mp read
      obtain ⟨length, othersFit, same⟩ := inductionHypothesis.mp readOthers
      refine ⟨congrArg (· + 1) length, List.forall_mem_cons.mpr ⟨firstFits, othersFit⟩, ?_⟩
      rw [List.flatMap_cons, ← same]
    · rintro ⟨length, fitting, rfl⟩
      cases items with
      | nil => cases length
      | cons first others =>
        obtain ⟨firstFits, othersFit⟩ := List.forall_mem_cons.mp fitting
        refine ⟨(first, others.flatMap itemBytes), item?_eq_some_iff.mpr ⟨firstFits, rfl⟩, ?_⟩
        rw [inductionHypothesis.mpr ⟨Nat.succ.inj length, othersFit, rfl⟩]
        rfl

/-! ### Arrays -/

/-- What an array of one dimension says: the number of its member type, the
number of its first item and the items. -/
structure ArrayForm where
  member : Nat
  lowerBound : Int
  items : List (Option (List UInt8))
  deriving DecidableEq

/-- Reads an array of one dimension, which says first whether it has nulls. Each
step reads on in the second part of what the one before it has read. -/
def array? (bytes : List UInt8) : Option ArrayForm :=
  (signed? bytes).bind fun dimensions =>
  (signed? dimensions.2).bind fun nulls =>
  (split? 4 nulls.2).bind fun member =>
  (signed? member.2).bind fun length =>
  (signed? length.2).bind fun lowerBound =>
  (items? length.1.toNat lowerBound.2).bind fun items =>
  if dimensions.1 = 1 ∧ nulls.1 = (if items.any Option.isNone then 1 else 0) ∧ 0 ≤ length.1 then
    some ⟨naturalOf member.1, lowerBound.1, items⟩
  else none

theorem toNat_lt_fourBytes (number : UInt32) : number.toNat < Nat.pow 256 4 := by
  have size : Nat.pow 256 4 = UInt32.size := by decide
  rw [size]
  exact number.toNat_lt_size

theorem fits_lowerBound (lowerBound : Fin 2) : fits 4 lowerBound.val := by
  revert lowerBound
  decide

variable {member : WireType} {lowerBound : Fin 2} {items : List (Option (List UInt8))}

/-- An array is read back as it was written. -/
theorem array?_arrayBytes (length : fits 4 items.length)
    (fitting : ∀ item ∈ items, ItemFits item) :
    array? (arrayBytes member lowerBound items) =
      some ⟨member.number.toNat, lowerBound.val, items⟩ := by
  have nulls : fits 4 (if items.any Option.isNone then 1 else 0) := by split <;> decide
  obtain ⟨memberLength, sameMember⟩ :=
    (eq_naturalBytes_iff (toNat_lt_fourBytes member.number) _).mp rfl
  rw [array?, arrayBytes, List.append_assoc, List.append_assoc, List.append_assoc,
    List.append_assoc, signed?_eq_some_iff.mpr ⟨by decide, rfl⟩, Option.bind_some,
    signed?_eq_some_iff.mpr ⟨nulls, rfl⟩, Option.bind_some,
    split?_eq_some_iff.mpr ⟨memberLength, rfl⟩, Option.bind_some,
    signed?_eq_some_iff.mpr ⟨length, rfl⟩, Option.bind_some,
    signed?_eq_some_iff.mpr ⟨fits_lowerBound lowerBound, rfl⟩, Option.bind_some,
    Int.toNat_natCast, items?_eq_some_iff.mpr ⟨rfl, fitting, rfl⟩, Option.bind_some,
    sameMember, if_pos ⟨rfl, rfl, Int.natCast_nonneg _⟩]

/-- Bytes in which an array is read are those that it is written as. -/
theorem eq_arrayBytes_of_array? {bytes : List UInt8}
    (read : array? bytes = some ⟨member.number.toNat, lowerBound.val, items⟩) :
    fits 4 items.length ∧ (∀ item ∈ items, ItemFits item) ∧
      bytes = arrayBytes member lowerBound items := by
  obtain ⟨⟨dimensions, _⟩, readDimensions, onward⟩ := Option.bind_eq_some_iff.mp read
  obtain ⟨⟨nulls, _⟩, readNulls, onward⟩ := Option.bind_eq_some_iff.mp onward
  obtain ⟨⟨spelled, _⟩, readMember, onward⟩ := Option.bind_eq_some_iff.mp onward
  obtain ⟨⟨length, _⟩, readLength, onward⟩ := Option.bind_eq_some_iff.mp onward
  obtain ⟨⟨first, _⟩, readFirst, onward⟩ := Option.bind_eq_some_iff.mp onward
  obtain ⟨found, readItems, onward⟩ := Option.bind_eq_some_iff.mp onward
  obtain ⟨⟨rfl, rfl, nonnegative⟩, same⟩ := Option.ite_none_right_eq_some.mp onward
  obtain ⟨sameMember, rfl, rfl⟩ := ArrayForm.mk.injEq .. ▸ Option.some.inj same
  -- The last item ends the bytes, so they are put together from there.
  obtain ⟨itemsLength, fitting, rfl⟩ := items?_eq_some_iff.mp readItems
  obtain ⟨_, rfl⟩ := signed?_eq_some_iff.mp readFirst
  obtain ⟨lengthFits, rfl⟩ := signed?_eq_some_iff.mp readLength
  obtain ⟨memberLength, rfl⟩ := split?_eq_some_iff.mp readMember
  obtain ⟨_, rfl⟩ := signed?_eq_some_iff.mp readNulls
  obtain ⟨_, rfl⟩ := signed?_eq_some_iff.mp readDimensions
  obtain rfl : length = found.length := by omega
  obtain rfl := (eq_naturalBytes_iff (toNat_lt_fourBytes member.number) spelled).mpr
    ⟨memberLength, sameMember⟩
  refine ⟨lengthFits, fitting, ?_⟩
  simp only [arrayBytes, List.append_assoc]

end SqlTree.Wire
