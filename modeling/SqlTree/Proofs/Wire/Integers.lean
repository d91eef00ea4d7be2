/-
This file proves that integers are sent exactly or refused. An integer is sent for the
three integer types only and if the type can hold it, and a server reads it in the bytes.
A list of integers, with nulls among them, is sent for the arrays of these types if the
type can hold them all, and a server reads the list. The items are held to the type of
the members, so a list among them has the whole list refused.

Two things about lists are easily left out. A length has four bytes, so a list that is
longer than they can say is refused although the type can hold every item. And where a
list begins is up to the declared type: an array counts its items from one, but the
vector of the catalog counts them from zero, and a server reads them under these numbers.
The results below quantify over the array types and not over their names, so they hold
of both, and the last theorem shows what becomes of either on a list of its own.
-/

import SqlTree.Proofs.Wire.Format

namespace SqlTree

open Wire

/-! ### Integer types -/

/-- The types that integers are sent for. -/
inductive IntegerType where
  | int2
  | int4
  | int8

namespace IntegerType

/-- The name of the type in the catalog. -/
def name : IntegerType → String
  | .int2 => "int2"
  | .int4 => "int4"
  | .int8 => "int8"

/-- The bytes of a value of the type. -/
def width : IntegerType → Nat
  | .int2 => 2
  | .int4 => 4
  | .int8 => 8

/-- The number of the type in the catalog. -/
def number : IntegerType → UInt32
  | .int2 => 21
  | .int4 => 23
  | .int8 => 20

/-- The integers that the type can hold. -/
def Holds : IntegerType → Int → Prop
  | .int2, value => -32768 ≤ value ∧ value ≤ 32767
  | .int4, value => -2147483648 ≤ value ∧ value ≤ 2147483647
  | .int8, value => -9223372036854775808 ≤ value ∧ value ≤ 9223372036854775807

/-- The type as it is declared. -/
def declared (kind : IntegerType) : WireType :=
  .scalar kind.name kind.number

/-- The array of the type under the name of the catalog. -/
def array (kind : IntegerType) : WireType :=
  .ofName ("_" ++ kind.name)

variable {kind : IntegerType}

/-- The arrays of the catalog are of the form that lists are sent for below. -/
theorem array_eq (kind : IntegerType) :
    kind.array = .array ("_" ++ kind.name) 0 kind.declared 1 := by
  cases kind <;> rfl

/-- The vector of the catalog is an array of two-byte integers that counts from zero. -/
theorem vector_eq : WireType.ofName "int2vector" = .array "int2vector" 22 int2.declared 0 := rfl

theorem fits_iff_holds {value : Int} : fits kind.width value ↔ kind.Holds value := by
  rw [fits_iff]
  cases kind with
  | int2 =>
    have half : Nat.pow 2 (8 * 2 - 1) = 32768 := by decide
    rw [width, half, Holds]
    omega
  | int4 =>
    have half : Nat.pow 2 (8 * 4 - 1) = 2147483648 := by decide
    rw [width, half, Holds]
    omega
  | int8 =>
    have half : Nat.pow 2 (8 * 8 - 1) = 9223372036854775808 := by decide
    rw [width, half, Holds]
    omega

theorem width_pos (kind : IntegerType) : 0 < kind.width := by
  cases kind <;> decide

theorem fits_width (kind : IntegerType) : fits 4 kind.width := by
  cases kind <;> decide

theorem declared_injective {first second : IntegerType}
    (same : first.declared = second.declared) : first = second := by
  cases first <;> cases second <;> first | rfl | exact absurd same (by decide)

/-- An integer has a width for the three types of the catalog and for no type else. -/
theorem integerWidth?_eq_some_iff {type : WireType} {width : Nat} :
    integerWidth? type = some width ↔
      ∃ kind : IntegerType, type = kind.declared ∧ kind.width = width := by
  constructor
  · intro holds
    unfold integerWidth? at holds
    split at holds
    · next small =>
      cases holds
      exact ⟨.int2, small, rfl⟩
    · split at holds
      · next medium =>
        cases holds
        exact ⟨.int4, medium, rfl⟩
      · split at holds
        · next large =>
          cases holds
          exact ⟨.int8, large, rfl⟩
        · cases holds
  · rintro ⟨kind, rfl, rfl⟩
    cases kind <;> rfl

end IntegerType

/-! ### Single integers -/

variable {kind : IntegerType} {type : WireType} {value : Int64} {encoded : Option (List UInt8)}

/-- An integer is encoded for an integer type that holds it, in its bytes. -/
theorem Value.encode_integer_eq_ok_iff :
    (Value.integer value).encode type = .ok encoded ↔
      ∃ kind : IntegerType, type = kind.declared ∧ kind.Holds value.toInt ∧
        encoded = some (signedBytes kind.width value.toInt) := by
  rw [Value.encode, map_some_eq_ok_iff]
  constructor
  · rintro ⟨bytes, done, rfl⟩
    obtain ⟨width, holds, length, read⟩ := integer_eq_ok_iff.mp done
    obtain ⟨kind, same, rfl⟩ := IntegerType.integerWidth?_eq_some_iff.mp holds
    obtain ⟨fitting, rfl⟩ := (eq_signedBytes_iff kind.width_pos _ bytes).mpr ⟨length, read⟩
    exact ⟨kind, same, IntegerType.fits_iff_holds.mp fitting, rfl⟩
  · rintro ⟨kind, same, holds, rfl⟩
    have fitting := IntegerType.fits_iff_holds.mpr holds
    have spelled := (eq_signedBytes_iff kind.width_pos _ _).mp ⟨fitting, rfl⟩
    have width := IntegerType.integerWidth?_eq_some_iff.mpr ⟨kind, same, rfl⟩
    exact ⟨_, integer_eq_ok_iff.mpr ⟨kind.width, width, spelled⟩, rfl⟩

/-! ### Lists of integers -/

/-- An integer as an item of a list, or null where there is none. -/
def Value.ofEntry : Option Int64 → Value
  | some value => .integer value
  | none => .null

namespace IntegerType

/-- The type can hold an item of a list. Null has no bytes, so every type holds it. -/
def HoldsEntry (kind : IntegerType) : Option Int64 → Prop
  | some value => kind.Holds value.toInt
  | none => True

/-- The bytes of an item of a list. -/
def entryBytes (kind : IntegerType) (entry : Option Int64) : Option (List UInt8) :=
  entry.map fun value => signedBytes kind.width value.toInt

variable {entry : Option Int64} {entries : List (Option Int64)}

/-- An entry of a list is encoded if the member type holds it, or if it is null. -/
theorem encode_entry_eq_ok_iff :
    (Value.ofEntry entry).encode kind.declared = .ok encoded ↔
      kind.HoldsEntry entry ∧ encoded = kind.entryBytes entry := by
  cases entry with
  | none =>
    constructor
    · rintro ⟨⟩
      exact ⟨trivial, rfl⟩
    · rintro ⟨_, rfl⟩
      rfl
  | some value =>
    refine Value.encode_integer_eq_ok_iff.trans ⟨?_, ?_⟩
    · rintro ⟨other, same, holds, rfl⟩
      obtain rfl : kind = other := declared_injective same
      exact ⟨holds, rfl⟩
    · rintro ⟨holds, rfl⟩
      exact ⟨kind, rfl, holds, rfl⟩

theorem itemFits_entryBytes (kind : IntegerType) (entry : Option Int64) :
    ItemFits (kind.entryBytes entry) := by
  cases entry with
  | none => exact (by decide : fits 4 0)
  | some value =>
    show fits 4 ((signedBytes kind.width value.toInt).length : Nat)
    rw [length_signedBytes]
    exact kind.fits_width

/-- Entries are encoded one after another if the member type holds them all. -/
theorem encodeItems_eq_ok_iff_holds {sent : List (Option (List UInt8))} :
    Value.encodeItems kind.declared (entries.map Value.ofEntry) = .ok sent ↔
      (∀ entry ∈ entries, kind.HoldsEntry entry) ∧ sent = entries.map kind.entryBytes := by
  induction entries generalizing sent with
  | nil =>
    constructor
    · rintro ⟨⟩
      exact ⟨nofun, rfl⟩
    · rintro ⟨_, rfl⟩
      rfl
  | cons entry rest inductionHypothesis =>
    rw [List.map_cons, Value.encodeItems, bind_eq_ok_iff, List.forall_mem_cons]
    constructor
    · rintro ⟨first, done, onward⟩
      obtain ⟨_, _, onward⟩ := bind_eq_ok_iff.mp onward
      obtain ⟨others, doneRest, same⟩ := bind_eq_ok_iff.mp onward
      obtain ⟨holds, rfl⟩ := encode_entry_eq_ok_iff.mp done
      obtain ⟨holdsRest, rfl⟩ := inductionHypothesis.mp doneRest
      cases same
      exact ⟨⟨holds, holdsRest⟩, rfl⟩
    · rintro ⟨⟨holds, holdsRest⟩, rfl⟩
      have length := checkLength_eq_ok_iff.mpr (kind.itemFits_entryBytes entry)
      exact ⟨_, encode_entry_eq_ok_iff.mpr ⟨holds, rfl⟩, bind_eq_ok_iff.mpr ⟨(), length,
        bind_eq_ok_iff.mpr ⟨_, inductionHypothesis.mpr ⟨holdsRest, rfl⟩, rfl⟩⟩⟩

end IntegerType

/-- An item that is refused has the whole list refused. -/
theorem encodeItems_ne_ok_of_mem {member : WireType} {items : List Value} {item : Value}
    (inside : item ∈ items) (refused : ∀ encoded, item.encode member ≠ .ok encoded)
    (sent : List (Option (List UInt8))) : Value.encodeItems member items ≠ .ok sent := by
  intro done
  induction items generalizing sent with
  | nil => cases inside
  | cons first rest inductionHypothesis =>
    obtain ⟨_, doneFirst, onward⟩ := bind_eq_ok_iff.mp done
    obtain ⟨_, _, onward⟩ := bind_eq_ok_iff.mp onward
    obtain ⟨_, doneRest, _⟩ := bind_eq_ok_iff.mp onward
    rcases List.mem_cons.mp inside with rfl | inRest
    · exact refused _ doneFirst
    · exact inductionHypothesis inRest _ doneRest

/-! ### Reading lists of integers -/

/-- A list of integers as it is read, with the number of its member type and that of its
first item. -/
structure IntegerList where
  member : Nat
  lowerBound : Int
  entries : List (Option Int)
  deriving DecidableEq

/-- Reads an item as an integer of so many bytes, or as null. -/
def entryOf? (width : Nat) : Option (List UInt8) → Option (Option Int)
  | some bytes => if bytes.length = width then some (some (signedOf bytes)) else none
  | none => some none

/-- Reads an array of integers of so many bytes. -/
def integerList? (width : Nat) (bytes : List UInt8) : Option IntegerList := do
  let form ← array? bytes
  let entries ← form.items.mapM (entryOf? width)
  return ⟨form.member, form.lowerBound, entries⟩

namespace IntegerType

variable {entry : Option Int64} {entries : List (Option Int64)}

theorem entryOf?_entryBytes (holds : kind.HoldsEntry entry) :
    entryOf? kind.width (kind.entryBytes entry) = some (entry.map Int64.toInt) := by
  cases entry with
  | none => rfl
  | some value =>
    have read := signedOf_signedBytes kind.width_pos (fits_iff_holds.mpr holds)
    show (if _ then _ else _) = _
    rw [if_pos (length_signedBytes _ _), read]
    rfl

/-- The entries are read back in their order. -/
theorem mapM_entryOf? (holds : ∀ entry ∈ entries, kind.HoldsEntry entry) :
    (entries.map kind.entryBytes).mapM (entryOf? kind.width) =
      some (entries.map (Option.map Int64.toInt)) := by
  induction entries with
  | nil => rfl
  | cons entry rest inductionHypothesis =>
    obtain ⟨first, others⟩ := List.forall_mem_cons.mp holds
    rw [List.map_cons, List.mapM_cons, entryOf?_entryBytes first, inductionHypothesis others]
    rfl

/-- A server reads the list back, with its member type and its first index. -/
theorem integerList?_arrayBytes (lowerBound : Fin 2) (length : fits 4 entries.length)
    (holds : ∀ entry ∈ entries, kind.HoldsEntry entry) :
    integerList? kind.width (arrayBytes kind.declared lowerBound (entries.map kind.entryBytes)) =
      some ⟨kind.number.toNat, lowerBound.val, entries.map (Option.map Int64.toInt)⟩ := by
  have fitting : ∀ item ∈ entries.map kind.entryBytes, ItemFits item := by
    intro item inside
    obtain ⟨entry, -, rfl⟩ := List.mem_map.mp inside
    exact kind.itemFits_entryBytes entry
  rw [← List.length_map kind.entryBytes] at length
  rw [integerList?, array?_arrayBytes length fitting]
  simp only [Option.bind_eq_bind, Option.bind_some, mapM_entryOf? holds]
  rfl

end IntegerType

/-! ### What is sent -/

/-- Four bytes can say lengths up to 2147483647. -/
theorem fits_length_iff {length : Nat} : fits 4 length ↔ length ≤ 2147483647 := by
  show fits IntegerType.int4.width length ↔ _
  rw [IntegerType.fits_iff_holds, IntegerType.Holds]
  omega

theorem Value.exists_encode_integer_iff :
    (∃ encoded, (Value.integer value).encode type = .ok encoded) ↔
      ∃ kind : IntegerType, type = kind.declared ∧ kind.Holds value.toInt := by
  simp only [Value.encode_integer_eq_ok_iff]
  constructor
  · rintro ⟨_, kind, same, holds, _⟩
    exact ⟨kind, same, holds⟩
  · rintro ⟨kind, same, holds⟩
    exact ⟨_, kind, same, holds, rfl⟩

/-- What was encoded is read back as the integer. -/
theorem Value.read_of_encode_integer
    (done : (Value.integer value).encode kind.declared = .ok encoded) :
    ∃ bytes, encoded = some bytes ∧ bytes.length = kind.width ∧ signedOf bytes = value.toInt := by
  obtain ⟨other, same, holds, rfl⟩ := encode_integer_eq_ok_iff.mp done
  obtain rfl := IntegerType.declared_injective same
  have fitting := IntegerType.fits_iff_holds.mpr holds
  exact ⟨_, rfl, length_signedBytes _ _, signedOf_signedBytes kind.width_pos fitting⟩

section Arrays

variable {name : String} {number : UInt32} {lowerBound : Fin 2} {entries : List (Option Int64)}

theorem IntegerType.encode_entries_eq_ok_iff :
    (Value.array (entries.map Value.ofEntry)).encode
        (.array name number kind.declared lowerBound) = .ok encoded ↔
      ((∀ entry ∈ entries, kind.HoldsEntry entry) ∧ entries.length ≤ 2147483647) ∧
        encoded = some (arrayBytes kind.declared lowerBound (entries.map kind.entryBytes)) := by
  rw [Value.encode_array_eq_ok_iff, List.length_map, fits_length_iff]
  constructor
  · rintro ⟨length, sent, done, rfl⟩
    obtain ⟨holds, rfl⟩ := encodeItems_eq_ok_iff_holds.mp done
    exact ⟨⟨holds, length⟩, rfl⟩
  · rintro ⟨⟨holds, length⟩, rfl⟩
    exact ⟨length, _, encodeItems_eq_ok_iff_holds.mpr ⟨holds, rfl⟩, rfl⟩

/-- A list with a list inside is refused. -/
theorem IntegerType.encode_array_of_mem {items inner : List Value}
    (inside : Value.array inner ∈ items) :
    ∃ fault, (Value.array items).encode (.array name number kind.declared lowerBound) =
      .error fault := by
  have refused (encoded : Option (List UInt8)) :
      (Value.array inner).encode kind.declared ≠ .ok encoded := nofun
  cases done : (Value.array items).encode (.array name number kind.declared lowerBound) with
  | error fault => exact ⟨fault, rfl⟩
  | ok encoded =>
    obtain ⟨_, sent, doneItems, _⟩ := Value.encode_array_eq_ok_iff.mp done
    exact absurd doneItems (encodeItems_ne_ok_of_mem inside refused sent)

end Arrays

/-- An integer is sent exactly if the declared type is one of the three integer types and
can hold it, and then it is read in its bytes. A list of integers and nulls is sent for an
array of these exactly if the type can hold every one of them and four bytes the length,
and then the list is read in its bytes, from the number on that the array counts from. No
list is sent with a list in it. -/
theorem Value.integers_sent_or_refused :
    (∀ (value : Int64) (type : WireType),
      ((∃ encoded, (Value.integer value).encode type = .ok encoded) ↔
        ∃ kind : IntegerType, type = kind.declared ∧ kind.Holds value.toInt) ∧
      ∀ (kind : IntegerType) (encoded : Option (List UInt8)), type = kind.declared →
        (Value.integer value).encode type = .ok encoded →
        ∃ bytes, encoded = some bytes ∧ bytes.length = kind.width ∧
          signedOf bytes = value.toInt) ∧
    ∀ (kind : IntegerType) (name : String) (number : UInt32) (lowerBound : Fin 2),
      (∀ entries : List (Option Int64),
        ((∃ encoded, (Value.array (entries.map Value.ofEntry)).encode
            (.array name number kind.declared lowerBound) = .ok encoded) ↔
          (∀ entry ∈ entries, kind.HoldsEntry entry) ∧ entries.length ≤ 2147483647) ∧
        ∀ encoded : Option (List UInt8),
          (Value.array (entries.map Value.ofEntry)).encode
            (.array name number kind.declared lowerBound) = .ok encoded →
          ∃ bytes, encoded = some bytes ∧ integerList? kind.width bytes =
            some ⟨kind.number.toNat, lowerBound.val, entries.map (Option.map Int64.toInt)⟩) ∧
      ∀ items inner : List Value, Value.array inner ∈ items →
        ∃ fault, (Value.array items).encode (.array name number kind.declared lowerBound) =
          .error fault := by
  refine ⟨fun value type => ⟨exists_encode_integer_iff, ?_⟩,
    fun kind name number lowerBound => ⟨fun entries => ?_, fun items inner inside =>
      IntegerType.encode_array_of_mem inside⟩⟩
  · rintro kind encoded rfl done
    exact read_of_encode_integer done
  · simp only [IntegerType.encode_entries_eq_ok_iff]
    refine ⟨⟨?_, ?_⟩, ?_⟩
    · rintro ⟨_, conditions, _⟩
      exact conditions
    · intro conditions
      exact ⟨_, conditions, rfl⟩
    · rintro encoded ⟨⟨holds, length⟩, rfl⟩
      have fitting := fits_length_iff.mpr length
      exact ⟨_, rfl, IntegerType.integerList?_arrayBytes lowerBound fitting holds⟩

/-- The numbers of three seats, the second of which has none. -/
def seatNumbers : List (Option Int64) :=
  [some 7, none, some (-2)]

/-- The list as it is sent: one dimension, with nulls, of the member type, three items from
the first on, and the items. -/
def seatBytes : List UInt8 :=
  [0, 0, 0, 1, 0, 0, 0, 1, 0, 0, 0, 21, 0, 0, 0, 3, 0, 0, 0, 1,
    0, 0, 0, 2, 0, 7, 0xFF, 0xFF, 0xFF, 0xFF, 0, 0, 0, 2, 0xFF, 0xFE]

theorem seatNumbers_sent :
    (Value.integer (-32768)).encode (.ofName "int2") = .ok (some [0x80, 0]) ∧
      signedOf [0x80, 0] = -32768 ∧
      (Value.array (seatNumbers.map Value.ofEntry)).encode (.ofName "_int2") =
        .ok (some seatBytes) ∧
      integerList? 2 seatBytes = some ⟨21, 1, [some 7, none, some (-2)]⟩ ∧
      ∃ fault, (Value.array [.integer 7, .array [.integer 7]]).encode (.ofName "_int2") =
        .error fault := by
  have smallest : (Value.integer (-32768)).encode (.ofName "int2") = .ok (some [0x80, 0]) := rfl
  have seats : (Value.array (seatNumbers.map Value.ofEntry)).encode (.ofName "_int2") =
      .ok (some seatBytes) := rfl
  obtain ⟨single, lists⟩ := Value.integers_sent_or_refused
  obtain ⟨list, nested⟩ := lists .int2 "_int2" 0 1
  obtain ⟨bytes, same, -, readSmallest⟩ := (single _ _).2 .int2 _ rfl smallest
  obtain ⟨others, sameOthers, readSeats⟩ := (list seatNumbers).2 _ seats
  cases same
  cases sameOthers
  refine ⟨smallest, readSmallest, seats, readSeats, nested _ [.integer 7] ?_⟩
  exact List.mem_cons_of_mem _ (List.mem_singleton_self _)

/-- A list of one null more than four bytes can say. -/
def emptySeats : List (Option Int64) :=
  List.replicate 2147483648 none

/-- The type can hold every item of the list and the list is refused for its length; and
a list that is sent for the vector is read from number zero on. -/
theorem seats_beyond_and_before :
    ((∀ entry ∈ emptySeats, IntegerType.int4.HoldsEntry entry) ∧
      (Value.array (emptySeats.map Value.ofEntry)).encode (.ofName "_int4") =
        .error .outOfRange) ∧
    ∃ bytes, (Value.array [.integer 1]).encode (.ofName "int2vector") = .ok (some bytes) ∧
      integerList? 2 bytes = some ⟨21, 0, [some 1]⟩ := by
  refine ⟨⟨?_, ?_⟩, _, rfl, by decide +kernel⟩
  · intro entry inside
    rw [List.eq_of_mem_replicate inside]
    exact trivial
  · have exceeding : checkLength (emptySeats.map Value.ofEntry).length = .error .outOfRange := by
      rw [List.length_map, emptySeats, List.length_replicate]
      rfl
    show (checkLength _ >>= _) = _
    rw [exceeding]
    rfl

end SqlTree
