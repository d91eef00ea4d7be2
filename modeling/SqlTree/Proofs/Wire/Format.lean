/-
This file says what a server reads in the bytes of a value for a declared type
that can hold it, and proves that a value is sent exactly like that, or not at
all. Numbers and arrays look at the declared type and are refused where it
cannot hold them. The other values do not look at it, so their types have to be
right to begin with: a text of four bytes that is declared an integer is stored
as a number.

What is sent is a relation between a declared type, a value and bytes, with one
constructor for each kind of value; how a number of the type is laid out is said
by reading the bytes, not by writing them. The theorem about it has two halves,
and a condition that is a function of the type and the value: where the kinds that
do not look at the type are declared as they should be, an encoding succeeds with
exactly the bytes that are sent, and where it fails no bytes are.
-/

import SqlTree.Proofs.Wire.Array

namespace SqlTree

open Wire

/-! ### The binary format -/

/-- The types whose values are texts and nothing else. -/
def WireType.isText (type : WireType) : Bool :=
  ["text", "varchar", "bpchar", "name", "unknown", "citext"].contains type.name

/-- The types whose values are texts with the version of their format in front. -/
def WireType.isVersionedText (type : WireType) : Bool :=
  ["ltree", "lquery", "ltxtquery"].contains type.name

/-- The bytes of a text in UTF-8. -/
def textBytes (text : String) : List UInt8 :=
  text.toUTF8.data.toList

mutual

/-- What a server reads in the bytes of a value for a type that can hold the
value. Null has no bytes. -/
inductive Value.Sent : WireType → Value → Option (List UInt8) → Prop
  | null {type : WireType} : Value.Sent type .null none
  | bool {type : WireType} (value : Bool) (named : type.name = "bool") :
    Value.Sent type (.bool value) (some [if value then 1 else 0])
  | integer {type : WireType} {width : Nat} {value : Int64} {bytes : List UInt8}
      (holds : integerWidth? type = some width) (length : bytes.length = width)
      (read : signedOf bytes = value.toInt) :
    Value.Sent type (.integer value) (some bytes)
  /-- The number is rounded to single precision. -/
  | single {type : WireType} {value : Number.Binary64} {bytes : List UInt8}
      (single : type = .float4) (length : bytes.length = 4)
      (read : naturalOf bytes = value.toSingle.toNat) :
    Value.Sent type (.float value) (some bytes)
  | double {type : WireType} {value : Number.Binary64} {bytes : List UInt8}
      (double : type = .float8) (length : bytes.length = 8)
      (read : naturalOf bytes = value.bits.toNat) :
    Value.Sent type (.float value) (some bytes)
  | text {type : WireType} (value : String) (named : type.isText) :
    Value.Sent type (.text value) (some (textBytes value))
  | versionedText {type : WireType} (value : String) (named : type.isVersionedText) :
    Value.Sent type (.text value) (some (1 :: textBytes value))
  | bytes {type : WireType} (value : List UInt8) (named : type.name = "bytea") :
    Value.Sent type (.bytes value) (some value)
  | json {type : WireType} (value : Json) (named : type.name = "json") :
    Value.Sent type (.json value) (some (textBytes (String.ofList value.compact)))
  | versionedJson {type : WireType} (value : Json) (binary : type = .jsonb) :
    Value.Sent type (.json value) (some (1 :: textBytes (String.ofList value.compact)))
  | timestamp {type : WireType} {value : Timestamp} {bytes : List UInt8}
      (named : type.name = "timestamptz") (length : bytes.length = 8)
      (read : signedOf bytes = value.microseconds) :
    Value.Sent type (.timestamp value) (some bytes)
  | uuid {type : WireType} (value : Uuid) (named : type.name = "uuid") :
    Value.Sent type (.uuid value) (some value.bytes)
  | array {name : String} {number : UInt32} {member : WireType} {lowerBound : Fin 2}
      {items : List Value} {encoded : List (Option (List UInt8))} {bytes : List UInt8}
      (read : array? bytes = some ⟨member.number.toNat, lowerBound.val, encoded⟩)
      (each : SentEach member items encoded) :
    Value.Sent (.array name number member lowerBound) (.array items) (some bytes)

/-- Each item of an array is sent for the member type. -/
inductive SentEach : WireType → List Value → List (Option (List UInt8)) → Prop
  | nil {member : WireType} : SentEach member [] []
  | cons {member : WireType} {item : Value} {rest : List Value}
      {first : Option (List UInt8)} {others : List (Option (List UInt8))}
      (sent : item.Sent member first) (each : SentEach member rest others) :
    SentEach member (item :: rest) (first :: others)

end

/-! ### Types that are right to begin with -/

mutual

/-- Whether the declared type can hold the values that do not look at it. Null
has no bytes; numbers and arrays look for themselves. -/
def Value.isDeclared (type : WireType) : Value → Bool
  | .null | .integer _ | .float _ => true
  | .bool _ => type.name = "bool"
  | .text _ => type.isText || type.isVersionedText
  | .bytes _ => type.name = "bytea"
  | .json _ => type.name = "json" || type = .jsonb
  | .timestamp _ => type.name = "timestamptz"
  | .uuid _ => type.name = "uuid"
  | .array items =>
    match type with
    | .array _ _ member _ => areDeclared member items
    | .scalar _ _ => true

/-- Every item of an array is declared as it should be. -/
def areDeclared (member : WireType) : List Value → Bool
  | [] => true
  | item :: rest => item.isDeclared member && areDeclared member rest

end

/-! ### Outcomes -/

section Outcomes

variable {Fault First Second : Type}

/-- Two actions succeed if the first does and then the second. -/
theorem bind_eq_ok_iff {action : Except Fault First} {next : First → Except Fault Second}
    {result : Second} :
    (action >>= next) = .ok result ↔ ∃ first, action = .ok first ∧ next first = .ok result := by
  cases action with
  | error fault => exact ⟨nofun, fun ⟨_, impossible, _⟩ => nomatch impossible⟩
  | ok first =>
    constructor
    · exact fun done => ⟨first, rfl, done⟩
    · rintro ⟨_, ⟨⟩, done⟩
      exact done

theorem map_some_eq_ok_iff {action : Except Fault First} {result : Option First} :
    action.map some = .ok result ↔ ∃ first, action = .ok first ∧ result = some first := by
  cases action with
  | error fault => exact ⟨nofun, fun ⟨_, impossible, _⟩ => nomatch impossible⟩
  | ok first =>
    constructor
    · rintro ⟨⟩
      exact ⟨first, rfl, rfl⟩
    · rintro ⟨_, ⟨⟩, rfl⟩
      rfl

/-- Two actions fail if the first does, or the second after it. -/
theorem bind_eq_error_iff {action : Except Fault First} {next : First → Except Fault Second}
    {fault : Fault} :
    (action >>= next) = .error fault ↔
      action = .error fault ∨ ∃ first, action = .ok first ∧ next first = .error fault := by
  cases action with
  | error other =>
    constructor
    · rintro ⟨⟩
      exact .inl rfl
    · rintro (⟨⟨⟩⟩ | ⟨_, ⟨⟩, _⟩)
      rfl
  | ok first =>
    constructor
    · exact fun fails => .inr ⟨first, rfl, fails⟩
    · rintro (⟨⟨⟩⟩ | ⟨_, ⟨⟩, fails⟩)
      exact fails

theorem map_some_eq_error {action : Except Fault First} {fault : Fault}
    (fails : action.map some = .error fault) : action = .error fault := by
  cases action with
  | error other =>
    cases fails
    rfl
  | ok first => cases fails

end Outcomes

/-- A length is taken exactly if four bytes can say it. -/
theorem Wire.checkLength_eq_ok_iff {length : Nat} :
    checkLength length = .ok () ↔ fits 4 length := by
  rw [checkLength]
  split
  · next fitting => exact ⟨fun _ => fitting, fun _ => rfl⟩
  · next exceeding => exact ⟨nofun, fun fitting => absurd fitting exceeding⟩

/-! ### Single values -/

/-- An integer is encoded exactly as the bytes of the width that spell it. -/
theorem Wire.integer_eq_ok_iff {value : Int} {type : WireType} {bytes : List UInt8} :
    Wire.integer value type = .ok bytes ↔
      ∃ width, integerWidth? type = some width ∧ bytes.length = width ∧
        signedOf bytes = value := by
  rw [Wire.integer]
  cases holds : integerWidth? type with
  | none => exact ⟨nofun, fun ⟨_, impossible, _⟩ => nomatch impossible⟩
  | some width =>
    have positive : 0 < width := by
      unfold integerWidth? at holds
      repeat' split at holds
      all_goals cases holds <;> decide
    have spelled := eq_signedBytes_iff positive value bytes
    constructor
    · intro done
      dsimp only at done
      split at done
      · next fitting =>
        cases done
        exact ⟨width, rfl, spelled.mp ⟨fitting, rfl⟩⟩
      · cases done
    · rintro ⟨_, same, read⟩
      cases same
      obtain ⟨fitting, rfl⟩ := spelled.mpr read
      exact if_pos fitting

/-- A number is encoded in single or in double precision, by the type. -/
theorem Wire.float_eq_ok_iff {value : Number.Binary64} {type : WireType} {bytes : List UInt8} :
    Wire.float value type = .ok bytes ↔
      (type = .float4 ∧ bytes.length = 4 ∧ naturalOf bytes = value.toSingle.toNat) ∨
        (type = .float8 ∧ bytes.length = 8 ∧ naturalOf bytes = value.bits.toNat) := by
  have single := eq_naturalBytes_iff (toNat_lt_fourBytes value.toSingle) bytes
  have small : value.bits.toNat < Nat.pow 256 8 := value.bits.toNat_lt_size
  have double := eq_naturalBytes_iff small bytes
  rw [Wire.float, ← single, ← double]
  split
  · next isSingle =>
    constructor
    · rintro ⟨⟩
      exact .inl ⟨isSingle, rfl⟩
    · rintro (⟨_, rfl⟩ | ⟨isDouble, _⟩)
      · rfl
      · exact absurd (isSingle.symm.trans isDouble) (by decide)
  · next notSingle =>
    split
    · next isDouble =>
      constructor
      · rintro ⟨⟩
        exact .inr ⟨isDouble, rfl⟩
      · rintro (⟨isSingle, _⟩ | ⟨_, rfl⟩)
        · exact absurd isSingle notSingle
        · rfl
    · next notDouble =>
      constructor
      · nofun
      · rintro (⟨isSingle, _⟩ | ⟨isDouble, _⟩)
        · exact absurd isSingle notSingle
        · exact absurd isDouble notDouble

/-- Every moment fits its eight bytes. -/
theorem Timestamp.fits_microseconds (moment : Timestamp) : fits 8 moment.microseconds := by
  obtain ⟨lower, upper⟩ := moment.seconds_inRange
  have within := moment.nanoseconds_inRange
  have half : Nat.pow 2 (8 * 8 - 1) = 9223372036854775808 := by decide
  have magnitude (whole : Int) : (whole.tdiv 1000).natAbs = whole.natAbs / 1000 :=
    Int.natAbs_tdiv whole 1000
  rw [fits_iff, half, microseconds, millennium]
  have bound := magnitude ((moment.seconds - 946684800) * 1000000000 + moment.nanoseconds)
  generalize Int.tdiv _ _ = quotient at bound ⊢
  omega

theorem utf8_toList (text : String) : utf8 text.toList = textBytes text := by
  rw [textBytes, String.toUTF8, ← String.utf8Encode_toList]
  simp [List.utf8Encode, utf8]

/-- A plain text type has no version in front. -/
theorem WireType.hasTextVersion_of_isText {type : WireType} (named : type.isText) :
    hasTextVersion type = false := by
  rw [WireType.isText, List.contains_iff_mem] at named
  simp only [List.mem_cons, List.mem_nil_iff, or_false] at named
  rcases named with named | named | named | named | named | named <;>
    rw [hasTextVersion, named] <;> rfl

theorem WireType.hasTextVersion_of_isVersionedText {type : WireType}
    (named : type.isVersionedText) : hasTextVersion type = true := by
  rw [WireType.isVersionedText, List.contains_iff_mem] at named
  simp only [List.mem_cons, List.mem_nil_iff, or_false] at named
  rcases named with named | named | named <;> rw [hasTextVersion, named] <;> rfl

theorem WireType.ne_jsonb_of_name {type : WireType} (named : type.name = "json") :
    type ≠ .jsonb := by
  rintro rfl
  exact absurd named (by decide)

theorem SentEach.length_eq {member : WireType} {items : List Value}
    {encoded : List (Option (List UInt8))} (each : SentEach member items encoded) :
    encoded.length = items.length := by
  match each with
  | .nil => rfl
  | .cons _ rest => exact congrArg (· + 1) rest.length_eq

/-! ### Values by kind -/

section Kinds

variable {type member : WireType} {encoded : Option (List UInt8)}

/-- What is said of a kind whose encoder does not look at the type: where one spelling is
sent and no other, the encoding succeeds as it is sent. -/
theorem ok_eq_iff_sent {value : Value} {spelled : Option (List UInt8)}
    (sent : value.Sent type spelled) (only : value.Sent type encoded → encoded = spelled) :
    (.ok spelled : Except WireFault (Option (List UInt8))) = .ok encoded ↔
      value.Sent type encoded := by
  constructor
  · rintro ⟨⟩
    exact sent
  · intro other
    rw [only other]

theorem Value.encode_integer_iff_sent {number : Int64} :
    (Value.integer number).encode type = .ok encoded ↔
      (Value.integer number).Sent type encoded := by
  rw [Value.encode, map_some_eq_ok_iff]
  constructor
  · rintro ⟨bytes, done, rfl⟩
    obtain ⟨width, holds, length, read⟩ := integer_eq_ok_iff.mp done
    exact .integer holds length read
  · intro sent
    cases sent with
    | integer holds length read =>
      exact ⟨_, integer_eq_ok_iff.mpr ⟨_, holds, length, read⟩, rfl⟩

theorem Value.encode_float_iff_sent {number : Number.Binary64} :
    (Value.float number).encode type = .ok encoded ↔
      (Value.float number).Sent type encoded := by
  rw [Value.encode, map_some_eq_ok_iff]
  constructor
  · rintro ⟨bytes, done, rfl⟩
    rcases float_eq_ok_iff.mp done with ⟨single, length, read⟩ | ⟨double, length, read⟩
    · exact .single single length read
    · exact .double double length read
  · intro sent
    cases sent with
    | single single length read =>
      exact ⟨_, float_eq_ok_iff.mpr (.inl ⟨single, length, read⟩), rfl⟩
    | double double length read =>
      exact ⟨_, float_eq_ok_iff.mpr (.inr ⟨double, length, read⟩), rfl⟩

/-- The version in front of a text is that of the type. -/
theorem Value.encode_text_iff_sent {contents : String}
    (declared : type.isText || type.isVersionedText) :
    (Value.text contents).encode type = .ok encoded ↔
      (Value.text contents).Sent type encoded := by
  rw [Value.encode, utf8_toList]
  rcases Bool.or_eq_true_iff.mp declared with named | named
  · have plain := WireType.hasTextVersion_of_isText named
    rw [plain]
    refine ok_eq_iff_sent (.text contents named) fun sent => ?_
    cases sent with
    | text _ _ => rfl
    | versionedText _ other =>
      exact absurd (plain.symm.trans (WireType.hasTextVersion_of_isVersionedText other)) nofun
  · have versioned := WireType.hasTextVersion_of_isVersionedText named
    rw [versioned]
    refine ok_eq_iff_sent (.versionedText contents named) fun sent => ?_
    cases sent with
    | text _ other =>
      exact absurd (versioned.symm.trans (WireType.hasTextVersion_of_isText other)) nofun
    | versionedText _ _ => rfl

/-- Only one of the two types of documents has a version in front. -/
theorem Value.encode_json_iff_sent {document : Json}
    (declared : type.name = "json" || type = .jsonb) :
    (Value.json document).encode type = .ok encoded ↔
      (Value.json document).Sent type encoded := by
  have spelled := utf8_toList (String.ofList document.compact)
  rw [String.toList_ofList] at spelled
  rw [Value.encode, spelled]
  rcases Bool.or_eq_true_iff.mp declared with named | binary
  · have named := of_decide_eq_true named
    rw [decide_eq_false (WireType.ne_jsonb_of_name named)]
    refine ok_eq_iff_sent (.json document named) fun sent => ?_
    cases sent with
    | json _ _ => rfl
    | versionedJson _ binary => exact absurd binary (WireType.ne_jsonb_of_name named)
  · have binary := of_decide_eq_true binary
    rw [decide_eq_true binary]
    refine ok_eq_iff_sent (.versionedJson document binary) fun sent => ?_
    cases sent with
    | json _ named => exact absurd binary (WireType.ne_jsonb_of_name named)
    | versionedJson _ _ => rfl

theorem Value.encode_timestamp_iff_sent {moment : Timestamp}
    (named : type.name = "timestamptz") :
    (Value.timestamp moment).encode type = .ok encoded ↔
      (Value.timestamp moment).Sent type encoded := by
  have spelled (bytes : List UInt8) :=
    eq_signedBytes_iff (show 0 < 8 by decide) moment.microseconds bytes
  obtain ⟨length, read⟩ := (spelled _).mp ⟨moment.fits_microseconds, rfl⟩
  refine ok_eq_iff_sent (.timestamp named length read) fun sent => ?_
  cases sent with
  | timestamp _ otherLength otherRead =>
    rw [((spelled _).mpr ⟨otherLength, otherRead⟩).2]

variable {name : String} {number : UInt32} {lowerBound : Fin 2} {items : List Value}

/-- A list is encoded for an array exactly if its length can be said and its items are
encoded for the member type. -/
theorem Value.encode_array_eq_ok_iff :
    (Value.array items).encode (.array name number member lowerBound) = .ok encoded ↔
      fits 4 items.length ∧ ∃ sent, Value.encodeItems member items = .ok sent ∧
        encoded = some (arrayBytes member lowerBound sent) := by
  rw [Value.encode, bind_eq_ok_iff]
  constructor
  · rintro ⟨_, length, onward⟩
    obtain ⟨sent, done, same⟩ := bind_eq_ok_iff.mp onward
    cases same
    exact ⟨checkLength_eq_ok_iff.mp length, sent, done, rfl⟩
  · rintro ⟨length, sent, done, rfl⟩
    exact ⟨(), checkLength_eq_ok_iff.mpr length, bind_eq_ok_iff.mpr ⟨sent, done, rfl⟩⟩

/-- The bytes in which an array is read are those that it is written as. -/
theorem Value.sent_array_iff :
    (Value.array items).Sent (.array name number member lowerBound) encoded ↔
      fits 4 items.length ∧ ∃ sent, (SentEach member items sent ∧ ∀ item ∈ sent, ItemFits item) ∧
        encoded = some (arrayBytes member lowerBound sent) := by
  constructor
  · intro sent
    cases sent with
    | array read each =>
      obtain ⟨length, fitting, rfl⟩ := eq_arrayBytes_of_array? read
      rw [each.length_eq] at length
      exact ⟨length, _, ⟨each, fitting⟩, rfl⟩
  · rintro ⟨length, sent, ⟨each, fitting⟩, rfl⟩
    rw [← each.length_eq] at length
    exact .array (array?_arrayBytes length fitting) each

end Kinds

/-! ### All values -/

mutual

/-- A value whose type is right to begin with is sent as what it is and as
nothing else, or refused. -/
theorem Value.encode_eq_ok_iff (type : WireType) (value : Value)
    (declared : value.isDeclared type) (encoded : Option (List UInt8)) :
    value.encode type = .ok encoded ↔ value.Sent type encoded := by
  match value with
  | .null => exact ok_eq_iff_sent .null fun sent => by cases sent; rfl
  | .bool flag =>
    have named : type.name = "bool" := of_decide_eq_true declared
    exact ok_eq_iff_sent (.bool flag named) fun sent => by cases sent; rfl
  | .integer _ => exact Value.encode_integer_iff_sent
  | .float _ => exact Value.encode_float_iff_sent
  | .text _ => exact Value.encode_text_iff_sent declared
  | .bytes contents =>
    have named : type.name = "bytea" := of_decide_eq_true declared
    exact ok_eq_iff_sent (.bytes contents named) fun sent => by cases sent; rfl
  | .json _ => exact Value.encode_json_iff_sent declared
  | .timestamp _ => exact Value.encode_timestamp_iff_sent (of_decide_eq_true declared)
  | .uuid identifier =>
    have named : type.name = "uuid" := of_decide_eq_true declared
    exact ok_eq_iff_sent (.uuid identifier named) fun sent => by cases sent; rfl
  | .array items =>
    match type with
    | .scalar name number => exact ⟨nofun, nofun⟩
    | .array name number member lowerBound =>
      have sentEach := encodeItems_eq_ok_iff member items declared
      rw [Value.encode_array_eq_ok_iff, Value.sent_array_iff]
      simp only [sentEach]

/-- Items are encoded exactly as they are sent, if their lengths fit. -/
theorem encodeItems_eq_ok_iff (member : WireType) (items : List Value)
    (declared : areDeclared member items) (encoded : List (Option (List UInt8))) :
    Value.encodeItems member items = .ok encoded ↔
      SentEach member items encoded ∧ ∀ item ∈ encoded, ItemFits item := by
  match items with
  | [] =>
    constructor
    · rintro ⟨⟩
      exact ⟨.nil, nofun⟩
    · rintro ⟨⟨⟩, _⟩
      rfl
  | item :: rest =>
    obtain ⟨itemDeclared, restDeclared⟩ := Bool.and_eq_true_iff.mp declared
    have sent := item.encode_eq_ok_iff member itemDeclared
    have sentRest := encodeItems_eq_ok_iff member rest restDeclared
    rw [Value.encodeItems, bind_eq_ok_iff]
    constructor
    · rintro ⟨first, done, onward⟩
      obtain ⟨_, length, onward⟩ := bind_eq_ok_iff.mp onward
      obtain ⟨others, doneRest, same⟩ := bind_eq_ok_iff.mp onward
      cases same
      obtain ⟨each, fitting⟩ := (sentRest others).mp doneRest
      exact ⟨.cons ((sent first).mp done) each,
        List.forall_mem_cons.mpr ⟨checkLength_eq_ok_iff.mp length, fitting⟩⟩
    · rintro ⟨each, fitting⟩
      cases each with
      | cons sentFirst others =>
        obtain ⟨firstFits, restFit⟩ := List.forall_mem_cons.mp fitting
        exact ⟨_, (sent _).mpr sentFirst, bind_eq_ok_iff.mpr ⟨(),
          checkLength_eq_ok_iff.mpr firstFits,
          bind_eq_ok_iff.mpr ⟨_, (sentRest _).mpr ⟨others, restFit⟩, rfl⟩⟩⟩

end

/-! ### Refusals -/

/-- The type itself and the types of its members, at any depth. -/
def WireType.nested : WireType → List WireType
  | .scalar name number => [.scalar name number]
  | .array name number member lowerBound =>
    .array name number member lowerBound :: member.nested

theorem WireType.mem_nested_self (type : WireType) : type ∈ type.nested := by
  cases type <;> exact List.mem_cons_self

/-- What is refused for an integer is the type it was declared with. -/
theorem Wire.refused_integer {value : Int} {type refused : WireType}
    (fault : Wire.integer value type = .error (.wrongType refused)) : refused = type := by
  unfold Wire.integer at fault
  split at fault
  · cases fault
    rfl
  · split at fault <;> cases fault

theorem Wire.refused_float {value : Number.Binary64} {type refused : WireType}
    (fault : Wire.float value type = .error (.wrongType refused)) : refused = type := by
  unfold Wire.float at fault
  repeat' split at fault
  all_goals cases fault
  rfl

theorem Wire.checkLength_ne_wrongType (length : Nat) (refused : WireType) :
    checkLength length ≠ .error (.wrongType refused) := by
  unfold checkLength
  split <;> nofun

mutual

/-- A value that is refused for a type names the declared type, or the type of the
members that the refused item was written for. -/
theorem Value.mem_nested_of_refused (type : WireType) (value : Value) {refused : WireType}
    (fault : value.encode type = .error (.wrongType refused)) : refused ∈ type.nested := by
  match value with
  | .null | .bool _ | .text _ | .bytes _ | .json _ | .timestamp _ | .uuid _ => exact nomatch fault
  | .integer _ =>
    rw [Wire.refused_integer (map_some_eq_error fault)]
    exact type.mem_nested_self
  | .float _ =>
    rw [Wire.refused_float (map_some_eq_error fault)]
    exact type.mem_nested_self
  | .array items =>
    cases type with
    | scalar name number =>
      cases fault
      exact WireType.mem_nested_self _
    | array name number member lowerBound =>
      rw [Value.encode, bind_eq_error_iff] at fault
      obtain impossible | ⟨_, _, onward⟩ := fault
      · exact absurd impossible (checkLength_ne_wrongType _ _)
      · obtain itemFault | ⟨_, _, impossible⟩ := bind_eq_error_iff.mp onward
        · exact List.mem_cons_of_mem _ (mem_nested_of_refused_items member items itemFault)
        · cases impossible

/-- The type that is refused for an item is the member type or one inside it. -/
theorem mem_nested_of_refused_items (member : WireType) (items : List Value)
    {refused : WireType}
    (fault : Value.encodeItems member items = .error (.wrongType refused)) :
    refused ∈ member.nested := by
  match items with
  | [] => cases fault
  | item :: rest =>
    rw [Value.encodeItems, bind_eq_error_iff] at fault
    obtain itemFault | ⟨_, _, onward⟩ := fault
    · exact item.mem_nested_of_refused member itemFault
    · obtain impossible | ⟨_, _, onward⟩ := bind_eq_error_iff.mp onward
      · exact absurd impossible (checkLength_ne_wrongType _ _)
      · obtain restFault | ⟨_, _, impossible⟩ := bind_eq_error_iff.mp onward
        · exact mem_nested_of_refused_items member rest restFault
        · cases impossible

end

/-! ### Sent or refused -/

/-- A value whose type is right to begin with is either sent in the one way in
which a server reads the value for the type, or refused, and then the type has
no way to read it. -/
theorem Value.encode_sent_or_refused (type : WireType) (value : Value)
    (declared : value.isDeclared type) :
    (∃ encoded, value.encode type = .ok encoded ∧
      ∀ other, value.Sent type other ↔ other = encoded) ∨
    ∃ fault, value.encode type = .error fault ∧ ∀ other, ¬ value.Sent type other := by
  have exact := value.encode_eq_ok_iff type declared
  cases done : value.encode type with
  | ok encoded =>
    refine .inl ⟨encoded, rfl, fun other => ?_⟩
    rw [← exact, done, Except.ok.injEq]
    exact eq_comm
  | error fault =>
    refine .inr ⟨fault, rfl, fun other sent => ?_⟩
    have impossible := (exact other).mpr sent
    rw [done] at impossible
    cases impossible

/-- A list of tags, the second of which is missing. -/
def tags : Value :=
  .array [.text "é", .null]

/-- The list as it is sent: one dimension, with nulls, of texts, two items from
the first on, and the items. -/
def tagBytes : List UInt8 :=
  [0, 0, 0, 1, 0, 0, 0, 1, 0, 0, 0, 25, 0, 0, 0, 2, 0, 0, 0, 1,
    0, 0, 0, 2, 0xC3, 0xA9, 0xFF, 0xFF, 0xFF, 0xFF]

theorem tags_sent_or_refused :
    tags.isDeclared (.ofName "_text") ∧ tags.encode (.ofName "_text") = .ok (some tagBytes) ∧
      ∀ other, tags.Sent (.ofName "_text") other ↔ other = some tagBytes := by
  have catalog : WireType.ofName "_text" = .array "_text" 0 (.scalar "text" 25) 1 := rfl
  have declared : tags.isDeclared (.ofName "_text") := by
    rw [catalog]
    rfl
  have sent : tags.Sent (.ofName "_text") (some tagBytes) := by
    have read : array? tagBytes = some ⟨25, 1, [some [0xC3, 0xA9], none]⟩ := by decide +kernel
    rw [catalog]
    exact .array read (.cons (.text "é" rfl) (.cons .null .nil))
  rcases tags.encode_sent_or_refused (.ofName "_text") declared with
    ⟨encoded, done, only⟩ | ⟨_, _, none⟩
  · obtain rfl := (only _).mp sent
    exact ⟨declared, done, only⟩
  · exact absurd sent (none _)

/-- A text of four digits that is declared an integer is neither sent as what it
is nor refused: the server reads another number. -/
theorem digits_sent_as_integer :
    (Value.text "1234").encode (.ofName "int4") = .ok (some [0x31, 0x32, 0x33, 0x34]) ∧
    (∀ encoded, ¬ (Value.text "1234").Sent (.ofName "int4") encoded) ∧
    (Value.integer 825373492).Sent (.ofName "int4") (some [0x31, 0x32, 0x33, 0x34]) := by
  have number : signedOf [0x31, 0x32, 0x33, 0x34] = (825373492 : Int64).toInt := by decide
  refine ⟨rfl, ?_, .integer rfl rfl number⟩
  intro encoded sent
  cases sent with
  | text _ named => exact absurd named (by decide)
  | versionedText _ named => exact absurd named (by decide)

end SqlTree
