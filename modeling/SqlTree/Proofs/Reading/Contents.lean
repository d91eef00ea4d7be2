/-
This file reads the contents of a string as a constant of a given kind, by the
rules of the database for the input of that kind. The characters that a scalar
is written with are read as the scalar. A number with a point and a moment are
left as their text, and bytes are read in their hexadecimal form only.

A literal is a string, and its contents are what the input function of a type is
given. So these are the input functions of the database, as far as a scalar needs
them: they skip blanks around a number, they take several words for a truth value,
they read digits in both cases. What a scalar is written with is one of the many
forms that they accept, and for each kind it is shown that they read it as the
scalar and not as another. Numbers with a point are left out on purpose, since
what they are read as depends on the type of the column.
-/

import SqlTree.Proofs.Reading.Literal

namespace SqlTree

/-- What a literal stands for. -/
inductive Constant where
  | null
  | bool (value : Bool)
  | integer (value : Int64)
  | text (contents : String)
  | bytes (value : List UInt8)
  /-- JSON as the text that it is written with. -/
  | json (text : String)
  | uuid (value : Uuid)
  /-- A number with a point or a moment, as the text that it is written with. -/
  | other (text : String)
  | array (items : List Constant)

/-- What the contents of a string are asked to be. -/
inductive Constant.Kind where
  | bool
  | integer
  | text
  | bytes
  | json
  | uuid
  | other
  deriving DecidableEq

namespace Value

mutual

/-- What the literal of the scalar stands for. -/
def constant : Value → Constant
  | .null => .null
  | .bool value => .bool value
  | .integer value => .integer value
  | .float value => .other (String.ofList (Quote.floatChars value))
  | .text value => .text value
  | .bytes value => .bytes value
  | .json value => .json (String.ofList value.compact)
  | .timestamp value => .other (String.ofList value.plain)
  | .uuid value => .uuid value
  | .array items => .array (constants items)

/-- The constants that the items of an array stand for. -/
def constants : List Value → List Constant
  | [] => []
  | item :: rest => item.constant :: constants rest

end

mutual

/-- The kinds of the strings in the literal of the scalar, in their order. -/
def leafKinds : Value → List Constant.Kind
  | .null => []
  | .bool _ => [.bool]
  | .integer _ => [.integer]
  | .float _ => [.other]
  | .text _ => [.text]
  | .bytes _ => [.bytes]
  | .json _ => [.json]
  | .timestamp _ => [.other]
  | .uuid _ => [.uuid]
  | .array items => itemKinds items

/-- The kinds of the strings in an array, in the order in which they are read. -/
def itemKinds : List Value → List Constant.Kind
  | [] => []
  | item :: rest => item.leafKinds ++ itemKinds rest

end

end Value

namespace Reading

/-! ### Rules of input -/

/-- The characters without the blanks around them. -/
def trimmed (chars : List Char) : List Char :=
  ((chars.dropWhile isBlank).reverse.dropWhile isBlank).reverse

/-- Whether the word is the whole or as much of its beginning as it takes. -/
def isBeginning (word : List Char) (whole : String × Nat) : Bool :=
  whole.2 ≤ word.length && word.isPrefixOf whole.1.toList

/-- A truth value, as one of several words or as the beginning of one. -/
def boolean? (contents : List Char) : Option Bool :=
  let word := (trimmed contents).map Char.toLower
  if [("true", 1), ("yes", 1), ("on", 2), ("1", 1)].any (isBeginning word) then some true
  else if [("false", 1), ("no", 1), ("off", 2), ("0", 1)].any (isBeginning word) then some false
  else none

/-- A natural number in digits. -/
def decimal? (digits : List Char) : Option Nat :=
  if digits ≠ [] ∧ digits.all Char.isDigit then some (Nat.ofDigitChars 10 digits 0) else none

/-- Decimal digits after a sign or without one. -/
def signed? : List Char → Option Int
  | [] => none
  | char :: rest =>
    if char = '-' then (decimal? rest).map fun size : Nat => -(size : Int)
    else if char = '+' then (decimal? rest).map Int.ofNat
    else (decimal? (char :: rest)).map Int.ofNat

/-- An integer of eight bytes; one out of their range is refused. -/
def integer? (contents : List Char) : Option Int64 := do
  let value ← signed? (trimmed contents)
  if Int64.minValue.toInt ≤ value ∧ value ≤ Int64.maxValue.toInt then some (.ofInt value) else none

/-- Bytes behind a backslash and an `x`, two digits for each. -/
def hexadecimal? : List Char → Option (List UInt8)
  | '\\' :: 'x' :: digits => Hex.bytes? digits
  | _ => none

/-- The contents of a string as a constant of the kind. -/
def constantOf? (contents : List Char) : Constant.Kind → Option Constant
  | .bool => (boolean? contents).map .bool
  | .integer => (integer? contents).map .integer
  | .text => some (.text (String.ofList contents))
  | .bytes => (hexadecimal? contents).map .bytes
  | .json => some (.json (String.ofList contents))
  | .uuid => (Uuid.ofText? contents).map .uuid
  | .other => some (.other (String.ofList contents))

end Reading

/-! ### Hexadecimal -/

/-- A digit is read as its value. -/
theorem Hex.value?_digit : ∀ value < 16, value? (digit value) = some value := by
  decide

/-- Bytes are read back from their digits. -/
theorem Hex.bytes?_ofBytes (bytes : List UInt8) : bytes? (ofBytes bytes) = some bytes := by
  induction bytes with
  | nil => rfl
  | cons byte rest inductionHypothesis =>
    have least : byte.toNat < 256 := byte.toNat_lt
    have high := value?_digit (byte.toNat / 16) (by omega)
    have low := value?_digit (byte.toNat % 16) (by omega)
    rw [ofBytes] at inductionHypothesis
    rw [ofBytes, List.flatMap_cons, ofByte, List.cons_append, List.cons_append, List.nil_append,
      bytes?, high, low, inductionHypothesis]
    simp only [Option.bind_eq_bind, Option.bind_some, Nat.div_add_mod, UInt8.ofNat_toNat]
    rfl

theorem Hex.digit_ne_hyphen : ∀ value < 16, digit value ≠ '-' := by
  decide

/-- No hyphen is among the digits of bytes. -/
theorem Hex.filter_ofBytes (bytes : List UInt8) :
    (ofBytes bytes).filter (· ≠ '-') = ofBytes bytes := by
  refine List.filter_eq_self.mpr fun char member => ?_
  obtain ⟨byte, -, digit⟩ := List.mem_flatMap.mp member
  have least : byte.toNat < 256 := byte.toNat_lt
  rw [ofByte, List.mem_cons, List.mem_singleton] at digit
  rw [decide_eq_true_eq]
  rcases digit with rfl | rfl
  · exact digit_ne_hyphen _ (by omega)
  · exact digit_ne_hyphen _ (by omega)

/-- Each byte has two digits. -/
theorem Hex.length_ofBytes (bytes : List UInt8) : (ofBytes bytes).length = 2 * bytes.length := by
  induction bytes with
  | nil => rfl
  | cons byte rest inductionHypothesis =>
    rw [ofBytes] at inductionHypothesis
    rw [ofBytes, List.flatMap_cons, List.length_append, inductionHypothesis, List.length_cons]
    show 2 + 2 * rest.length = 2 * (rest.length + 1)
    omega

theorem Hex.ofBytes_append (first second : List UInt8) :
    ofBytes first ++ ofBytes second = ofBytes (first ++ second) :=
  List.flatMap_append.symm

namespace Uuid

/-- The groups of an identifier are all of it. -/
theorem join_groups (identifier : Uuid) :
    (identifier.bytes.drop 0).take 4 ++ ((identifier.bytes.drop 4).take 2
      ++ ((identifier.bytes.drop 6).take 2 ++ ((identifier.bytes.drop 8).take 2
        ++ (identifier.bytes.drop 10).take 6))) = identifier.bytes := by
  have pair (start count : Nat) : (identifier.bytes.drop start).take count
      ++ identifier.bytes.drop (start + count) = identifier.bytes.drop start := by
    rw [← List.drop_drop, List.take_append_drop]
  have size : (identifier.bytes.drop 10).length = 6 := by
    rw [List.length_drop, identifier.length_bytes]
  have last : (identifier.bytes.drop 10).take 6 = identifier.bytes.drop 10 :=
    List.take_of_length_le (Nat.le_of_eq size)
  rw [last, pair 8 2, pair 6 2, pair 4 2, pair 0 4, List.drop_zero]

/-- Where the hyphens are in groups of the right sizes. -/
theorem hyphens {first second third fourth last : List Char} (firstSize : first.length = 8)
    (secondSize : second.length = 4) (thirdSize : third.length = 4) (fourthSize : fourth.length = 4)
    (lastSize : last.length = 12) :
    let joined := first ++ '-' :: second ++ '-' :: third ++ '-' :: fourth ++ '-' :: last
    joined.length = 36 ∧ joined[8]? = some '-' ∧ joined[13]? = some '-' ∧
      joined[18]? = some '-' ∧ joined[23]? = some '-' := by
  simp only [List.length_append, List.length_cons, List.getElem?_append, List.getElem?_cons,
    firstSize, secondSize, thirdSize, fourthSize, lastSize]
  simp

/-- An identifier is read back. Its hyphens stand where they are looked for, because its
groups have fixed lengths. -/
theorem ofText?_text (identifier : Uuid) : ofText? identifier.text = some identifier := by
  have size (start count : Nat) (within : start + count ≤ 16) :
      (Hex.ofBytes ((identifier.bytes.drop start).take count)).length = 2 * count := by
    rw [Hex.length_ofBytes, List.length_take, List.length_drop, identifier.length_bytes]
    omega
  have digits : identifier.text.filter (· ≠ '-') = Hex.ofBytes identifier.bytes := by
    have noHyphen (rest : List Char) :
        ('-' :: rest).filter (· ≠ '-') = rest.filter (· ≠ '-') := rfl
    rw [← identifier.join_groups]
    simp only [text, List.filter_append, noHyphen, Hex.filter_ofBytes, List.append_assoc,
      ← Hex.ofBytes_append]
  have shape : identifier.text.length = 36 ∧ identifier.text[8]? = some '-' ∧
      identifier.text[13]? = some '-' ∧ identifier.text[18]? = some '-' ∧
      identifier.text[23]? = some '-' :=
    hyphens (size 0 4 (by decide)) (size 4 2 (by decide)) (size 6 2 (by decide))
      (size 8 2 (by decide)) (size 10 6 (by decide))
  unfold ofText?
  dsimp only
  rw [if_pos shape, digits, Hex.bytes?_ofBytes]
  exact dif_pos identifier.length_bytes

end Uuid

namespace Reading

/-! ### What scalars are written with -/

/-- Without blanks there is nothing to skip. -/
theorem trimmed_eq_self {chars : List Char} (solid : ∀ char ∈ chars, ¬ isBlank char) :
    trimmed chars = chars := by
  have kept (same : List Char) (solid : ∀ char ∈ same, ¬ isBlank char) :
      same.dropWhile isBlank = same := by
    cases same with
    | nil => rfl
    | cons char rest => exact List.dropWhile_cons_of_neg (solid char List.mem_cons_self)
  rw [trimmed, kept chars solid, kept chars.reverse fun char member =>
    solid char (List.mem_reverse.mp member), List.reverse_reverse]

/-- A natural number is read back from its digits. -/
theorem decimal?_natural (value : Nat) : decimal? (Digits.natural value) = some value := by
  have digits : (Digits.natural value).all Char.isDigit :=
    List.all_eq_true.mpr fun _ member => isDigit_of_mem_natural member
  rw [decimal?, if_pos ⟨Nat.toDigits_ne_nil, digits⟩]
  exact congrArg some Nat.ofDigitChars_ten_toDigits

/-- So is an integer, with its sign. -/
theorem signed?_integer (value : Int) : signed? (Digits.integer value) = some value := by
  have read := decimal?_natural value.natAbs
  rw [Digits.integer]
  split
  · next negative =>
    have same : -(value.natAbs : Int) = value := by omega
    rw [signed?, if_pos rfl, read, Option.map_some, same]
  · next positive =>
    -- The first digit is not a sign.
    have digits := @isDigit_of_mem_natural value.natAbs
    cases whole : Digits.natural value.natAbs with
    | nil => exact absurd whole Nat.toDigits_ne_nil
    | cons char rest =>
      rw [whole] at read digits
      have digit := digits List.mem_cons_self
      have noMinus : char ≠ '-' := fun same => absurd (same ▸ digit) (by decide)
      have noPlus : char ≠ '+' := fun same => absurd (same ▸ digit) (by decide)
      have same : (value.natAbs : Int) = value := by omega
      rw [signed?, if_neg noMinus, if_neg noPlus, read, Option.map_some, Int.ofNat_eq_natCast, same]

/-- Neither digits nor a sign are blanks. -/
theorem not_isBlank_integer (value : Int) :
    ∀ char ∈ Digits.integer value, ¬ isBlank char := by
  have digits : ∀ char ∈ Digits.natural value.natAbs, ¬ isBlank char := by
    intro char member blank
    have digit := isDigit_of_mem_natural member
    rw [isBlank, List.contains_iff_mem] at blank
    simp only [List.mem_cons, List.not_mem_nil, or_false] at blank
    rcases blank with rfl | rfl | rfl | rfl | rfl | rfl <;> exact absurd digit (by decide)
  rw [Digits.integer]
  split
  · exact List.forall_mem_cons.mpr ⟨by decide, digits⟩
  · exact digits

/-- An integer of eight bytes is read back, and does not exceed what eight
bytes hold. -/
theorem integer?_integer (value : Int64) :
    integer? (Digits.integer value.toInt) = some value := by
  have within : Int64.minValue.toInt ≤ value.toInt ∧ value.toInt ≤ Int64.maxValue.toInt :=
    ⟨value.minValue_le_toInt, value.toInt_le⟩
  rw [integer?, trimmed_eq_self (not_isBlank_integer _), signed?_integer]
  show (if _ then some (Int64.ofInt value.toInt) else none) = some value
  rw [if_pos within, Int64.ofInt_toInt]

theorem constantOf?_bool (value : Bool) :
    constantOf? (if value then ['t'] else ['f']) .bool = some (.bool value) := by
  cases value <;> rfl

theorem constantOf?_integer (value : Int64) :
    constantOf? (Digits.integer value.toInt) .integer = some (.integer value) := by
  rw [constantOf?, integer?_integer]
  rfl

theorem constantOf?_bytes (value : List UInt8) :
    constantOf? ('\\' :: 'x' :: Hex.ofBytes value) .bytes = some (.bytes value) := by
  rw [constantOf?, hexadecimal?, Hex.bytes?_ofBytes]
  rfl

theorem constantOf?_uuid (value : Uuid) : constantOf? value.text .uuid = some (.uuid value) := by
  rw [constantOf?, Uuid.ofText?_text]
  rfl

end Reading

end SqlTree
