/-
This file reads literals and placeholders back. The literal of a scalar has
tokens that depend on the kind of the scalar alone, but for the strings in it:
a text is a single string, whatever it contains.

Most scalars have literals of a few harmless characters: digits, letters, signs.
For these it is enough that no quote and no backslash is among them, because
quoting then changes nothing. A text can have anything in it. It gets an `E` in
front if it has a backslash, and quotes and backslashes in it are doubled; the
reader undoes just that. Bytes are written with an `E` in any case. The literal of
an array is those of its items between brackets, so the tokens of a literal can be
put together along the scalar.
-/

import SqlTree.Parameters
import SqlTree.Proofs.Reading.Bracket
import SqlTree.Proofs.Reading.Seam

namespace SqlTree.Reading

open Quote

/-! ### Texts -/

/-- Inside a string the doubled characters of a text are read as the text. Without an
`E` in front there is no backslash among them. -/
theorem scan_literalChars (escapes : Bool) (contents rest : List Char)
    (readable : escapes = false → '\\' ∉ rest) :
    scan (.string escapes contents) (rest.flatMap literalChar) =
      some (.string escapes (contents ++ rest), []) := by
  induction rest generalizing contents with
  | nil => rw [List.append_nil]; rfl
  | cons char rest inductionHypothesis =>
    rw [List.append_cons, List.flatMap_cons]
    have single : scan (.string escapes contents) (literalChar char) =
        some (.string escapes (contents ++ [char]), []) := by
      by_cases quote : char = '\''
      · subst quote
        rfl
      by_cases backslash : char = '\\'
      · subst backslash
        cases escapes with
        | true => rfl
        | false => exact absurd List.mem_cons_self (readable rfl)
      · rw [literalChar, if_neg (not_or.mpr ⟨quote, backslash⟩)]
        simp only [scan, Mode.next, if_neg quote, if_neg backslash]
        rfl
    exact scan_append single
      (inductionHypothesis _ fun plain member => readable plain (List.mem_cons_of_mem _ member))

/-- A text is one string, whatever it contains. -/
theorem reads_textChars (text : List Char) : Reads (textChars text) [.string text] := by
  have body (escapes : Bool) (readable : escapes = false → '\\' ∉ text) :
      scan (.string escapes []) (text.flatMap literalChar ++ ['\'']) =
        some (.stringQuote escapes text, []) :=
    scan_append (scan_literalChars escapes [] text readable) rfl
  rw [textChars]
  by_cases backslash : text.contains '\\'
  · rw [if_pos backslash]
    have opened : scan .gap ['E', '\''] = some (.string true [], []) := rfl
    exact reads_iff.mpr ⟨.stringQuote true text, [], [.string text],
      scan_append opened (body true fun plain => absurd plain.symm Bool.false_ne_true), rfl, rfl⟩
  · rw [if_neg backslash]
    have opened : scan .gap ['\''] = some (.string false [], []) := rfl
    exact reads_iff.mpr ⟨.stringQuote false text, [], [.string text],
      scan_append opened (body false fun _ member =>
        backslash (List.contains_iff_mem.mpr member)), rfl, rfl⟩

/-! ### Strings without escapes -/

/-- Whether the characters stand for themselves in quotes. -/
def isPlain (chars : List Char) : Bool :=
  chars.all fun char => char ≠ '\'' && char ≠ '\\'

theorem isPlain_append (first second : List Char) :
    isPlain (first ++ second) = (isPlain first && isPlain second) :=
  List.all_append

theorem isPlain_cons (char : Char) (rest : List Char) :
    isPlain (char :: rest) = ((char ≠ '\'' && char ≠ '\\') && isPlain rest) :=
  rfl

theorem isPlain_replicate_zero (count : Nat) : isPlain (List.replicate count '0') := by
  refine List.all_eq_true.mpr fun char member => ?_
  rw [(List.mem_replicate.mp member).2]
  rfl

theorem isPlain_take {chars : List Char} (plain : isPlain chars) (count : Nat) :
    isPlain (chars.take count) :=
  List.all_eq_true.mpr fun char member =>
    List.all_eq_true.mp plain char (List.mem_of_mem_take member)

theorem isPlain_drop {chars : List Char} (plain : isPlain chars) (count : Nat) :
    isPlain (chars.drop count) :=
  List.all_eq_true.mpr fun char member =>
    List.all_eq_true.mp plain char (List.mem_of_mem_drop member)

/-- Quoting does not change characters that need no quoting. -/
theorem flatMap_literalChar {chars : List Char} (plain : isPlain chars) :
    chars.flatMap literalChar = chars := by
  induction chars with
  | nil => rfl
  | cons char rest inductionHypothesis =>
    obtain ⟨this, others⟩ := Bool.and_eq_true_iff.mp plain
    have single : literalChar char = [char] := by
      rw [Bool.and_eq_true, decide_eq_true_eq, decide_eq_true_eq] at this
      exact if_neg (not_or.mpr this)
    rw [List.flatMap_cons, single, inductionHypothesis others]
    rfl

/-- Such characters are a text like any other. -/
theorem enclosed_eq_textChars {chars : List Char} (plain : isPlain chars) :
    enclosed chars = textChars chars := by
  have noBackslash : ¬ chars.contains '\\' := by
    intro backslash
    exact absurd (List.all_eq_true.mp plain _ (List.contains_iff_mem.mp backslash)) (by decide)
  rw [enclosed, textChars, if_neg noBackslash, flatMap_literalChar plain]
  rfl

/-! ### The characters of the scalars -/

/-- Digits need no quoting. -/
theorem isPlain_natural (value : Nat) : isPlain (Digits.natural value) := by
  refine List.all_eq_true.mpr fun char member => ?_
  have digit : char.isDigit := Nat.isDigit_of_mem_toDigits (by decide) (by decide) member
  rw [Bool.and_eq_true, decide_eq_true_eq, decide_eq_true_eq]
  constructor <;>
  · rintro rfl
    exact absurd digit (by decide)

theorem isPlain_padded (width value : Nat) : isPlain (Digits.padded width value) := by
  rw [Digits.padded, isPlain_append, isPlain_replicate_zero, isPlain_natural]
  rfl

theorem isPlain_integer (value : Int) : isPlain (Digits.integer value) := by
  rw [Digits.integer]
  split
  · rw [isPlain_cons, isPlain_natural]
    rfl
  · exact isPlain_natural _

theorem isPlain_positional (decimal : Number.Decimal) : isPlain decimal.positional := by
  have digits : isPlain decimal.digits := isPlain_natural _
  unfold Number.Decimal.positional
  dsimp only
  split
  · rw [isPlain_append, digits, isPlain_replicate_zero]
    rfl
  split
  · rw [isPlain_append, isPlain_cons, isPlain_take digits, isPlain_drop digits]
    rfl
  · rw [isPlain_cons, isPlain_cons, isPlain_append, isPlain_replicate_zero, digits]
    rfl

theorem isPlain_sign (number : Number.Binary64) : isPlain number.sign := by
  rw [Number.Binary64.sign]
  split <;> rfl

/-- A number has digits, signs and points, or is written as a word. -/
theorem isPlain_floatChars (number : Number.Binary64) : isPlain (floatChars number) := by
  rw [floatChars]
  split
  · rw [isPlain_append, isPlain_sign]
    rfl
  rw [Number.Binary64.plain]
  split
  · rfl
  · rw [isPlain_append, isPlain_sign, isPlain_positional]
    rfl

/-- A moment has digits and marks between them, and a sign if its year has one. -/
theorem isPlain_timestamp (moment : Timestamp) : isPlain moment.plain := by
  have year : isPlain (Timestamp.yearText moment.date.year) := by
    rw [Timestamp.yearText]
    split
    · rw [isPlain_cons, isPlain_padded]
      rfl
    split
    · exact isPlain_padded _ _
    · rw [isPlain_cons, isPlain_natural]
      rfl
  simp only [Timestamp.plain, Timestamp.dateText, Timestamp.clockText, isPlain_append,
    isPlain_cons, isPlain_padded, year]
  rfl

theorem isPlain_ofBytes (bytes : List UInt8) : isPlain (Hex.ofBytes bytes) := by
  have digits : ∀ value < 16, isPlain [Hex.digit value] := by decide
  refine List.all_eq_true.mpr fun char member => ?_
  obtain ⟨byte, -, digit⟩ := List.mem_flatMap.mp member
  rw [Hex.ofByte, List.mem_cons, List.mem_singleton] at digit
  have least : byte.toNat < 256 := byte.toNat_lt
  rcases digit with rfl | rfl
  · exact List.all_eq_true.mp (digits (byte.toNat / 16) (by omega)) _ List.mem_cons_self
  · exact List.all_eq_true.mp (digits (byte.toNat % 16) (by omega)) _ List.mem_cons_self

/-- An identifier has digits, letters and hyphens. -/
theorem isPlain_uuid (identifier : Uuid) : isPlain identifier.text := by
  simp only [Uuid.text, isPlain_append, isPlain_cons, isPlain_ofBytes]
  rfl

/-! ### Literals -/

mutual

/-- The tokens of a literal. -/
def literalTokens : Value → List Token
  | .null => [.word "NULL".toList]
  | .bool value => [.string (if value then ['t'] else ['f'])]
  | .integer value => [.string (Digits.integer value.toInt)]
  | .float value => [.string (floatChars value)]
  | .text value => [.string value.toList]
  | .bytes value => [.string ('\\' :: 'x' :: Hex.ofBytes value)]
  | .json value => [.string value.compact, .mark ':', .mark ':', .word "jsonb".toList]
  | .timestamp value => [.string value.plain]
  | .uuid value => [.string value.text]
  | .array items =>
    [.word "ARRAY".toList, .mark '['] ++ [.mark ','].intercalate (itemTokens items) ++ [.mark ']']

/-- The tokens of the items of an array, one list for each item. -/
def itemTokens : List Value → List (List Token)
  | [] => []
  | item :: rest => literalTokens item :: itemTokens rest

end

/-- Characters that need no quoting are one string between quotes. -/
theorem reads_enclosed {chars : List Char} (plain : isPlain chars) :
    Reads (enclosed chars) [.string chars] := by
  rw [enclosed_eq_textChars plain]
  exact reads_textChars chars

/-- Bytes are written as the text that a server reads them from, backslash included. -/
theorem bytes_eq_textChars (bytes : List UInt8) :
    'E' :: enclosed ('\\' :: '\\' :: 'x' :: Hex.ofBytes bytes) =
      textChars ('\\' :: 'x' :: Hex.ofBytes bytes) := by
  rw [textChars, if_pos (List.contains_iff_mem.mpr List.mem_cons_self), List.flatMap_cons,
    List.flatMap_cons, flatMap_literalChar (isPlain_ofBytes bytes)]
  rfl

theorem reads_bytes (bytes : List UInt8) :
    Reads ('E' :: enclosed ('\\' :: '\\' :: 'x' :: Hex.ofBytes bytes))
      [.string ('\\' :: 'x' :: Hex.ofBytes bytes)] := by
  rw [bytes_eq_textChars]
  exact reads_textChars _

theorem separates_comma : Separates [',', ' '] [.mark ','] :=
  ⟨rfl, ',', rfl, rfl⟩

theorem separates_bracket : Separates [']'] [.mark ']'] :=
  ⟨rfl, ']', rfl, rfl⟩

mutual

/-- The literal of a scalar is read as the tokens that its kind has, with its texts
as strings. -/
theorem reads_literalChars (value : Value) : Reads (literalChars value) (literalTokens value) := by
  match value with
  | .null => rfl
  | .bool value => cases value <;> rfl
  | .integer value => exact reads_enclosed (isPlain_integer _)
  | .float value => exact reads_enclosed (isPlain_floatChars value)
  | .text value => exact reads_textChars _
  | .bytes value => exact reads_bytes value
  | .json value =>
    have cast : Follows "::jsonb".toList [.mark ':', .mark ':', .word "jsonb".toList] :=
      ⟨rfl, fun char head => by cases head; rfl⟩
    exact (reads_textChars value.compact).append_follows cast
  | .timestamp value => exact reads_enclosed (isPlain_timestamp value)
  | .uuid value => exact reads_enclosed (isPlain_uuid value)
  | .array items =>
    have opened : Opens "ARRAY[".toList [.word "ARRAY".toList, .mark '['] := rfl
    have closed := (opened.append_reads (reads_literalItems items)).append_separates
      separates_bracket
    exact closed.reads

/-- The items of an array, with a comma and a space between them. -/
theorem reads_literalItems (items : List Value) :
    Reads ([',', ' '].intercalate (literalItems items))
      ([.mark ','].intercalate (itemTokens items)) := by
  match items with
  | [] => rfl
  | [item] =>
    have single := reads_literalChars item
    simpa [literalItems, itemTokens] using single
  | item :: next :: rest =>
    have others := reads_literalItems (next :: rest)
    rw [literalItems, literalItems, itemTokens, itemTokens, List.intercalate_cons_cons,
      List.intercalate_cons_cons]
    rw [literalItems, itemTokens] at others
    exact ((reads_literalChars item).append_separates separates_comma).append_reads others

end

mutual

/-- Only arrays have brackets, and theirs match. -/
theorem balanced_literalTokens (value : Value) : Balanced (literalTokens value) := by
  match value with
  | .null | .bool _ | .integer _ | .float _ | .text _ | .bytes _ | .timestamp _ | .uuid _ =>
    exact .token rfl .nil
  | .json _ => exact .token rfl (.token rfl (.token rfl (.token rfl .nil)))
  | .array items =>
    have inside : Balanced
        (.mark '[' :: [.mark ','].intercalate (itemTokens items) ++ [.mark ']']) :=
      .group rfl rfl (balanced_itemTokens items) .nil
    exact .token rfl inside

theorem balanced_itemTokens (items : List Value) :
    Balanced ([.mark ','].intercalate (itemTokens items)) := by
  match items with
  | [] => exact .nil
  | [item] =>
    have single := balanced_literalTokens item
    simpa [itemTokens] using single
  | item :: next :: rest =>
    have others := balanced_itemTokens (next :: rest)
    rw [itemTokens, itemTokens, List.intercalate_cons_cons, List.append_assoc]
    rw [itemTokens] at others
    exact (balanced_literalTokens item).append (.token rfl others)

end

/-! ### Placeholders -/

/-- The digits behind a dollar sign are the number of a parameter. -/
theorem scan_parameter (value : Nat) (digits : List Char)
    (isDigits : ∀ char ∈ digits, char.isDigit) :
    scan (.parameter value) digits = some (.parameter (Nat.ofDigitChars 10 digits value), []) := by
  induction digits generalizing value with
  | nil => rfl
  | cons char rest inductionHypothesis =>
    have stepped : (Mode.parameter value).next char =
        some (.parameter (10 * value + (char.toNat - '0'.toNat)), []) := by
      rw [Mode.next, if_pos (isDigits char List.mem_cons_self)]
    exact scan_cons stepped
      (inductionHypothesis _ fun other member => isDigits other (List.mem_cons_of_mem _ member))

theorem scan_number (digits rest : List Char) (isDigits : ∀ char ∈ rest, char.isDigit) :
    scan (.number digits) rest = some (.number (digits ++ rest), []) := by
  induction rest generalizing digits with
  | nil => rw [List.append_nil]; rfl
  | cons char rest inductionHypothesis =>
    have stepped : (Mode.number digits).next char = some (.number (digits ++ [char]), []) := by
      rw [Mode.next, if_pos (isDigits char List.mem_cons_self)]
    rw [List.append_cons]
    exact scan_cons stepped
      (inductionHypothesis _ fun other member => isDigits other (List.mem_cons_of_mem _ member))

/-- A natural number is written in digits. -/
theorem isDigit_of_mem_natural {value : Nat} {char : Char}
    (member : char ∈ Digits.natural value) : char.isDigit :=
  Nat.isDigit_of_mem_toDigits (by decide) (by decide) member

/-- A placeholder is one parameter with its number. -/
theorem reads_placeholder (number : Nat) :
    Reads (placeholder number).toList [.parameter number] := by
  rw [placeholder, String.toList_ofList]
  have whole : Nat.ofDigitChars 10 (Digits.natural number) 0 = number :=
    Nat.ofDigitChars_ten_toDigits
  have isDigits := @isDigit_of_mem_natural number
  cases digits : Digits.natural number with
  | nil => exact absurd digits Nat.toDigits_ne_nil
  | cons first rest =>
    rw [digits] at whole isDigits
    have opened : Mode.dollar.next first = some (.parameter (first.toNat - '0'.toNat), []) := by
      rw [Mode.next, if_pos (isDigits List.mem_cons_self)]
    have dollar : start '$' = some (.dollar, []) := rfl
    have scanned := scan_gap_cons dollar (scan_cons opened
      (scan_parameter _ rest fun _ member => isDigits (List.mem_cons_of_mem _ member)))
    refine reads_iff.mpr ⟨_, _, [.parameter number], scanned, ?_, rfl⟩
    rw [Nat.ofDigitChars_cons, Nat.mul_zero, Nat.zero_add] at whole
    rw [whole]
    rfl

/-- A count is one number. -/
theorem reads_natural (value : Nat) :
    Reads (Digits.natural value) [.number (Digits.natural value)] := by
  have isDigits := @isDigit_of_mem_natural value
  cases digits : Digits.natural value with
  | nil => exact absurd digits Nat.toDigits_ne_nil
  | cons first rest =>
    rw [digits] at isDigits
    have scanned := scan_gap_cons (start_eq_number (isDigits List.mem_cons_self))
      (scan_number [first] rest fun _ member => isDigits (List.mem_cons_of_mem _ member))
    exact reads_iff.mpr ⟨_, _, _, scanned, rfl, rfl⟩

end SqlTree.Reading
