/-
This file reads literals back as what they stand for: null, strings with and
without escapes, and arrays of literals. The kinds of the strings are given.
Servers differ in whether a string without an `E` in front has escapes, so the
setting is given too. Under both, the literal of a scalar is read as the scalar,
and reading stops where the literal ends, whatever follows it, if that starts
with neither a quote nor a part of a word.

The reader knows what kind of constant is expected where a string begins, as a
server does from the column that it is compared with; a null and an array are told
from a string by their first letters. It runs on fuel, one unit for each step, and
more than enough of it is the length of the text. Its result has the rest of the
text in it, so the theorems speak of any text that follows, and an array is read
item by item with the same lemma.

The setting of the server changes nothing, because a text with a backslash gets an
`E` in front and a text without one has no escapes in either case. That is the
point of the choice between the two forms, and both halves of it are used.
-/

import SqlTree.Proofs.Reading.Contents

namespace SqlTree.Reading

open Quote

/-! ### Strings -/

/-- Reads a string after its opening quote: what it stands for and what follows. -/
def readString (escapes : Bool) : List Char → Option (List Char × List Char)
  | [] => none
  | [char] => if char = '\'' then some ([], []) else none
  | char :: next :: rest =>
    if char = '\'' then
      if next = '\'' then do
        let (contents, after) ← readString escapes rest
        return (char :: contents, after)
      else some ([], next :: rest)
    else if escapes ∧ char = '\\' then do
      let meant ← escaped? next
      let (contents, after) ← readString escapes rest
      return (meant :: contents, after)
    else do
      let (contents, after) ← readString escapes (next :: rest)
      return (char :: contents, after)

/-! ### Literals -/

/-- How a literal begins. -/
inductive Opening where
  | null
  | string (escapes : Bool)
  | array

/-- What follows the mark, if it comes first. -/
def afterMark? (mark : Char) (chars : List Char) : Option (List Char) :=
  match chars.dropWhile isBlank with
  | [] => none
  | char :: rest => if char = mark then some rest else none

/-- The beginning of a literal and what follows it. A string without an `E` has no
escapes if the setting conforms to the standard. -/
def opening? (conforming : Bool) (chars : List Char) : Option (Opening × List Char) :=
  let chars := chars.dropWhile isBlank
  let after := chars.dropWhile isWordPart
  match (chars.takeWhile isWordPart).map Char.toLower, after with
  | [], '\'' :: inside => some (.string !conforming, inside)
  | ['e'], '\'' :: inside => some (.string true, inside)
  | ['n', 'u', 'l', 'l'], _ => some (.null, after)
  | ['a', 'r', 'r', 'a', 'y'], _ => (afterMark? '[' after).map fun inside => (.array, inside)
  | _, _ => none

/-- Reads a cast to JSON and answers with what follows it. -/
def afterCast? (chars : List Char) : Option (List Char) :=
  match chars.dropWhile isBlank with
  | ':' :: ':' :: rest =>
    let type := rest.dropWhile isBlank
    if type.takeWhile isWordPart = "jsonb".toList then some (type.dropWhile isWordPart) else none
  | _ => none

/-- What is yet to be read, with the kinds of the strings in it. -/
structure Unread where
  kinds : List Constant.Kind
  chars : List Char

/-- Reads a string after its opening quote as a constant of the next kind. JSON
has a cast after it. -/
def readLeaf (escapes : Bool) (unread : Unread) : Option (Constant × Unread) :=
  match unread.kinds with
  | [] => none
  | kind :: kinds => do
    let (contents, after) ← readString escapes unread.chars
    let constant ← constantOf? contents kind
    let after ← if kind = .json then afterCast? after else some after
    return (constant, ⟨kinds, after⟩)

mutual

/-- Reads a literal that is nested no deeper than the fuel. -/
def readConstant (conforming : Bool) : Nat → Unread → Option (Constant × Unread)
  | 0, _ => none
  | fuel + 1, unread => do
    match ← opening? conforming unread.chars with
    | (.null, after) => return (.null, { unread with chars := after })
    | (.string escapes, inside) => readLeaf escapes { unread with chars := inside }
    | (.array, inside) =>
      match afterMark? ']' inside with
      | some after => return (.array [], { unread with chars := after })
      | none =>
        let (items, unread) ← readItems conforming fuel { unread with chars := inside }
        return (.array items, unread)

/-- Reads literals with commas between them up to the end of an array. -/
def readItems (conforming : Bool) : Nat → Unread → Option (List Constant × Unread)
  | 0, _ => none
  | fuel + 1, unread => do
    let (item, unread) ← readConstant conforming fuel unread
    match afterMark? ',' unread.chars with
    | some rest =>
      let (items, unread) ← readItems conforming fuel { unread with chars := rest }
      return (item :: items, unread)
    | none =>
      let after ← afterMark? ']' unread.chars
      return ([item], { unread with chars := after })

end

/-- Reads the literal that a text starts with, whose strings have the kinds: what
it stands for and what follows. -/
def readLiteral (conforming : Bool) (kinds : List Constant.Kind) (text : String) :
    Option (Constant × String) := do
  let (constant, unread) ← readConstant conforming text.length ⟨kinds, text.toList⟩
  if unread.kinds.isEmpty then some (constant, String.ofList unread.chars) else none

/-! ### Reading strings back -/

/-- What may follow a literal. -/
def EndsLiteral (following : List Char) : Prop :=
  ∀ char, following.head? = some char → char ≠ '\'' ∧ ¬ isWordPart char

/-- Inside a string the doubled characters are read as the text, up to the quote that
ends it. Without escapes there is no backslash in the text. -/
theorem readString_literalChars {escapes : Bool} {text following : List Char}
    (readable : escapes = false → '\\' ∉ text) (ends : following.head? ≠ some '\'') :
    readString escapes (text.flatMap literalChar ++ '\'' :: following) =
      some (text, following) := by
  induction text with
  | nil =>
    cases following with
    | nil => rfl
    | cons next rest =>
      have different : next ≠ '\'' := fun same => ends (congrArg some same)
      show readString escapes ('\'' :: next :: rest) = _
      rw [readString, if_pos rfl, if_neg different]
  | cons char text inductionHypothesis =>
    have others := inductionHypothesis fun plain member =>
      readable plain (List.mem_cons_of_mem _ member)
    rw [List.flatMap_cons, List.append_assoc]
    by_cases quote : char = '\''
    · subst quote
      show readString escapes ('\'' :: '\'' :: (text.flatMap literalChar ++ '\'' :: following)) = _
      rw [readString, if_pos rfl, if_pos rfl, others]
      rfl
    by_cases backslash : char = '\\'
    · subst backslash
      cases escapes with
      | false => exact absurd List.mem_cons_self (readable rfl)
      | true =>
        show readString true ('\\' :: '\\' :: (text.flatMap literalChar ++ '\'' :: following)) = _
        rw [readString, if_neg (by decide), if_pos ⟨rfl, rfl⟩, others]
        rfl
    · have plain : ¬ (escapes = true ∧ char = '\\') := fun both => backslash both.2
      rw [literalChar, if_neg (not_or.mpr ⟨quote, backslash⟩), List.singleton_append]
      rcases rest : text.flatMap literalChar ++ '\'' :: following with _ | ⟨next, more⟩
      · exact absurd rest (List.append_ne_nil_of_right_ne_nil _ (List.cons_ne_nil _ _))
      · rw [readString, if_neg quote, if_neg plain, ← rest, others]
        rfl

/-! ### Reading leaves back -/

variable {conforming : Bool} {following : List Char}

/-- A word ends before what may follow a literal. -/
theorem EndsLiteral.takeWhile_eq_nil (ends : EndsLiteral following) :
    following.takeWhile isWordPart = [] :=
  takeWhile_isWordPart_eq_nil fun char first => (ends char first).2

/-- What follows a literal is not taken for the rest of a word. -/
theorem EndsLiteral.dropWhile_eq_self (ends : EndsLiteral following) :
    following.dropWhile isWordPart = following :=
  dropWhile_isWordPart_eq_self fun char first => (ends char first).2

/-- Null is told by its word. -/
theorem opening?_null (ends : EndsLiteral following) :
    opening? conforming ("NULL".toList ++ following) = some (.null, following) := by
  show opening? conforming ('N' :: 'U' :: 'L' :: 'L' :: following) = _
  have solid : ('N' :: 'U' :: 'L' :: 'L' :: following).dropWhile isBlank =
    'N' :: 'U' :: 'L' :: 'L' :: following := rfl
  have word : ('N' :: 'U' :: 'L' :: 'L' :: following).takeWhile isWordPart = "NULL".toList :=
    congrArg ("NULL".toList ++ ·) ends.takeWhile_eq_nil
  have after : ('N' :: 'U' :: 'L' :: 'L' :: following).dropWhile isWordPart = following :=
    ends.dropWhile_eq_self
  rw [opening?, solid, word, after]
  rfl

/-- So is an array, by its word and its bracket. -/
theorem opening?_array (inside : List Char) :
    opening? conforming ("ARRAY[".toList ++ inside) = some (.array, inside) := rfl

/-- A text opens as a string in which its backslashes can be read. -/
theorem opening?_textChars (conforming : Bool) (text following : List Char) :
    ∃ escapes, (escapes = false → '\\' ∉ text) ∧
      opening? conforming (textChars text ++ following) =
        some (.string escapes, text.flatMap literalChar ++ '\'' :: following) := by
  rw [textChars]
  by_cases backslash : text.contains '\\'
  · refine ⟨true, fun plain => absurd plain.symm Bool.false_ne_true, ?_⟩
    rw [if_pos backslash]
    show opening? conforming ('E' :: '\'' :: (text.flatMap literalChar ++ ['\'']) ++ following) = _
    rw [List.cons_append, List.cons_append, List.append_assoc]
    rfl
  · refine ⟨!conforming, fun _ member => backslash (List.contains_iff_mem.mpr member), ?_⟩
    rw [if_neg backslash]
    show opening? conforming ('\'' :: (text.flatMap literalChar ++ ['\'']) ++ following) = _
    rw [List.cons_append, List.append_assoc]
    rfl

/-- A cast to JSON is looked for behind a string that is expected to be JSON, and
found there. -/
theorem afterCast?_jsonb (ends : EndsLiteral following) :
    afterCast? ("::jsonb".toList ++ following) = some following := by
  have word : ("jsonb".toList ++ following).takeWhile isWordPart = "jsonb".toList :=
    congrArg ("jsonb".toList ++ ·) ends.takeWhile_eq_nil
  have after : ("jsonb".toList ++ following).dropWhile isWordPart = following :=
    ends.dropWhile_eq_self
  show (if ("jsonb".toList ++ following).takeWhile isWordPart = "jsonb".toList then
    some (("jsonb".toList ++ following).dropWhile isWordPart) else none) = _
  rw [word, if_pos rfl, after]

variable {fuel : Nat} {kinds : List Constant.Kind}

/-- A string is read as the constant that its contents are of the expected kind. -/
theorem readConstant_textChars {text : List Char} {kind : Constant.Kind} {constant : Constant}
    (plain : kind ≠ .json) (meant : constantOf? text kind = some constant)
    (ends : EndsLiteral following) :
    readConstant conforming (fuel + 1) ⟨kind :: kinds, textChars text ++ following⟩ =
      some (constant, ⟨kinds, following⟩) := by
  obtain ⟨escapes, readable, opened⟩ := opening?_textChars conforming text following
  have read := readString_literalChars readable fun quote => (ends _ quote).1 rfl
  simp only [readConstant, opened, Option.bind_eq_bind, Option.bind_some, readLeaf, read, meant,
    if_neg plain]
  rfl

/-- JSON has a cast behind its string. -/
theorem readConstant_json {text : List Char} (ends : EndsLiteral following) :
    readConstant conforming (fuel + 1)
        ⟨.json :: kinds, textChars text ++ "::jsonb".toList ++ following⟩ =
      some (.json (String.ofList text), ⟨kinds, following⟩) := by
  obtain ⟨escapes, readable, opened⟩ :=
    opening?_textChars conforming text ("::jsonb".toList ++ following)
  have notQuote : ("::jsonb".toList ++ following).head? ≠ some '\'' := fun same => nomatch same
  have read := readString_literalChars readable notQuote
  rw [List.append_assoc]
  simp only [readConstant, opened, Option.bind_eq_bind, Option.bind_some, readLeaf, read,
    constantOf?, if_true, afterCast?_jsonb ends]
  rfl

/-- Contents that need no quoting are read like those of a text. -/
theorem readConstant_enclosed {chars : List Char} {kind : Constant.Kind} {constant : Constant}
    (plain : isPlain chars) (notJson : kind ≠ .json)
    (meant : constantOf? chars kind = some constant) (ends : EndsLiteral following) :
    readConstant conforming (fuel + 1) ⟨kind :: kinds, enclosed chars ++ following⟩ =
      some (constant, ⟨kinds, following⟩) := by
  rw [enclosed_eq_textChars plain]
  exact readConstant_textChars notJson meant ends

/-! ### Reading literals back -/

theorem literalChars_null : literalChars .null = "NULL".toList := rfl

theorem literalChars_bytes (bytes : List UInt8) :
    literalChars (.bytes bytes) = 'E' :: enclosed ('\\' :: '\\' :: 'x' :: Hex.ofBytes bytes) := rfl

theorem literalChars_json (value : Json) :
    literalChars (.json value) = textChars value.compact ++ "::jsonb".toList := rfl

theorem literalChars_array (items : List Value) :
    literalChars (.array items) =
      "ARRAY[".toList ++ [',', ' '].intercalate (literalItems items) ++ [']'] := rfl

/-- A literal does not begin with what ends an array. -/
theorem afterMark?_literalChars (value : Value) (rest : List Char) :
    afterMark? ']' (literalChars value ++ rest) = none := by
  have textOpens (text : List Char) (rest : List Char) :
      afterMark? ']' (textChars text ++ rest) = none := by
    rw [textChars]
    split <;> rfl
  cases value with
  | text value => exact textOpens _ rest
  | json value =>
    rw [literalChars_json, List.append_assoc]
    exact textOpens _ _
  | null | bool _ | integer _ | float _ | bytes _ | timestamp _ | uuid _ | array _ => rfl

/-- A literal ends before a comma and before a bracket. -/
theorem endsLiteral_cons {char : Char} (ends : char ≠ '\'' ∧ ¬ isWordPart char)
    (rest : List Char) : EndsLiteral (char :: rest) := by
  intro head same
  cases same
  exact ends

theorem readConstant_blank (chars : List Char) :
    readConstant conforming fuel ⟨kinds, ' ' :: chars⟩ =
      readConstant conforming fuel ⟨kinds, chars⟩ := by
  cases fuel with
  | zero => rfl
  | succ fuel =>
    rw [readConstant, readConstant]
    rfl

/-- A space between items is skipped. -/
theorem readItems_blank (chars : List Char) :
    readItems conforming fuel ⟨kinds, ' ' :: chars⟩ =
      readItems conforming fuel ⟨kinds, chars⟩ := by
  cases fuel with
  | zero => rfl
  | succ fuel => rw [readItems, readItems, readConstant_blank]

mutual

/-- The literal of a scalar is read as the scalar, in either setting, and reading stops
where the literal ends. -/
theorem readConstant_literalChars {fuel : Nat} (value : Value) (kinds : List Constant.Kind)
    {following : List Char} (enough : (literalChars value).length ≤ fuel)
    (ends : EndsLiteral following) :
    readConstant conforming fuel
        ⟨value.leafKinds ++ kinds, literalChars value ++ following⟩ =
      some (value.constant, ⟨kinds, following⟩) := by
  obtain _ | fuel := fuel
  · exact absurd (List.eq_nil_of_length_eq_zero (Nat.le_zero.mp enough)) (literalChars_ne_nil value)
  match value with
  | .null =>
    simp only [readConstant, literalChars_null, opening?_null ends, Option.bind_eq_bind,
      Option.bind_some]
    rfl
  | .bool value =>
    exact readConstant_enclosed (by cases value <;> rfl) (by decide) (constantOf?_bool value) ends
  | .integer value =>
    exact readConstant_enclosed (isPlain_integer _) (by decide) (constantOf?_integer value) ends
  | .float value => exact readConstant_enclosed (isPlain_floatChars value) (by decide) rfl ends
  | .text value =>
    have meant : constantOf? value.toList .text = some (.text value) := by
      rw [constantOf?, String.ofList_toList]
    exact readConstant_textChars (by decide) meant ends
  | .bytes value =>
    rw [literalChars_bytes, bytes_eq_textChars]
    exact readConstant_textChars (by decide) (constantOf?_bytes value) ends
  | .json value => exact readConstant_json ends
  | .timestamp value => exact readConstant_enclosed (isPlain_timestamp value) (by decide) rfl ends
  | .uuid value =>
    exact readConstant_enclosed (isPlain_uuid value) (by decide) (constantOf?_uuid value) ends
  | .array [] => rfl
  | .array (item :: rest) =>
    have size : ([',', ' '].intercalate (literalItems (item :: rest))).length < fuel := by
      rw [literalChars_array, List.length_append, List.length_append] at enough
      have brackets : "ARRAY[".toList.length = 6 := rfl
      rw [brackets] at enough
      omega
    have items := readItems_literalItems (item :: rest) kinds following (List.cons_ne_nil _ _) size
    have notEmpty : afterMark? ']'
        ([',', ' '].intercalate (literalItems (item :: rest)) ++ ']' :: following) = none := by
      cases rest with
      | nil =>
        rw [literalItems, literalItems, List.intercalate_singleton]
        exact afterMark?_literalChars item _
      | cons next others =>
        rw [literalItems, literalItems, List.intercalate_cons_cons, List.append_assoc,
          List.append_assoc]
        exact afterMark?_literalChars item _
    rw [literalChars_array, List.append_assoc, List.append_assoc, List.singleton_append]
    simp only [readConstant, opening?_array, Option.bind_eq_bind, Option.bind_some, notEmpty,
      Value.leafKinds, items]
    rfl

/-- The items of an array. The list is not empty, because an empty one has nothing to
read before its bracket. -/
theorem readItems_literalItems {fuel : Nat} (items : List Value) (kinds : List Constant.Kind)
    (following : List Char) (some : items ≠ [])
    (enough : ([',', ' '].intercalate (literalItems items)).length < fuel) :
    readItems conforming fuel
        ⟨Value.itemKinds items ++ kinds,
          [',', ' '].intercalate (literalItems items) ++ ']' :: following⟩ =
      Option.some (Value.constants items, ⟨kinds, following⟩) := by
  obtain _ | fuel := fuel
  · exact absurd enough (Nat.not_lt_zero _)
  match items with
  | [] => exact absurd rfl some
  | [item] =>
    rw [literalItems, literalItems, List.intercalate_singleton] at enough ⊢
    rw [Value.itemKinds, Value.itemKinds, List.append_nil]
    have ends : EndsLiteral (']' :: following) := endsLiteral_cons (by decide) _
    have first := readConstant_literalChars item kinds (Nat.le_of_lt_succ enough) ends
    simp only [readItems, first, Option.bind_eq_bind, Option.bind_some]
    rfl
  | item :: next :: others =>
    rw [literalItems, literalItems, List.intercalate_cons_cons] at enough ⊢
    rw [← literalItems] at enough ⊢
    rw [Value.itemKinds, List.append_assoc, List.append_assoc, List.append_assoc]
    rw [List.length_append, List.length_append, List.length_cons] at enough
    have ends : EndsLiteral (',' :: ' ' ::
        ([',', ' '].intercalate (literalItems (next :: others)) ++ ']' :: following)) :=
      endsLiteral_cons (by decide) _
    have itemFits : (literalChars item).length ≤ fuel := by omega
    have othersFit : ([',', ' '].intercalate (literalItems (next :: others))).length < fuel := by
      omega
    have first := readConstant_literalChars item (Value.itemKinds (next :: others) ++ kinds)
      itemFits ends
    have more := readItems_literalItems (next :: others) kinds following (List.cons_ne_nil _ _)
      othersFit
    have comma : afterMark? ',' (',' :: ' ' ::
        ([',', ' '].intercalate (literalItems (next :: others)) ++ ']' :: following)) =
      Option.some (' ' ::
        ([',', ' '].intercalate (literalItems (next :: others)) ++ ']' :: following)) := rfl
    show readItems conforming (fuel + 1)
      ⟨item.leafKinds ++ (Value.itemKinds (next :: others) ++ kinds),
        literalChars item ++ (',' :: ' ' ::
          ([',', ' '].intercalate (literalItems (next :: others)) ++ ']' :: following))⟩ = _
    simp only [readItems, first, Option.bind_eq_bind, Option.bind_some, comma, readItems_blank,
      more]
    rfl

end

/-- Whatever setting the server has, the literal of a scalar is read as the scalar,
up to its end. What follows it may start with anything but a quote or a part of
a word. -/
theorem readLiteral_quoteLiteral (conforming : Bool) (value : Value) (following : String)
    (ends : EndsLiteral following.toList) :
    readLiteral conforming value.leafKinds (quoteLiteral value ++ following) =
      some (value.constant, following) := by
  have enough : (literalChars value).length ≤ (quoteLiteral value ++ following).length := by
    rw [String.length_append, quoteLiteral, String.length_ofList]
    exact Nat.le_add_right _ _
  have read : readConstant conforming _ _ = _ := readConstant_literalChars value [] enough ends
  rw [List.append_nil] at read
  rw [quoteLiteral] at read
  rw [readLiteral, String.toList_append, quoteLiteral, String.toList_ofList, read]
  show some (value.constant, String.ofList following.toList) = _
  rw [String.ofList_toList]

/-- Scalars of all kinds, with quotes and backslashes where they are easily misread. -/
def parcel : Value :=
  .array [.text "it's \\", .array [.null, .bytes [1, 255], .array []], .json (.string "'\\"),
    .integer (-7), .bool true, .uuid ⟨List.replicate 16 171, rfl⟩]

/-- An array with a text that has both a quote and a backslash, with an array inside,
and with a scalar of most of the other kinds. -/
theorem readLiteral_parcel :
    EndsLiteral "::text[]".toList ∧
      quoteLiteral parcel = "ARRAY[E'it''s \\\\', ARRAY[NULL, E'\\\\x01ff', ARRAY[]], "
        ++ "E'\"''\\\\\\\\\"'::jsonb, '-7', 't', 'abababab-abab-abab-abab-abababababab']" ∧
      readLiteral false parcel.leafKinds (quoteLiteral parcel ++ "::text[]") =
        some (.array [.text "it's \\", .array [.null, .bytes [1, 255], .array []],
          .json "\"'\\\\\"", .integer (-7), .bool true, .uuid ⟨List.replicate 16 171, rfl⟩],
          "::text[]") := by
  have ends : EndsLiteral "::text[]".toList := fun char head => by
    cases head
    decide
  exact ⟨ends, by decide +kernel, readLiteral_quoteLiteral false parcel "::text[]" ends⟩

end SqlTree.Reading
