/-
This file reads names back by the rules of the database. Without quotes, the letters
of a name are read as small ones, and a reserved word is no name; in quotes, two
quotes stand for one. What a name is written as is read as the name, and reading
stops where it ends. The search for a reserved word finds all of them.

A name is written without quotes if it is a small name and not reserved, and the
search for reserved words goes by halves through a table in order. That the table
is in order is checked once, by computation; that the search then finds every word
in it is a fact about any such table. A reserved word that was missed would be
written bare and read as a keyword, which no test of other names would notice.

In quotes a name may be anything, and nothing at all: two quotes with nothing
between them are read as the empty name here, as the rules for tokens have it.
-/

import SqlTree.Proofs.SingleName

namespace SqlTree

/-! ### Reserved words -/

namespace Quote

/-- The table of reserved words is in ascending order. -/
theorem reservedWords_pairwise : reservedWords.toList.Pairwise (· < ·) := by
  decide +kernel

/-- What a search finds is there, even if the table is in no order. -/
theorem searchSorted_sound {table : Array String} {word : String} {low high : Nat}
    (found : searchSorted table word low high) : word ∈ table := by
  fun_induction searchSorted table word low high with
  | case1 | case5 => cases found
  | case2 low high nonempty middle here =>
    obtain ⟨inside, there⟩ := Array.getElem?_eq_some_iff.mp here
    exact Array.mem_iff_getElem.mpr ⟨middle, inside, there⟩
  | case3 low high nonempty middle other here differs below inductionHypothesis =>
    exact inductionHypothesis found
  | case4 low high nonempty middle other here differs notBelow inductionHypothesis =>
    exact inductionHypothesis found

/-- In a table in ascending order a later word is a greater one. -/
theorem getElem_lt_getElem {table : Array String} (ascending : table.toList.Pairwise (· < ·))
    {first second : Nat} (before : first < second) (inside : second < table.size) :
    table[first] < table[second] :=
  List.pairwise_iff_getElem.mp ascending first second (by simp; omega) (by simpa) before

/-- A word of an ascending table is found in every part of the table that it is in. -/
theorem searchSorted_complete {table : Array String} (ascending : table.toList.Pairwise (· < ·))
    {low high place : Nat} (bound : high ≤ table.size) (inside : place < table.size)
    (fromLow : low ≤ place) (toHigh : place < high) :
    searchSorted table table[place] low high := by
  fun_induction searchSorted table table[place] low high with
  | case1 low high nonempty middle outside =>
    have middleInside : middle < table.size := by omega
    rw [Array.getElem?_eq_getElem middleInside] at outside
    cases outside
  | case2 => rfl
  | case3 low high nonempty middle other here differs below inductionHypothesis =>
    obtain ⟨middleInside, rfl⟩ := Array.getElem?_eq_some_iff.mp here
    refine inductionHypothesis bound (Nat.lt_of_not_le fun notAbove => ?_) toHigh
    -- Otherwise the word stands before the middle and is less than what is there.
    rcases Nat.lt_or_eq_of_le notAbove with before | same
    · exact String.lt_irrefl _
        (String.lt_trans below (getElem_lt_getElem ascending before middleInside))
    · exact differs (by simp only [same])
  | case4 low high nonempty middle other here differs notBelow inductionHypothesis =>
    obtain ⟨middleInside, rfl⟩ := Array.getElem?_eq_some_iff.mp here
    refine inductionHypothesis (by omega) fromLow (Nat.lt_of_not_le fun notBefore => ?_)
    rcases Nat.lt_or_eq_of_le notBefore with after | same
    · exact notBelow (getElem_lt_getElem ascending after inside)
    · exact differs (by simp only [same])
  | case5 low high empty => exact absurd (Nat.lt_of_le_of_lt fromLow toHigh) empty

/-- The search by halves finds exactly the words of the table. -/
theorem isReserved_iff (word : String) : isReserved word = true ↔ word ∈ reservedWords := by
  constructor
  · exact searchSorted_sound
  · intro member
    obtain ⟨place, inside, rfl⟩ := Array.mem_iff_getElem.mp member
    exact searchSorted_complete reservedWords_pairwise (Nat.le_refl _) inside (Nat.zero_le _) inside

end Quote

namespace Reading

open Quote

/-! ### Reading -/

/-- Reads a name after its opening quote: the name and what follows its closing quote. -/
def readQuoted : List Char → Option (List Char × List Char)
  | [] => none
  | [char] => if char = '"' then some ([], []) else none
  | char :: next :: rest =>
    if char = '"' then
      if next = '"' then do
        let (name, after) ← readQuoted rest
        return (char :: name, after)
      else some ([], next :: rest)
    else do
      let (name, after) ← readQuoted (next :: rest)
      return (char :: name, after)

/-- Reads the name that some characters start with: the name and what follows it. -/
def readName? : List Char → Option (List Char × List Char)
  | [] => none
  | first :: rest =>
    if first = '"' then readQuoted rest
    else if isWordStart first then
      let word := (first :: rest.takeWhile isWordPart).map Char.toLower
      if String.ofList word ∈ reservedWords then none else some (word, rest.dropWhile isWordPart)
    else none

/-- Reads the name that a text starts with: the name and what follows it. -/
def readIdentifier? (text : String) : Option (String × String) := do
  let (name, after) ← readName? text.toList
  return (String.ofList name, String.ofList after)

/-- Nothing that would belong to a name before it comes first. -/
def EndsName (following : List Char) : Prop :=
  ∀ char, following.head? = some char → char ≠ '"' ∧ ¬ isWordPart char

/-! ### Names -/

variable {following : List Char}

theorem EndsName.takeWhile_eq_nil (ends : EndsName following) :
    following.takeWhile isWordPart = [] :=
  takeWhile_isWordPart_eq_nil fun char first => (ends char first).2

/-- What follows a name is not taken for a part of it. -/
theorem EndsName.dropWhile_eq_self (ends : EndsName following) :
    following.dropWhile isWordPart = following :=
  dropWhile_isWordPart_eq_self fun char first => (ends char first).2

/-- Between quotes a name is read back, up to the quote that is not one of two. -/
theorem readQuoted_doubled (ends : EndsName following) (name : List Char) :
    readQuoted (doubled '"' name ++ '"' :: following) = some (name, following) := by
  induction name with
  | nil =>
    rcases following with _ | ⟨next, rest⟩
    · rfl
    · show readQuoted ('"' :: next :: rest) = _
      rw [readQuoted, if_pos rfl, if_neg (ends next rfl).1]
  | cons char name inductionHypothesis =>
    rw [doubled, List.flatMap_cons, List.append_assoc, ← doubled]
    by_cases quote : char = '"'
    · subst quote
      show readQuoted ('"' :: '"' :: (doubled '"' name ++ '"' :: following)) = _
      rw [readQuoted, if_pos rfl, if_pos rfl, inductionHypothesis]
      rfl
    · rw [if_neg quote, List.singleton_append]
      -- The closing quote follows, so the first character is not the last one.
      rcases rest : doubled '"' name ++ '"' :: following with _ | ⟨next, others⟩
      · exact absurd rest (List.append_ne_nil_of_right_ne_nil _ (List.cons_ne_nil _ _))
      · rw [readQuoted, if_neg quote, ← rest, inductionHypothesis]
        rfl

/-- A word up to what ends it, with its letters small, unless it is reserved. -/
theorem readName?_word (ends : EndsName following) {first : Char} {rest : List Char}
    (start : isWordStart first) (parts : ∀ char ∈ rest, isWordPart char) :
    readName? (first :: rest ++ following) =
      if String.ofList ((first :: rest).map Char.toLower) ∈ reservedWords then none
      else some ((first :: rest).map Char.toLower, following) := by
  have notQuote : first ≠ '"' := by
    rintro rfl
    exact absurd start (by decide)
  have word : (rest ++ following).takeWhile isWordPart = rest := by
    rw [List.takeWhile_append_of_pos parts, ends.takeWhile_eq_nil, List.append_nil]
  have after : (rest ++ following).dropWhile isWordPart = following := by
    rw [List.dropWhile_append_of_pos parts, ends.dropWhile_eq_self]
  rw [List.cons_append, readName?, if_neg notQuote, if_pos start, word, after]

/-- A name is read back from either form, and reading stops where it ends. -/
theorem readName?_nameChars (ends : EndsName following) (name : List Char) :
    readName? (nameChars name ++ following) = some (name, following) := by
  rw [nameChars]
  split
  · next unquoted =>
    obtain ⟨bare, notReserved⟩ := Bool.and_eq_true_iff.mp unquoted
    have small := map_toLower_of_isBare bare
    have absent : String.ofList name ∉ reservedWords := by
      rwa [Bool.not_eq_true', ← Bool.not_eq_true, isReserved_iff] at notReserved
    obtain ⟨first, rest, rfl, start, parts⟩ := isBare_cases bare
    rw [readName?_word ends start parts, small, if_neg absent]
  · rw [List.cons_append, List.cons_append, List.append_assoc, readName?, if_pos rfl]
    exact readQuoted_doubled ends name

/-- The same about texts. -/
theorem readIdentifier?_append_quoteName (name following : String)
    (ends : EndsName following.toList) :
    readIdentifier? (quoteName name ++ following) = some (name, following) := by
  rw [readIdentifier?, String.toList_append, quoteName, String.toList_ofList,
    readName?_nameChars ends]
  show some (String.ofList name.toList, String.ofList following.toList) = _
  rw [String.ofList_toList, String.ofList_toList]

theorem endsName_nil : EndsName [] := by
  intro char first
  cases first

/-- Different names are written differently. -/
theorem quoteName_injective : Function.Injective quoteName := by
  intro first second same
  have firstRead := readIdentifier?_append_quoteName first "" endsName_nil
  have secondRead := readIdentifier?_append_quoteName second "" endsName_nil
  rw [same, secondRead] at firstRead
  exact (Prod.mk.inj (Option.some.inj firstRead)).1.symm

/-! ### Names without quotes -/

/-- A small letter or an underscore, and then small letters, digits, underscores
and dollar signs. -/
def IsSmallName (name : String) : Prop :=
  ∃ first rest, name.toList = first :: rest ∧ (first.isLower ∨ first = '_') ∧
    ∀ char ∈ rest, char.isLower ∨ char.isDigit ∨ char = '_' ∨ char = '$'

theorem isBareStart_iff (char : Char) : isBareStart char = true ↔ char.isLower ∨ char = '_' := by
  have small : ('a' ≤ char && char ≤ 'z') = char.isLower := rfl
  rw [isBareStart, small, Bool.or_eq_true, decide_eq_true_iff]

theorem isBarePart_iff (char : Char) :
    isBarePart char = true ↔ char.isLower ∨ char.isDigit ∨ char = '_' ∨ char = '$' := by
  have digit : ('0' ≤ char && char ≤ '9') = char.isDigit := rfl
  rw [isBarePart, digit, Bool.or_eq_true, Bool.or_eq_true, isBareStart_iff, decide_eq_true_iff,
    or_assoc, or_assoc, or_left_comm (b := char.isDigit = true)]

/-- A name may stand bare if it is a small name. -/
theorem isBare_iff (name : String) : isBare name.toList = true ↔ IsSmallName name := by
  constructor
  · intro bare
    rcases chars : name.toList with _ | ⟨first, rest⟩
    · rw [chars] at bare
      cases bare
    · rw [chars] at bare
      obtain ⟨start, parts⟩ := Bool.and_eq_true_iff.mp bare
      exact ⟨first, rest, chars, (isBareStart_iff first).mp start, fun char member =>
        (isBarePart_iff char).mp (List.all_eq_true.mp parts char member)⟩
  · rintro ⟨first, rest, chars, start, parts⟩
    rw [chars, isBare, Bool.and_eq_true_iff]
    exact ⟨(isBareStart_iff first).mpr start, List.all_eq_true.mpr fun char member =>
      (isBarePart_iff char).mpr (parts char member)⟩

/-- It does so if it is not reserved. -/
theorem isUnquoted_iff (name : String) :
    (isBare name.toList && !isReserved (String.ofList name.toList)) = true ↔
      IsSmallName name ∧ name ∉ reservedWords := by
  rw [Bool.and_eq_true_iff, isBare_iff, String.ofList_toList, Bool.not_eq_true', ← isReserved_iff,
    Bool.not_eq_true]

/-- Then it is written as it is. -/
theorem quoteName_eq_self {name : String} (small : IsSmallName name)
    (notReserved : name ∉ reservedWords) : quoteName name = name := by
  rw [quoteName, nameChars, if_pos ((isUnquoted_iff name).mpr ⟨small, notReserved⟩),
    String.ofList_toList]

/-- A name is written without quotes exactly then, since every other name has them. -/
theorem quote_not_mem_iff (name : String) :
    '"' ∉ (quoteName name).toList ↔ IsSmallName name ∧ name ∉ reservedWords := by
  rw [quoteName, nameChars, String.toList_ofList]
  split
  · next unquoted =>
    have bare := (Bool.and_eq_true_iff.mp unquoted).1
    refine iff_of_true (fun quote => ?_) ((isUnquoted_iff name).mp unquoted)
    exact absurd (all_isBarePart bare _ quote) (by decide)
  · next quoted =>
    exact iff_of_false (not_not_intro List.mem_cons_self) (mt (isUnquoted_iff name).mpr quoted)

/-- A name is read back from what it is written as, whatever follows it, if that
starts with neither a quote nor a part of a word. So different names are written
differently. Exactly the small names that are not reserved are written without
quotes, as they are. The search for a reserved word finds all of them. -/
theorem quoteName_is_read_back :
    (∀ name following : String, EndsName following.toList →
      readIdentifier? (quoteName name ++ following) = some (name, following)) ∧
    Function.Injective quoteName ∧
    (∀ name, '"' ∉ (quoteName name).toList ↔ IsSmallName name ∧ name ∉ reservedWords) ∧
    (∀ name, '"' ∉ (quoteName name).toList → quoteName name = name) ∧
    ∀ word, isReserved word = true ↔ word ∈ reservedWords := by
  refine ⟨readIdentifier?_append_quoteName, quoteName_injective, quote_not_mem_iff, ?_,
    isReserved_iff⟩
  intro name unquoted
  obtain ⟨small, notReserved⟩ := (quote_not_mem_iff name).mp unquoted
  exact quoteName_eq_self small notReserved

/-- A quote inside of a name does not end it, and the one after the name does. -/
theorem quoteName_nickname :
    EndsName " AS x".toList ∧ quoteName "Jo \"7\"" = "\"Jo \"\"7\"\"\"" ∧
      readIdentifier? (quoteName "Jo \"7\"" ++ " AS x") = some ("Jo \"7\"", " AS x") ∧
      '"' ∉ (quoteName "is_$7").toList ∧ quoteName "is_$7" = "is_$7" := by
  have ends : EndsName " AS x".toList := by
    intro char first
    cases first
    decide
  have unquoted : '"' ∉ (quoteName "is_$7").toList := by decide +kernel
  exact ⟨ends, by decide +kernel, quoteName_is_read_back.1 _ _ ends, unquoted,
    quoteName_is_read_back.2.2.2.1 _ unquoted⟩

end Reading

end SqlTree
