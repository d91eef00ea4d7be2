/-
This file proves when a path is written as one name. A name is in quotes as a whole,
while a path is cut at its points and at the first space after the last of them. The
two are written alike exactly if there is no point and no space, and for all but the
star. The same holds for the column of a row that was proposed for insertion, since
a point makes the row lose its own name.

Where the two differ it is shown on the characters: a name with a point or a space
is in quotes, and a quote inside of it is doubled, so what closes the first part
of the path does not close the name. The rest goes through the ways in which a
path is split at its points, and no two names have to be compared character by
character again.
-/

import Mathlib.Data.List.TakeWhile
import Mathlib.Tactic.ByContra
import SqlTree.Proofs.Reading.Name

namespace SqlTree

open Quote

/-! ### Quoted names and what follows them -/

namespace Quote

/-- A quote that something else than a quote follows ends a name, so it does not
stand inside of a longer one. -/
theorem doubled_append_ne {mark : Char} (notQuote : mark ≠ '"') (first second rest : List Char) :
    doubled '"' first ++ '"' :: mark :: rest ≠ doubled '"' second ++ ['"'] := by
  -- The names are walked through side by side; a quote in one of them alone would
  -- have to be the end of the other.
  induction first generalizing second with
  | nil =>
    cases second with
    | nil => simp [doubled]
    | cons char others =>
      by_cases quote : char = '"'
      · simp [doubled, quote, notQuote]
      · simp [doubled, quote, Ne.symm quote]
  | cons char others inductionHypothesis =>
    cases second with
    | nil => by_cases quote : char = '"' <;> simp [doubled, quote]
    | cons next more =>
      have shorter := inductionHypothesis more
      by_cases quote : char = '"'
      · by_cases nextQuote : next = '"'
        · simpa [doubled, quote, nextQuote] using shorter
        · simp [doubled, quote, nextQuote, Ne.symm nextQuote]
      · by_cases nextQuote : next = '"'
        · simp [doubled, quote, nextQuote]
        · intro same
          simp only [doubled, List.flatMap_cons, if_neg quote, if_neg nextQuote,
            List.cons_append, List.nil_append, List.cons.injEq] at same
          exact shorter same.2

theorem all_isBarePart {name : List Char} (bare : isBare name) :
    ∀ char ∈ name, isBarePart char := by
  cases name with
  | nil => cases bare
  | cons first rest =>
    obtain ⟨start, parts⟩ := Bool.and_eq_true_iff.mp bare
    refine List.forall_mem_cons.mpr ⟨?_, List.all_eq_true.mp parts⟩
    rw [isBarePart, start]
    rfl

/-- One character that cannot stand bare puts the whole name in quotes. -/
theorem nameChars_of_mem {name : List Char} {char : Char} (member : char ∈ name)
    (notPart : isBarePart char = false) : nameChars name = '"' :: doubled '"' name ++ ['"'] := by
  have notBare : isBare name = false := by
    by_contra bare
    rw [Bool.not_eq_false] at bare
    have part := all_isBarePart bare char member
    rw [notPart] at part
    cases part
  rw [nameChars, notBare]
  rfl

/-- A name that something follows is not a longer name in quotes. -/
theorem nameChars_append_ne {mark : Char} (notQuote : mark ≠ '"') (segment rest name : List Char) :
    nameChars segment ++ mark :: rest ≠ '"' :: doubled '"' name ++ ['"'] := by
  rw [nameChars]
  split
  · next unquoted =>
    cases segment with
    | nil => cases unquoted
    | cons first others =>
      rintro same
      have firstQuote : first = '"' := (List.cons.inj same).1
      subst firstQuote
      cases unquoted
  · intro same
    simp only [List.cons_append, List.append_assoc, List.nil_append, List.cons.injEq,
      true_and] at same
    exact doubled_append_ne notQuote segment name rest same

end Quote

/-! ### Paths that are one name -/

theorem splitLast?_eq_none {mark : Char} {chars : List Char} (absent : mark ∉ chars) :
    splitLast? mark chars = none := by
  induction chars with
  | nil => rfl
  | cons char rest inductionHypothesis =>
    rw [List.mem_cons, not_or] at absent
    rw [splitLast?, inductionHypothesis absent.2]
    exact if_neg (Ne.symm absent.1)

theorem splitLast?_append (mark : Char) (first rest : List Char) :
    splitLast? mark (first ++ mark :: rest) =
      some (match splitLast? mark rest with
        | some (before, after) => (first ++ mark :: before, after)
        | none => (first, rest)) := by
  induction first with
  | nil =>
    rw [List.nil_append, splitLast?]
    cases splitLast? mark rest with
    | none => exact if_pos rfl
    | some parts => rfl
  | cons char others inductionHypothesis =>
    rw [List.cons_append, splitLast?, inductionHypothesis]
    cases splitLast? mark rest <;> rfl

theorem splitLast?_of_mem {mark : Char} {chars : List Char} (member : mark ∈ chars) :
    ∃ before after, splitLast? mark chars = some (before, after) := by
  obtain ⟨first, last, rfl⟩ := List.append_of_mem member
  exact ⟨_, _, splitLast?_append mark first last⟩

namespace Path

theorem chars_of_not_mem {chars : List Char} (noPoint : '.' ∉ chars) :
    (ofChars chars).chars =
      lastChars (chars.takeWhile (· ≠ ' ')) ++ chars.dropWhile (· ≠ ' ') := by
  rw [ofChars, splitLast?_eq_none noPoint]
  rfl

/-- What a qualifier starts with: the proposed row, or a name of its own. -/
theorem qualifierChars_opens (qualifier : List Char) :
    ∃ opening rest, qualifierChars qualifier ++ ['.'] = opening ++ '.' :: rest ∧
      (opening = excluded ∨ ∃ segment, opening = nameChars segment) := by
  rw [qualifierChars]
  split
  · exact ⟨excluded, [], rfl, .inl rfl⟩
  · cases segments : splitAll '.' qualifier with
    | nil => exact absurd segments (Reading.splitAll_ne_nil '.' qualifier)
    | cons segment others =>
      cases others with
      | nil => exact ⟨nameChars segment, [], by simp, .inr ⟨segment, rfl⟩⟩
      | cons next more =>
        exact ⟨nameChars segment, ['.'].intercalate ((next :: more).map nameChars) ++ ['.'],
          by simp, .inr ⟨segment, rfl⟩⟩

/-- With a longer path before its last point, the proposed row is a name like others
and is put in quotes. -/
theorem qualifierChars_proposed (before : List Char) :
    ∃ rest, qualifierChars (excluded ++ '.' :: before) = '"' :: rest := by
  have longer : excluded ++ '.' :: before ≠ excluded := fun same => by
    cases List.append_right_eq_self.mp same
  have segments : splitAll '.' (excluded ++ '.' :: before) = excluded :: splitAll '.' before := rfl
  have quoted : nameChars excluded = '"' :: (excluded ++ ['"']) := by decide
  obtain ⟨next, others, more⟩ := List.exists_cons_of_ne_nil (Reading.splitAll_ne_nil '.' before)
  rw [qualifierChars, if_neg longer, segments, List.map_cons, quoted, more, List.map_cons,
    List.intercalate_cons_cons, List.append_assoc]
  exact ⟨_, rfl⟩

/-- With a point the path is what stands before the last point, and then a name up to
its first space. -/
theorem chars_of_split {chars before after : List Char}
    (split : splitLast? '.' chars = some (before, after)) :
    (ofChars chars).chars =
      qualifierChars before ++ ['.'] ++ lastChars (after.takeWhile (· ≠ ' '))
        ++ after.dropWhile (· ≠ ' ') := by
  rw [ofChars, split]
  rfl

end Path

/-- Read as a path the column is one name: there is no point and no space in it, and
it is not the star, which stands for every column. -/
structure IsSingleName (column : String) : Prop where
  noPoint : '.' ∉ column.toList
  noSpace : ' ' ∉ column.toList
  notStar : column ≠ "*"

/-- What follows the first part of a name with a space starts with the space. -/
theorem dropWhile_of_space {chars : List Char} (space : ' ' ∈ chars) :
    ∃ rest, chars.dropWhile (· ≠ ' ') = ' ' :: rest := by
  induction chars with
  | nil => cases space
  | cons char others inductionHypothesis =>
    rw [List.dropWhile_cons]
    by_cases same : char = ' '
    · subst same
      exact ⟨others, rfl⟩
    · rw [if_pos (decide_eq_true same)]
      exact inductionHypothesis ((List.mem_cons.mp space).resolve_left (Ne.symm same))

/-- A single name is written as a path in the way in which it is written as a name. -/
theorem quotePath_eq_quoteName {column : String} (single : IsSingleName column) :
    quotePath column = quoteName column := by
  have solid : ∀ char ∈ column.toList, decide (char ≠ ' ') = true := fun char member =>
    decide_eq_true fun space => single.noSpace (space ▸ member)
  have notStar : column.toList ≠ ['*'] := fun star =>
    single.notStar (String.toList_injective star)
  rw [quotePath, quoteName, Path.chars_of_not_mem single.noPoint,
    List.takeWhile_eq_self_iff.mpr solid, List.dropWhile_eq_nil_iff.mpr solid, List.append_nil,
    Path.lastChars, if_neg notStar]

/-- A path with a point or a space is written in parts. -/
theorem quotePath_ne_quoteName {column : String} (notSingle : ¬ IsSingleName column) :
    quotePath column ≠ quoteName column := by
  rw [quotePath, quoteName, ne_eq, String.ofList_inj]
  by_cases point : '.' ∈ column.toList
  · obtain ⟨before, after, split⟩ := splitLast?_of_mem point
    obtain ⟨opening, rest, opens, kind⟩ := Path.qualifierChars_opens before
    rw [Path.chars_of_split split, opens, nameChars_of_mem point rfl]
    rcases kind with rfl | ⟨segment, rfl⟩
    · rintro ⟨⟩
    · rw [List.append_assoc, List.append_assoc, List.cons_append]
      exact nameChars_append_ne (by decide) segment _ _
  · rw [Path.chars_of_not_mem point]
    by_cases space : ' ' ∈ column.toList
    · obtain ⟨rest, follows⟩ := dropWhile_of_space space
      rw [follows, nameChars_of_mem space rfl, Path.lastChars]
      split
      · next star =>
        rw [star]
        rintro ⟨⟩
      · exact nameChars_append_ne (by decide) _ _ _
    · have star : column = "*" := by
        by_contra notStar
        exact notSingle ⟨point, space, notStar⟩
      subst star
      decide

/-- A path is written as one name exactly if it is a single name. -/
theorem quotePath_eq_quoteName_iff (column : String) :
    quotePath column = quoteName column ↔ IsSingleName column :=
  ⟨fun same => by_contra fun notSingle => quotePath_ne_quoteName notSingle same,
    quotePath_eq_quoteName⟩

/-- A path before another segment. -/
def quoteQualifier (qualifier : String) : String :=
  String.ofList (Path.qualifierChars qualifier.toList)

/-- A path is what stands before its last segment, and the segment as a path. -/
theorem quotePath_append (qualifier : String) {key : String} (noPoint : '.' ∉ key.toList) :
    quotePath (qualifier ++ "." ++ key) = quoteQualifier qualifier ++ "." ++ quotePath key := by
  have asChars : (qualifier ++ "." ++ key).toList = qualifier.toList ++ '.' :: key.toList := by
    simp
  have split := splitLast?_append '.' qualifier.toList key.toList
  rw [splitLast?_eq_none noPoint] at split
  rw [quotePath, asChars, Path.chars_of_split split, List.append_assoc, String.ofList_append,
    String.ofList_append, quotePath, Path.chars_of_not_mem noPoint]
  rfl

/-- Before a last segment the proposed row keeps its own name. -/
theorem quotePath_proposed {column : String} (noPoint : '.' ∉ column.toList) :
    quotePath ("EXCLUDED." ++ column) = "EXCLUDED." ++ quotePath column := by
  have row : quoteQualifier "EXCLUDED" ++ "." = "EXCLUDED." := by decide
  have word : "EXCLUDED" ++ "." = "EXCLUDED." := by decide
  have path := quotePath_append "EXCLUDED" noPoint
  rwa [row, word] at path

/-- The column of the proposed row keeps the name of the row and the column exactly
if the column is one name. -/
theorem quotePath_proposed_eq_iff (column : String) :
    quotePath ("EXCLUDED." ++ column) = "EXCLUDED." ++ quoteName column ↔ IsSingleName column := by
  by_cases point : '.' ∈ column.toList
  · have asChars : quotePath ("EXCLUDED." ++ column) =
        String.ofList (Path.ofChars (Path.excluded ++ '.' :: column.toList)).chars := by
      rw [quotePath, String.toList_append]
      rfl
    have split := splitLast?_append '.' Path.excluded column.toList
    refine iff_of_false (fun same => ?_) fun single => single.noPoint point
    obtain ⟨before, after, splitColumn⟩ := splitLast?_of_mem point
    rw [splitColumn] at split
    obtain ⟨rest, quoted⟩ := Path.qualifierChars_proposed before
    rw [asChars, Path.chars_of_split split, quoted] at same
    have firsts := congrArg (fun text => text.toList.head?) same
    rw [String.toList_append, String.toList_ofList] at firsts
    cases firsts
  · rw [quotePath_proposed point, String.append_right_inj, quotePath_eq_quoteName_iff]

end SqlTree
