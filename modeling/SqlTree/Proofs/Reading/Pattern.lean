/-
This file matches texts against patterns by the rules of the database, where a percent
sign stands for any text and an underscore for any one character, and a backslash takes
this meaning from the character after it. A text that is escaped matches itself and
nothing else, whatever patterns stand around it. Only a backslash right before it that
still waits for its character would take its first one.

Matching is given by rules, and a function that decides it is proved to agree with
them, so patterns can be tried out as well as reasoned about. For each way in
which a pattern can begin there is an equivalence, and a text that is escaped is
taken apart character by character with these. A pattern that ends in a lone
backslash matches nothing, which is also what becomes of one before an escaped
text: the hypothesis of the main result excludes just that, and it is read off the
pattern before.
-/

import Mathlib.Data.List.Infix
import SqlTree.Quote.Literal

namespace SqlTree

open Quote

namespace Reading

/-! ### Matching -/

/-- The characters that do not stand for themselves in a pattern. -/
def isSpecial (char : Char) : Bool :=
  char = '%' || char = '_' || char = '\\'

/-- What a pattern matches. A backslash at its end waits for a character and matches
nothing. -/
inductive Matches : List Char → List Char → Prop
  | nil : Matches [] []
  | anyText (skipped : List Char) {pattern text : List Char} (rest : Matches pattern text) :
    Matches ('%' :: pattern) (skipped ++ text)
  | anyChar (char : Char) {pattern text : List Char} (rest : Matches pattern text) :
    Matches ('_' :: pattern) (char :: text)
  | escaped (char : Char) {pattern text : List Char} (rest : Matches pattern text) :
    Matches ('\\' :: char :: pattern) (char :: text)
  | itself {char : Char} (ordinary : isSpecial char = false) {pattern text : List Char}
    (rest : Matches pattern text) : Matches (char :: pattern) (char :: text)

/-- Matching as a search, in which a percent sign tries every place that it can reach. -/
def isMatch : List Char → List Char → Bool
  | [], text => text.isEmpty
  | '%' :: pattern, text => text.tails.any (isMatch pattern)
  | '_' :: pattern, _ :: text => isMatch pattern text
  | '\\' :: char :: pattern, first :: text => first = char && isMatch pattern text
  | char :: pattern, first :: text => !isSpecial char && first = char && isMatch pattern text
  | _ :: _, [] => false

/-- The pattern ends with a backslash that waits for its character. -/
def endsInEscape : List Char → Bool
  | [] => false
  | ['\\'] => true
  | '\\' :: _ :: pattern => endsInEscape pattern
  | _ :: pattern => endsInEscape pattern

/-- A pattern from what it starts with: a backslash at its end, a character that is
escaped, a wildcard, or a character that stands for itself. -/
@[elab_as_elim]
theorem pattern_induction {motive : List Char → Prop} (nil : motive [])
    (waiting : motive ['\\'])
    (escaped : ∀ char pattern, motive pattern → motive ('\\' :: char :: pattern))
    (anyText : ∀ pattern, motive pattern → motive ('%' :: pattern))
    (anyChar : ∀ pattern, motive pattern → motive ('_' :: pattern))
    (itself : ∀ char pattern, isSpecial char = false → motive pattern → motive (char :: pattern))
    (pattern : List Char) : motive pattern := by
  induction pattern using endsInEscape.induct with
  | case1 => exact nil
  | case2 => exact waiting
  | case3 char pattern inductionHypothesis => exact escaped char pattern inductionHypothesis
  | case4 char pattern notLast notEscape inductionHypothesis =>
    by_cases percent : char = '%'
    · exact percent ▸ anyText pattern inductionHypothesis
    by_cases underscore : char = '_'
    · exact underscore ▸ anyChar pattern inductionHypothesis
    have notBackslash : char ≠ '\\' := by
      intro backslash
      cases pattern with
      | nil => exact notLast backslash rfl
      | cons next rest => exact notEscape next rest backslash rfl
    have ordinary : isSpecial char = false := by
      simp [isSpecial, percent, underscore, notBackslash]
    exact itself char pattern ordinary inductionHypothesis

/-! ### What the first character of a pattern stands for -/

variable {char : Char} {pattern text : List Char}

/-- An empty pattern matches an empty text only. -/
theorem matches_nil_iff : Matches [] text ↔ text = [] := by
  constructor
  · rintro ⟨⟩
    rfl
  · rintro rfl
    exact .nil

/-- A percent sign skips any part of the text. -/
theorem matches_anyText_iff :
    Matches ('%' :: pattern) text ↔
      ∃ skipped rest, text = skipped ++ rest ∧ Matches pattern rest := by
  constructor
  · intro whole
    cases whole with
    | anyText skipped rest => exact ⟨skipped, _, rfl, rest⟩
    | itself ordinary _ => cases ordinary
  · rintro ⟨skipped, rest, rfl, onward⟩
    exact .anyText skipped onward

theorem matches_anyChar_iff :
    Matches ('_' :: pattern) text ↔ ∃ char rest, text = char :: rest ∧ Matches pattern rest := by
  constructor
  · intro whole
    cases whole with
    | anyChar char rest => exact ⟨char, _, rfl, rest⟩
    | itself ordinary _ => cases ordinary
  · rintro ⟨char, rest, rfl, onward⟩
    exact .anyChar char onward

/-- An escaped character matches itself. -/
theorem matches_escaped_iff :
    Matches ('\\' :: char :: pattern) text ↔
      ∃ rest, text = char :: rest ∧ Matches pattern rest := by
  constructor
  · intro whole
    cases whole with
    | escaped _ rest => exact ⟨_, rfl, rest⟩
    | itself ordinary _ => cases ordinary
  · rintro ⟨rest, rfl, onward⟩
    exact .escaped char onward

/-- A backslash that still waits for its character matches nothing. -/
theorem not_matches_waiting : ¬ Matches ['\\'] text := by
  intro whole
  cases whole with
  | itself ordinary _ => cases ordinary

/-- A character without a meaning of its own matches itself. -/
theorem matches_itself_iff (ordinary : isSpecial char = false) :
    Matches (char :: pattern) text ↔ ∃ rest, text = char :: rest ∧ Matches pattern rest := by
  constructor
  · intro whole
    cases whole with
    | itself _ rest => exact ⟨_, rfl, rest⟩
    | anyText | anyChar | escaped => cases ordinary
  · rintro ⟨rest, rfl, onward⟩
    exact .itself ordinary onward

theorem ordinary_iff : isSpecial char = false ↔ char ≠ '%' ∧ char ≠ '_' ∧ char ≠ '\\' := by
  simp [isSpecial, and_assoc]

/-- The function decides what the rules say. -/
theorem isMatch_iff : isMatch pattern text = true ↔ Matches pattern text := by
  induction pattern using pattern_induction generalizing text with
  | nil => rw [isMatch, List.isEmpty_iff, matches_nil_iff]
  | waiting =>
    refine iff_of_false ?_ not_matches_waiting
    cases text <;> nofun
  | escaped char pattern inductionHypothesis =>
    rw [matches_escaped_iff]
    cases text <;> simp [isMatch, inductionHypothesis]
  | anyText pattern inductionHypothesis =>
    rw [matches_anyText_iff, isMatch, List.any_eq_true]
    simp only [List.mem_tails, inductionHypothesis]
    constructor
    · rintro ⟨rest, ⟨skipped, same⟩, onward⟩
      exact ⟨skipped, rest, same.symm, onward⟩
    · rintro ⟨skipped, rest, rfl, onward⟩
      exact ⟨rest, List.suffix_append skipped rest, onward⟩
  | anyChar pattern inductionHypothesis =>
    rw [matches_anyChar_iff]
    cases text <;> simp [isMatch, inductionHypothesis]
  | itself char pattern ordinary inductionHypothesis =>
    obtain ⟨notPercent, notUnderscore, notBackslash⟩ := ordinary_iff.mp ordinary
    rw [matches_itself_iff ordinary]
    cases text with
    | nil =>
      rw [isMatch]
      · simp
      · exact notPercent
    | cons first others =>
      rw [isMatch]
      · simp [inductionHypothesis, ordinary]
      · exact notPercent
      · exact notUnderscore
      · exact fun _ _ backslash _ => notBackslash backslash

instance : Decidable (Matches pattern text) :=
  decidable_of_iff _ isMatch_iff

/-! ### Patterns one after another -/

theorem endsInEscape_itself (ordinary : isSpecial char = false) :
    endsInEscape (char :: pattern) = endsInEscape pattern := by
  obtain ⟨-, -, notBackslash⟩ := ordinary_iff.mp ordinary
  rw [endsInEscape]
  · exact fun backslash _ => notBackslash backslash
  · exact fun _ _ backslash _ => notBackslash backslash

/-- Patterns match texts one behind the other. -/
theorem Matches.append {first second start rest : List Char} (before : Matches first start)
    (after : Matches second rest) : Matches (first ++ second) (start ++ rest) := by
  induction before with
  | nil => exact after
  | anyText skipped _ inductionHypothesis =>
    rw [List.append_assoc]
    exact .anyText skipped inductionHypothesis
  | anyChar char _ inductionHypothesis => exact .anyChar char inductionHypothesis
  | escaped char _ inductionHypothesis => exact .escaped char inductionHypothesis
  | itself ordinary _ inductionHypothesis => exact .itself ordinary inductionHypothesis

/-- What matches two patterns one after another falls into two parts, if the second pattern
does not lose its first character to the first one. -/
theorem matches_append_iff {first second : List Char} (complete : endsInEscape first = false) :
    Matches (first ++ second) text ↔
      ∃ start rest, text = start ++ rest ∧ Matches first start ∧ Matches second rest := by
  refine ⟨fun whole => ?_, ?_⟩
  · induction first using pattern_induction generalizing text with
    | nil => exact ⟨[], text, rfl, .nil, whole⟩
    | waiting => cases complete
    | escaped char pattern inductionHypothesis =>
      obtain ⟨others, rfl, onward⟩ := matches_escaped_iff.mp whole
      obtain ⟨start, rest, rfl, before, after⟩ := inductionHypothesis complete onward
      exact ⟨char :: start, rest, rfl, .escaped char before, after⟩
    | anyText pattern inductionHypothesis =>
      obtain ⟨skipped, others, rfl, onward⟩ := matches_anyText_iff.mp whole
      obtain ⟨start, rest, rfl, before, after⟩ := inductionHypothesis complete onward
      exact ⟨skipped ++ start, rest, (List.append_assoc _ _ _).symm, .anyText skipped before, after⟩
    | anyChar pattern inductionHypothesis =>
      obtain ⟨char, others, rfl, onward⟩ := matches_anyChar_iff.mp whole
      obtain ⟨start, rest, rfl, before, after⟩ := inductionHypothesis complete onward
      exact ⟨char :: start, rest, rfl, .anyChar char before, after⟩
    | itself char pattern ordinary inductionHypothesis =>
      obtain ⟨others, rfl, onward⟩ := (matches_itself_iff ordinary).mp whole
      rw [endsInEscape_itself ordinary] at complete
      obtain ⟨start, rest, rfl, before, after⟩ := inductionHypothesis complete onward
      exact ⟨char :: start, rest, rfl, .itself ordinary before, after⟩
  · rintro ⟨start, rest, rfl, before, after⟩
    exact before.append after

/-! ### Escaped texts -/

/-- A character is written behind a backslash or has no meaning of its own. -/
theorem patternChar_cases (char : Char) :
    patternChar char = ['\\', char] ∨ patternChar char = [char] ∧ isSpecial char = false := by
  rw [patternChar, ordinary_iff]
  split
  · exact .inl rfl
  · next ordinary =>
    simp only [not_or] at ordinary
    exact .inr ⟨rfl, ordinary.2.1, ordinary.2.2, ordinary.1⟩

/-- Either way it matches itself and nothing else. -/
theorem matches_patternChar_append_iff :
    Matches (patternChar char ++ pattern) text ↔
      ∃ rest, text = char :: rest ∧ Matches pattern rest := by
  rcases patternChar_cases char with escaped | ⟨itself, ordinary⟩
  · rw [escaped]
    exact matches_escaped_iff
  · rw [itself]
    exact matches_itself_iff ordinary

theorem endsInEscape_patternChar_append :
    endsInEscape (patternChar char ++ pattern) = endsInEscape pattern := by
  rcases patternChar_cases char with escaped | ⟨itself, ordinary⟩
  · rw [escaped]
    rfl
  · rw [itself]
    exact endsInEscape_itself ordinary

theorem matches_escapePattern_iff {escapee : String} :
    Matches (escapePattern escapee).toList text ↔ text = escapee.toList := by
  rw [escapePattern, String.toList_ofList]
  induction escapee.toList generalizing text with
  | nil => exact matches_nil_iff
  | cons char rest inductionHypothesis =>
    rw [List.flatMap_cons, matches_patternChar_append_iff]
    simp only [inductionHypothesis, exists_eq_right]

/-- An escaped text leaves no backslash waiting. -/
theorem endsInEscape_escapePattern (escapee : String) :
    endsInEscape (escapePattern escapee).toList = false := by
  rw [escapePattern, String.toList_ofList]
  induction escapee.toList with
  | nil => rfl
  | cons char rest inductionHypothesis =>
    rw [List.flatMap_cons, endsInEscape_patternChar_append, inductionHypothesis]

/-- The text is like the pattern. -/
def IsLike (pattern text : String) : Prop :=
  Matches pattern.toList text.toList

instance (pattern text : String) : Decidable (IsLike pattern text) :=
  inferInstanceAs (Decidable (Matches _ _))

/-- A pattern that leaves no backslash waiting can be cut anywhere behind it. -/
theorem isLike_append_iff {first second text : String}
    (complete : endsInEscape first.toList = false) :
    IsLike (first ++ second) text ↔
      ∃ start rest : String, text = start ++ rest ∧ IsLike first start ∧ IsLike second rest := by
  rw [IsLike, String.toList_append, matches_append_iff complete]
  constructor
  · rintro ⟨start, rest, same, before, after⟩
    refine ⟨String.ofList start, String.ofList rest, ?_, ?_, ?_⟩
    · rw [← String.toList_inj, same, String.toList_append, String.toList_ofList,
        String.toList_ofList]
    · rwa [IsLike, String.toList_ofList]
    · rwa [IsLike, String.toList_ofList]
  · rintro ⟨start, rest, rfl, before, after⟩
    exact ⟨start.toList, rest.toList, String.toList_append, before, after⟩

/-- On its own an escaped text matches itself and nothing else. -/
theorem isLike_escapePattern_iff {escapee text : String} :
    IsLike (escapePattern escapee) text ↔ text = escapee := by
  rw [IsLike, matches_escapePattern_iff, String.toList_inj]

theorem isLike_anyText (text : String) : IsLike "%" text := by
  have whole := Matches.anyText text.toList .nil
  rwa [List.append_nil] at whole

/-- Between two patterns it stands for itself, and the patterns match what is
around it. -/
theorem isLike_between_iff {before escapee after text : String}
    (complete : endsInEscape before.toList = false) :
    IsLike (before ++ escapePattern escapee ++ after) text ↔
      ∃ start rest : String, text = start ++ escapee ++ rest ∧
        IsLike before start ∧ IsLike after rest := by
  have onward (others : String) : IsLike (escapePattern escapee ++ after) others ↔ _ :=
    isLike_append_iff (endsInEscape_escapePattern escapee)
  rw [String.append_assoc, isLike_append_iff complete]
  constructor
  · rintro ⟨start, others, rfl, matchesBefore, matchesOthers⟩
    obtain ⟨itself, rest, rfl, matchesItself, matchesAfter⟩ := (onward others).mp matchesOthers
    obtain rfl := isLike_escapePattern_iff.mp matchesItself
    exact ⟨start, rest, (String.append_assoc ..).symm, matchesBefore, matchesAfter⟩
  · rintro ⟨start, rest, rfl, matchesBefore, matchesAfter⟩
    refine ⟨start, escapee ++ rest, String.append_assoc .., matchesBefore, ?_⟩
    exact (onward _).mpr ⟨escapee, rest, rfl, isLike_escapePattern_iff.mpr rfl, matchesAfter⟩

/-- Between two patterns, an escaped text matches itself between what the two match, unless
the pattern before it ends with a backslash that waits for a character. So alone it matches
itself only, and between two percent signs whatever has it inside. -/
theorem escapePattern_matches_itself :
    (∀ before escapee after text : String, endsInEscape before.toList = false →
      (IsLike (before ++ escapePattern escapee ++ after) text ↔
        ∃ start rest : String, text = start ++ escapee ++ rest ∧
          IsLike before start ∧ IsLike after rest)) ∧
    (∀ escapee text : String, IsLike (escapePattern escapee) text ↔ text = escapee) ∧
    ∀ escapee text : String, IsLike ("%" ++ escapePattern escapee ++ "%") text ↔
      ∃ start rest : String, text = start ++ escapee ++ rest := by
  refine ⟨?_, ?_, ?_⟩
  · intro before escapee after text complete
    exact isLike_between_iff complete
  · intro escapee text
    exact isLike_escapePattern_iff
  · intro escapee text
    rw [isLike_between_iff (by decide)]
    simp only [isLike_anyText, and_true]

/-- A discount with wildcards in its name, after a character and a percent sign. -/
theorem escapePattern_discount :
    endsInEscape "_\\%".toList = false ∧
      IsLike ("_\\%" ++ escapePattern "50%_\\" ++ "%") "a%50%_\\ off" ∧
      ¬ IsLike ("_\\%" ++ escapePattern "50%_\\" ++ "%") "a%50 or\\ off" := by
  have complete : endsInEscape "_\\%".toList = false := by decide
  refine ⟨complete, ?_, by decide +kernel⟩
  exact (escapePattern_matches_itself.1 _ _ _ _ complete).mpr
    ⟨"a%", " off", by decide, by decide, by decide⟩

/-- A backslash that waits before an escaped percent sign takes the backslash of it. -/
example : IsLike ("\\" ++ escapePattern "%") "\\off" := by decide

end Reading

end SqlTree
