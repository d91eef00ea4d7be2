/-
This file reads dotted paths back by the rules of the database. A path without a space
after its last point is read as its segments, whatever they contain. The last one may
be the star, and the proposed row has the name that the database reads its word as.
So different paths of this kind are written differently.

The segments of a path are written like names, with a few exceptions that each
need a look. A last segment that is a star stays a star; it is no name. The word
for the proposed row stays bare if it is the whole qualifier, so it is read in
small letters, and the row has its name in small letters. A segment may be empty,
which is a name in quotes. None of these is written like anything else, which is
what injectivity comes down to.
-/

import SqlTree.Proofs.PathParts
import SqlTree.Proofs.Reading.Identifier

namespace SqlTree

open Quote

namespace Reading

/-! ### Reading -/

/-- A part of a path that is read: a name, or the star that stands for every column. -/
inductive PathPart where
  | name (chars : List Char)
  | star
  deriving DecidableEq

/-- Reading a name in quotes consumes something. -/
theorem readQuoted_shorter {chars name after : List Char}
    (read : readQuoted chars = some (name, after)) : after.length < chars.length := by
  fun_induction readQuoted chars generalizing name with
  | case1 | case3 => cases read
  | case2 | case5 =>
    cases read
    exact Nat.lt_succ_self _
  | case4 rest inductionHypothesis =>
    obtain ⟨⟨inner, others⟩, readInner, whole⟩ := Option.bind_eq_some_iff.mp read
    cases whole
    exact Nat.lt_succ_of_lt (Nat.lt_succ_of_lt (inductionHypothesis readInner))
  | case6 char next rest notQuote inductionHypothesis =>
    obtain ⟨⟨inner, others⟩, readInner, whole⟩ := Option.bind_eq_some_iff.mp read
    cases whole
    exact Nat.lt_succ_of_lt (inductionHypothesis readInner)

/-- So does reading any name, which makes the reading of a path end. -/
theorem readName?_shorter {chars name after : List Char}
    (read : readName? chars = some (name, after)) : after.length < chars.length := by
  rcases chars with _ | ⟨first, rest⟩
  · cases read
  · rw [readName?] at read
    split at read
    · exact Nat.lt_succ_of_lt (readQuoted_shorter read)
    · split at read
      · dsimp only at read
        split at read
        · cases read
        · cases read
          exact Nat.lt_succ_of_le (List.dropWhile_sublist _).length_le
      · cases read

/-- Reads the names that some characters start with, with points between them. A star
may be the last of them. -/
def readChain? (chars : List Char) : Option (List PathPart × List Char) :=
  match _ : readName? chars with
  | some (name, '.' :: rest) => do
    let (parts, after) ← readChain? rest
    return (.name name :: parts, after)
  | some (name, after) => some ([.name name], after)
  | none => match chars with
    | '*' :: after => some ([.star], after)
    | _ => none
termination_by chars.length
decreasing_by
  have shorter := readName?_shorter ‹readName? chars = _›
  exact Nat.lt_of_succ_lt shorter

/-- Reads the path that a text starts with: its parts and what follows it. -/
def readPath? (text : String) : Option (List PathPart × String) := do
  let (parts, after) ← readChain? text.toList
  return (parts, String.ofList after)

/-- Nothing that would belong to a path before it comes first. -/
structure EndsPath (following : List Char) : Prop where
  endsName : EndsName following
  noPoint : following.head? ≠ some '.'

variable {following : List Char}

/-- A name with a point behind it is followed by the rest of the path. -/
theorem readChain?_point {chars name rest : List Char}
    (named : readName? chars = some (name, '.' :: rest)) :
    readChain? chars =
      (readChain? rest).map fun (parts, after) => (.name name :: parts, after) := by
  rw [readChain?]
  split
  · next read =>
    rw [named] at read
    cases read
    rw [Option.map_eq_bind]
    rfl
  · next noPoint read =>
    rw [named] at read
    cases read
    exact absurd rfl (noPoint rest)
  · next read =>
    rw [named] at read
    cases read

/-- A name with no point behind it is the last. -/
theorem readChain?_name {chars name : List Char} (ends : EndsPath following)
    (named : readName? chars = some (name, following)) :
    readChain? chars = some ([.name name], following) := by
  rw [readChain?]
  split
  · next read =>
    rw [named] at read
    cases read
    exact absurd rfl ends.noPoint
  · next read =>
    rw [named] at read
    cases read
    rfl
  · next read =>
    rw [named] at read
    cases read

theorem readChain?_star (after : List Char) :
    readChain? ('*' :: after) = some ([.star], after) := by
  have unnamed : readName? ('*' :: after) = none := rfl
  rw [readChain?]
  split
  · next read =>
    rw [unnamed] at read
    cases read
  · next read =>
    rw [unnamed] at read
    cases read
  · rfl

/-! ### Parts -/

/-- What the word of the proposed row is read as. -/
def proposedName : List Char :=
  Path.excluded.map Char.toLower

/-- The parts before the last one. -/
def qualifierParts (qualifiers : List (List Char)) : List PathPart :=
  if qualifiers = [Path.excluded] then [.name proposedName] else qualifiers.map .name

/-- The last segment of a path: the star or a name. -/
def lastPart (segment : List Char) : PathPart :=
  if segment = ['*'] then .star else .name segment

/-- The segments of a path between its points, as parts. -/
def pathParts (path : String) : List PathPart :=
  let segments := splitAll '.' path.toList
  qualifierParts segments.dropLast ++ segments.getLast?.toList.map lastPart

theorem endsName_point (rest : List Char) : EndsName ('.' :: rest) := by
  intro char first
  cases first
  decide

/-- Segments with points between them are read one by one. -/
theorem readChain?_names {segments : List (List Char)} (present : segments ≠ [])
    (rest : List Char) :
    readChain? (['.'].intercalate (segments.map nameChars) ++ '.' :: rest) =
      (readChain? rest).map fun (parts, after) => (segments.map .name ++ parts, after) := by
  induction segments with
  | nil => exact absurd rfl present
  | cons segment others inductionHypothesis =>
    rcases others with _ | ⟨next, more⟩
    · rw [List.map_singleton, List.intercalate_singleton]
      exact readChain?_point (readName?_nameChars (endsName_point rest) segment)
    · rw [List.map_cons, List.map_cons, List.intercalate_cons_cons, List.append_assoc,
        List.append_assoc, List.singleton_append,
        readChain?_point (readName?_nameChars (endsName_point _) segment), ← List.map_cons,
        inductionHypothesis (List.cons_ne_nil _ _), Option.map_map]
      rfl

/-- The word for the proposed row is read as its name. -/
theorem readName?_excluded (rest : List Char) :
    readName? (Path.excluded ++ '.' :: rest) = some (proposedName, '.' :: rest) := by
  have parts : ∀ char ∈ "XCLUDED".toList, isWordPart char :=
    List.all_eq_true.mp (by decide)
  have notReserved : String.ofList proposedName ∉ reservedWords := by decide +kernel
  have read : readName? ('E' :: "XCLUDED".toList ++ '.' :: rest) = _ :=
    readName?_word (endsName_point rest) (by decide) parts
  exact read.trans (if_neg notReserved)

/-- What stands before the last point of a path. -/
theorem readChain?_qualifierChars (qualifier rest : List Char) :
    readChain? (Path.qualifierChars qualifier ++ '.' :: rest) =
      (readChain? rest).map fun (parts, after) =>
        (qualifierParts (splitAll '.' qualifier) ++ parts, after) := by
  have single : splitAll '.' qualifier = [Path.excluded] ↔ qualifier = Path.excluded :=
    splitAll_eq_singleton_iff (by decide)
  rw [Path.qualifierChars]
  by_cases proposed : qualifier = Path.excluded
  · rw [if_pos proposed, qualifierParts, if_pos (single.mpr proposed)]
    exact readChain?_point (readName?_excluded rest)
  · rw [if_neg proposed, qualifierParts, if_neg (mt single.mp proposed)]
    exact readChain?_names (splitAll_ne_nil '.' qualifier) rest

/-- What stands behind it. -/
theorem readChain?_lastChars (ends : EndsPath following) (name : List Char) :
    readChain? (Path.lastChars name ++ following) = some ([lastPart name], following) := by
  rw [Path.lastChars, lastPart]
  split
  · next star =>
    rw [star]
    exact readChain?_star following
  · exact readChain?_name ends (readName?_nameChars ends.endsName name)

end Reading

namespace Path

open Reading

/-- The segments before the last point. -/
def qualifiers (path : Path) : List (List Char) :=
  match path.qualifier with
  | some qualifier => splitAll '.' qualifier
  | none => []

variable {path : Path}

/-- A path without a trailer is cut at its points into its qualifiers and its
last name. -/
theorem IsCut.splitAll_source (cut : path.IsCut) (noTrailer : path.trailer = []) :
    splitAll '.' path.source = path.qualifiers ++ [path.name] := by
  obtain ⟨qualifier, name, trailer⟩ := path
  cases noTrailer
  rcases qualifier with _ | before
  · rw [source, List.append_nil]
    exact splitAll_of_not_mem cut.noPoint
  · rw [source, List.append_nil, List.append_assoc, List.singleton_append, splitAll_append,
      splitAll_of_not_mem cut.noPoint]
    rfl

/-- Whatever the segments contain, the text of a path is read as them. -/
theorem readChain?_chars {following : List Char} (noTrailer : path.trailer = [])
    (ends : EndsPath following) :
    readChain? (path.chars ++ following) =
      some (qualifierParts path.qualifiers ++ [lastPart path.name], following) := by
  obtain ⟨qualifier, name, trailer⟩ := path
  cases noTrailer
  rcases qualifier with _ | before
  · rw [chars, List.append_nil]
    exact readChain?_lastChars ends name
  · rw [chars, List.append_nil, List.append_assoc, List.append_assoc, List.singleton_append,
      readChain?_qualifierChars, readChain?_lastChars ends]
    rfl

end Path

namespace Reading

variable {path : String}

/-- The same about the cut that the library makes. -/
theorem splitAll_of_isPlainPath (plain : isPlainPath path) :
    splitAll '.' path.toList =
      (Path.ofChars path.toList).qualifiers ++ [(Path.ofChars path.toList).name] := by
  have cut := Path.isCut_ofChars path.toList
  rw [← cut.splitAll_source ((isPlainPath_iff path).mp plain), Path.source_ofChars]

/-- So the parts of a path are those of its qualifiers and its last segment. -/
theorem pathParts_eq (plain : isPlainPath path) :
    pathParts path = qualifierParts (Path.ofChars path.toList).qualifiers ++
      [lastPart (Path.ofChars path.toList).name] := by
  rw [pathParts, splitAll_of_isPlainPath plain, List.dropLast_concat, List.getLast?_concat]
  rfl

/-- A path without a trailer is read back, and reading stops where it ends. -/
theorem readPath?_append_quotePath (plain : isPlainPath path) {following : String}
    (ends : EndsPath following.toList) :
    readPath? (quotePath path ++ following) = some (pathParts path, following) := by
  rw [readPath?, String.toList_append, quotePath, String.toList_ofList,
    Path.readChain?_chars ((isPlainPath_iff path).mp plain) ends, pathParts_eq plain]
  show some (_, String.ofList following.toList) = _
  rw [String.ofList_toList]

/-! ### Different paths -/

/-- No name is taken for the star. -/
theorem lastPart_injective : Function.Injective lastPart := by
  intro first second same
  simp only [lastPart] at same
  split at same <;> split at same
  · next firstStar secondStar => rw [firstStar, secondStar]
  · cases same
  · cases same
  · exact PathPart.name.inj same

/-- The parts tell the segments, up to the letters of the proposed row. -/
theorem eq_of_qualifierParts_eq {first second : List (List Char)}
    (same : qualifierParts first = qualifierParts second) :
    first = second ∨ first = [Path.excluded] ∧ second = [proposedName] ∨
      first = [proposedName] ∧ second = [Path.excluded] := by
  have names (left right : List (List Char))
      (alike : left.map PathPart.name = right.map PathPart.name) : left = right :=
    (List.map_inj_right fun _ _ => PathPart.name.inj).mp alike
  simp only [qualifierParts] at same
  split at same <;> split at same
  · next firstIs secondIs => exact .inl (firstIs.trans secondIs.symm)
  · next firstIs _ => exact .inr (.inl ⟨firstIs, (names [proposedName] second same).symm⟩)
  · next _ secondIs => exact .inr (.inr ⟨names first [proposedName] same, secondIs⟩)
  · exact .inl (names first second same)

/-- The proposed row and a relation that is named like it are written with other letters. -/
theorem chars_excluded_ne {first second : Path} (firstIs : first.qualifiers = [Path.excluded])
    (secondIs : second.qualifiers = [proposedName]) : first.chars ≠ second.chars := by
  have single {path : Path} {qualifier : List Char} (noPoint : '.' ∉ qualifier)
      (only : path.qualifiers = [qualifier]) : path.qualifier = some qualifier := by
    rw [Path.qualifiers] at only
    split at only
    · next whole present => rw [present, (splitAll_eq_singleton_iff noPoint).mp only]
    · cases only
  have small : Path.qualifierChars proposedName = proposedName := by decide +kernel
  intro same
  -- Both are read as the same parts, so only the letters of the texts tell them apart.
  rw [Path.chars, Path.chars, single (by decide) firstIs, single (by decide) secondIs] at same
  simp only [small] at same
  have firsts := congrArg List.head? same
  cases firsts

/-- Two paths without a trailer that are written alike are the same. -/
theorem eq_of_quotePath_eq {first second : String} (firstPlain : isPlainPath first)
    (secondPlain : isPlainPath second) (same : quotePath first = quotePath second) :
    first = second := by
  have ends : EndsPath "".toList := ⟨endsName_nil, nofun⟩
  have firstRead := readPath?_append_quotePath firstPlain ends
  rw [same, readPath?_append_quotePath secondPlain ends] at firstRead
  have parts := (Prod.mk.inj (Option.some.inj firstRead)).1
  rw [pathParts_eq firstPlain, pathParts_eq secondPlain] at parts
  obtain ⟨qualifiers, lasts⟩ := List.append_inj' parts rfl
  have names := lastPart_injective (List.head_eq_of_cons_eq lasts)
  have text := String.ofList_injective same
  have segments : splitAll '.' first.toList = splitAll '.' second.toList := by
    rw [splitAll_of_isPlainPath firstPlain, splitAll_of_isPlainPath secondPlain, names]
    rcases eq_of_qualifierParts_eq qualifiers with alike | ⟨secondIs, firstIs⟩ | ⟨secondIs, firstIs⟩
    · rw [alike]
    · exact absurd text.symm (chars_excluded_ne secondIs firstIs)
    · exact absurd text (chars_excluded_ne firstIs secondIs)
  rw [← String.toList_inj, ← intercalate_splitAll '.' first.toList, segments, intercalate_splitAll]

/-- A path without a space after its last point is read as its segments, up to its end,
if what follows starts with neither a quote nor a point nor a part of a word. So
different paths of this kind are written differently. The proposed row stands bare. Any
other path is one of this kind up to the first space after its last point, and the rest,
which has no point, is copied as it is. No path has a character that it is cut inside of. -/
theorem quotePath_is_read_back :
    (∀ path following : String, isPlainPath path → EndsPath following.toList →
      readPath? (quotePath path ++ following) = some (pathParts path, following)) ∧
    (∀ first second : String, isPlainPath first → isPlainPath second →
      quotePath first = quotePath second → first = second) ∧
    (∀ column : String, '.' ∉ column.toList →
      quotePath ("EXCLUDED." ++ column) = "EXCLUDED." ++ quotePath column) ∧
    (∀ path : String, ¬ isPlainPath path →
      ∃ front rest : String, path = front ++ " " ++ rest ∧ isPlainPath front ∧
        '.' ∉ rest.toList ∧ quotePath path = quotePath front ++ " " ++ rest) ∧
    ∀ path : String,
      (Path.ofBytes? path.toList).map (fun parts => String.ofList parts.chars) =
        some (quotePath path) := by
  refine ⟨?_, ?_, ?_, ?_, ?_⟩
  · intro path following plain ends
    exact readPath?_append_quotePath plain ends
  · intro first second firstPlain secondPlain same
    exact eq_of_quotePath_eq firstPlain secondPlain same
  · intro column noPoint
    exact quotePath_proposed noPoint
  · intro path trailing
    exact quotePath_trailer trailing
  · intro path
    rw [Path.ofBytes?_eq]
    rfl

/-- Quotes and reserved words in a path, with a star at its end. -/
theorem quotePath_everyColumn :
    isPlainPath "Order.a\"b.user.*" ∧ EndsPath ", x".toList ∧
      quotePath "Order.a\"b.user.*" = "\"Order\".\"a\"\"b\".\"user\".*" ∧
      readPath? (quotePath "Order.a\"b.user.*" ++ ", x") =
        some ([.name "Order".toList, .name "a\"b".toList, .name "user".toList, .star], ", x") ∧
      quotePath ("EXCLUDED." ++ "user") = "EXCLUDED." ++ "\"user\"" ∧
      ¬ isPlainPath "u.on NULLS LAST" ∧
      ∃ front rest : String, "u.on NULLS LAST" = front ++ " " ++ rest ∧ isPlainPath front ∧
        '.' ∉ rest.toList ∧ quotePath "u.on NULLS LAST" = quotePath front ++ " " ++ rest := by
  have plain : isPlainPath "Order.a\"b.user.*" := by decide +kernel
  have ends : EndsPath ", x".toList := by
    refine ⟨fun char first => ?_, nofun⟩
    cases first
    decide
  have noPoint : '.' ∉ "user".toList := by decide
  have trailing : ¬ isPlainPath "u.on NULLS LAST" := by decide +kernel
  refine ⟨plain, ends, by decide +kernel, ?_, ?_, trailing, ?_⟩
  · refine (quotePath_is_read_back.1 _ _ plain ends).trans ?_
    decide +kernel
  · refine (quotePath_is_read_back.2.2.1 _ noPoint).trans ?_
    decide +kernel
  · exact quotePath_is_read_back.2.2.2.1 _ trailing

end Reading

end SqlTree
