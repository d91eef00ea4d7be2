/-
This file says how a path is cut into its parts: at its last point and at the first
space after it. What is cut can be put together again, and what is put together is cut
into the same parts. So a path is a plain one and a trailer without a point, which is
copied as it is. The positions are also counted in bytes, where one inside of a
character would be none to cut at; no path has such a position.

The cut is made twice here: once on characters, which is how the library is
modelled, and once on byte offsets, as a search for the last point and the first
space would have it. Both find the same places. An offset that is found is the
length in bytes of what stands before it, so it is the border of a character; that
both marks have one byte is the reason why the offset behind a mark is one more
and a border again.
-/

import SqlTree.Proofs.RawFree
import SqlTree.Proofs.SingleName

namespace SqlTree

open Quote

/-! ### Cutting at marks -/

/-- A text with a mark in it is split at the mark. -/
theorem splitAll_append (mark : Char) (first rest : List Char) :
    splitAll mark (first ++ mark :: rest) = splitAll mark first ++ splitAll mark rest := by
  induction first with
  | nil => exact if_pos rfl
  | cons char others inductionHypothesis =>
    rw [List.cons_append, splitAll, splitAll, inductionHypothesis]
    by_cases same : char = mark
    · rw [if_pos same, if_pos same, List.cons_append]
    · rw [if_neg same, if_neg same]
      obtain ⟨piece, pieces, pieced⟩ :=
        List.exists_cons_of_ne_nil (Reading.splitAll_ne_nil mark others)
      rw [pieced]
      rfl

/-- Without a mark nothing is split. -/
theorem splitAll_of_not_mem {mark : Char} {chars : List Char} (absent : mark ∉ chars) :
    splitAll mark chars = [chars] := by
  induction chars with
  | nil => rfl
  | cons char rest inductionHypothesis =>
    rw [List.mem_cons, not_or] at absent
    rw [splitAll, if_neg (Ne.symm absent.1), inductionHypothesis absent.2]

/-- What was split is put together again by the mark. -/
theorem intercalate_splitAll (mark : Char) (chars : List Char) :
    [mark].intercalate (splitAll mark chars) = chars := by
  induction chars with
  | nil => rfl
  | cons char rest inductionHypothesis =>
    obtain ⟨piece, pieces, pieced⟩ :=
      List.exists_cons_of_ne_nil (Reading.splitAll_ne_nil mark rest)
    rw [pieced] at inductionHypothesis
    rw [splitAll, pieced]
    by_cases same : char = mark
    · rw [if_pos same, List.intercalate_cons_cons, inductionHypothesis, same]
      rfl
    · rw [if_neg same, ← inductionHypothesis]
      rcases pieces with _ | ⟨next, others⟩
      · rw [List.intercalate_singleton, List.intercalate_singleton]
      · rw [List.intercalate_cons_cons, List.intercalate_cons_cons]
        rfl

theorem splitAll_eq_singleton_iff {mark : Char} {chars piece : List Char} (absent : mark ∉ piece) :
    splitAll mark chars = [piece] ↔ chars = piece := by
  constructor
  · intro single
    rw [← intercalate_splitAll mark chars, single, List.intercalate_singleton]
  · rintro rfl
    exact splitAll_of_not_mem absent

/-- A text either is one piece or has a last mark. -/
theorem mark_cases (mark : Char) (chars : List Char) :
    mark ∉ chars ∨ ∃ before after, chars = before ++ mark :: after ∧ mark ∉ after := by
  induction chars with
  | nil => exact .inl List.not_mem_nil
  | cons char rest inductionHypothesis =>
    rcases inductionHypothesis with absent | ⟨before, after, rfl, absent⟩
    · by_cases same : char = mark
      · exact .inr ⟨[], rest, by rw [same, List.nil_append], absent⟩
      · exact .inl (List.not_mem_cons_of_ne_of_not_mem (Ne.symm same) absent)
    · exact .inr ⟨char :: before, after, rfl, absent⟩

/-! ### Cutting paths -/

namespace Path

/-- The text that a path is cut out of. -/
def source (path : Path) : List Char :=
  (match path.qualifier with
    | some qualifier => qualifier ++ ['.']
    | none => [])
    ++ path.name ++ path.trailer

/-- The parts are cut at the last point and at the first space after it. -/
structure IsCut (path : Path) : Prop where
  noPoint : '.' ∉ path.name
  noSpace : ' ' ∉ path.name
  opens : path.trailer = [] ∨ ∃ rest, path.trailer = ' ' :: rest
  trailerNoPoint : '.' ∉ path.trailer

/-- Without a point the whole path is its last segment, trailer included. -/
theorem ofChars_of_not_mem {chars : List Char} (noPoint : '.' ∉ chars) :
    ofChars chars = ⟨none, chars.takeWhile (· ≠ ' '), chars.dropWhile (· ≠ ' ')⟩ := by
  rw [ofChars, splitLast?_eq_none noPoint]

/-- With a last segment known, the path is cut before it and at its first space. -/
theorem ofChars_append {last : List Char} (before : List Char) (noPoint : '.' ∉ last) :
    ofChars (before ++ '.' :: last) =
      ⟨some before, last.takeWhile (· ≠ ' '), last.dropWhile (· ≠ ' ')⟩ := by
  rw [ofChars, splitLast?_append, splitLast?_eq_none noPoint]

theorem all_ne_space_iff (chars : List Char) :
    (∀ char ∈ chars, decide (char ≠ ' ') = true) ↔ ' ' ∉ chars := by
  constructor
  · intro solid space
    exact of_decide_eq_true (solid ' ' space) rfl
  · intro noSpace char member
    refine decide_eq_true ?_
    rintro rfl
    exact noSpace member

theorem isCut_last {last : List Char} (qualifier : Option (List Char)) (noPoint : '.' ∉ last) :
    IsCut ⟨qualifier, last.takeWhile (· ≠ ' '), last.dropWhile (· ≠ ' ')⟩ where
  noPoint := fun point => noPoint ((List.takeWhile_sublist _).subset point)
  noSpace := (all_ne_space_iff _).mp fun _ member =>
    List.mem_takeWhile_imp (p := fun char => decide (char ≠ ' ')) member
  opens := by
    by_cases space : ' ' ∈ last
    · exact .inr (dropWhile_of_space space)
    · exact .inl (List.dropWhile_eq_nil_iff.mpr ((all_ne_space_iff last).mpr space))
  trailerNoPoint := fun point => noPoint ((List.dropWhile_sublist _).subset point)

/-- What the library cuts has no point in its last segment and no space in its name. -/
theorem isCut_ofChars (chars : List Char) : (ofChars chars).IsCut := by
  rcases mark_cases '.' chars with noPoint | ⟨before, last, rfl, noPoint⟩
  · rw [ofChars_of_not_mem noPoint]
    exact isCut_last none noPoint
  · rw [ofChars_append before noPoint]
    exact isCut_last (some before) noPoint

/-- Nothing gets lost in the cut. -/
theorem source_ofChars (chars : List Char) : (ofChars chars).source = chars := by
  rcases mark_cases '.' chars with noPoint | ⟨before, last, rfl, noPoint⟩
  · rw [ofChars_of_not_mem noPoint, source, List.nil_append, List.takeWhile_append_dropWhile]
  · rw [ofChars_append before noPoint, source, List.append_assoc, List.append_assoc,
      List.takeWhile_append_dropWhile, List.singleton_append]

/-- What is in parts already is cut into these parts. -/
theorem ofChars_source {path : Path} (cut : path.IsCut) : ofChars path.source = path := by
  obtain ⟨qualifier, name, trailer⟩ := path
  obtain ⟨noPoint, noSpace, opens, trailerNoPoint⟩ := cut
  have noPointInLast : '.' ∉ name ++ trailer :=
    List.not_mem_append noPoint trailerNoPoint
  have solid := (all_ne_space_iff name).mpr noSpace
  have nameCut : (name ++ trailer).takeWhile (· ≠ ' ') = name := by
    rw [List.takeWhile_append_of_pos solid]
    rcases opens with rfl | ⟨rest, rfl⟩ <;> exact List.append_nil name
  have trailerCut : (name ++ trailer).dropWhile (· ≠ ' ') = trailer := by
    rw [List.dropWhile_append_of_pos solid]
    rcases opens with rfl | ⟨rest, rfl⟩ <;> rfl
  rcases qualifier with _ | before
  · rw [source, List.nil_append, ofChars_of_not_mem noPointInLast, nameCut, trailerCut]
  · rw [source, List.append_assoc, List.append_assoc, List.singleton_append,
      ofChars_append before noPointInLast, nameCut, trailerCut]

/-- The path without its trailer. -/
def front (path : Path) : Path :=
  { path with trailer := [] }

theorem IsCut.front {path : Path} (cut : path.IsCut) : path.front.IsCut :=
  ⟨cut.noPoint, cut.noSpace, .inl rfl, List.not_mem_nil⟩

/-- A path is its front and its trailer. -/
theorem source_eq_front_append (path : Path) : path.source = path.front.source ++ path.trailer := by
  rw [front, source, source, List.append_nil]

/-- So is what is written of it: the trailer is copied. -/
theorem chars_eq_front_append (path : Path) : path.chars = path.front.chars ++ path.trailer := by
  rw [front, chars, chars, List.append_nil]

end Path

/-- A plain path is one without a trailer. -/
theorem isPlainPath_iff (path : String) :
    isPlainPath path = true ↔ (Path.ofChars path.toList).trailer = [] := by
  refine ⟨trailer_eq_nil, fun noTrailer => ?_⟩
  have noSpace (last : List Char) (solid : last.dropWhile (· ≠ ' ') = []) :
      (!last.contains ' ') = true := by
    rw [Bool.not_eq_true', ← Bool.not_eq_true, List.contains_iff_mem]
    exact (Path.all_ne_space_iff last).mp (List.dropWhile_eq_nil_iff.mp solid)
  unfold isPlainPath
  unfold Path.ofChars at noTrailer
  cases split : splitLast? '.' path.toList with
  | none =>
    rw [split] at noTrailer
    exact noSpace _ noTrailer
  | some parts =>
    rw [split] at noTrailer
    exact noSpace _ noTrailer

/-! ### Trailers -/

/-- A path with a space in its last segment is a plain one, up to the first such space. -/
theorem quotePath_trailer (trailing : ¬ isPlainPath path) :
    ∃ front rest : String, path = front ++ " " ++ rest ∧ isPlainPath front ∧
      '.' ∉ rest.toList ∧ quotePath path = quotePath front ++ " " ++ rest := by
  have cut := Path.isCut_ofChars path.toList
  have source := Path.source_ofChars path.toList
  generalize whole : Path.ofChars path.toList = parts at cut source
  have frontCut := Path.ofChars_source cut.front
  rw [isPlainPath_iff, whole] at trailing
  obtain ⟨rest, trailer⟩ := cut.opens.resolve_left trailing
  refine ⟨String.ofList parts.front.source, String.ofList rest, ?_, ?_, ?_, ?_⟩
  · rw [Path.source_eq_front_append, trailer] at source
    rw [← String.toList_inj, ← source]
    simp
  · rw [isPlainPath_iff, String.toList_ofList, frontCut]
    rfl
  · have noPoint := cut.trailerNoPoint
    rw [trailer] at noPoint
    rw [String.toList_ofList]
    exact fun point => noPoint (List.mem_cons_of_mem _ point)
  · rw [quotePath, quotePath, whole, String.toList_ofList, frontCut, Path.chars_eq_front_append,
      trailer, ← String.toList_inj]
    simp

/-! ### Positions in bytes -/

/-- The length of a text in bytes. -/
def byteSize : List Char → Nat
  | [] => 0
  | char :: rest => char.utf8Size + byteSize rest

theorem byteSize_append (first rest : List Char) :
    byteSize (first ++ rest) = byteSize first + byteSize rest := by
  induction first with
  | nil => exact (Nat.zero_add _).symm
  | cons char others inductionHypothesis =>
    rw [List.cons_append, byteSize, byteSize, inductionHypothesis, Nat.add_assoc]

/-- The two sides of a position in bytes. There are none if the position is inside of
a character or after the end. -/
def cutAt? : Nat → List Char → Option (List Char × List Char)
  | 0, chars => some ([], chars)
  | _ + 1, [] => none
  | offset + 1, char :: rest =>
    if char.utf8Size ≤ offset + 1 then do
      let (before, after) ← cutAt? (offset + 1 - char.utf8Size) rest
      return (char :: before, after)
    else none

/-- The position of the first mark, in bytes. -/
def firstOffset? (mark : Char) : List Char → Option Nat
  | [] => none
  | char :: rest =>
    if char = mark then some 0 else (firstOffset? mark rest).map (char.utf8Size + ·)

/-- The position of the last mark, in bytes. -/
def lastOffset? (mark : Char) : List Char → Option Nat
  | [] => none
  | char :: rest =>
    match lastOffset? mark rest with
    | some offset => some (char.utf8Size + offset)
    | none => if char = mark then some 0 else none

/-- What stands before the last point, if there is one, and what stands after it. -/
def cutQualifier? (chars : List Char) : Option (Option (List Char) × List Char) :=
  match lastOffset? '.' chars with
  | some offset => do
    let (before, _) ← cutAt? offset chars
    let (_, after) ← cutAt? (offset + 1) chars
    return (some before, after)
  | none => some (none, chars)

/-- A name and its trailer from the first space on. -/
def cutTrailer? (chars : List Char) : Option (List Char × List Char) :=
  match firstOffset? ' ' chars with
  | some offset => cutAt? offset chars
  | none => some (chars, [])

/-- The parts of a path, cut at positions in bytes. -/
def Path.ofBytes? (chars : List Char) : Option Path := do
  let (qualifier, last) ← cutQualifier? chars
  let (name, trailer) ← cutTrailer? last
  return ⟨qualifier, name, trailer⟩

/-- A text can be cut behind any of its characters. -/
theorem cutAt?_byteSize (before after : List Char) :
    cutAt? (byteSize before) (before ++ after) = some (before, after) := by
  induction before with
  | nil =>
    show cutAt? 0 after = _
    rw [cutAt?]
  | cons char rest inductionHypothesis =>
    have size : byteSize (char :: rest) = char.utf8Size + byteSize rest := rfl
    obtain ⟨offset, next⟩ : ∃ offset, byteSize (char :: rest) = offset + 1 :=
      Nat.exists_eq_succ_of_ne_zero (by have := char.utf8Size_pos; omega)
    have others : offset + 1 - char.utf8Size = byteSize rest := by omega
    rw [next, List.cons_append, cutAt?, if_pos (by omega), others, inductionHypothesis]
    rfl

/-- The first mark is found behind what has none. -/
theorem firstOffset?_append {mark : Char} {before : List Char} (absent : mark ∉ before)
    (after : List Char) :
    firstOffset? mark (before ++ mark :: after) = some (byteSize before) := by
  induction before with
  | nil => exact if_pos rfl
  | cons char rest inductionHypothesis =>
    rw [List.mem_cons, not_or] at absent
    rw [List.cons_append, firstOffset?, if_neg (Ne.symm absent.1), inductionHypothesis absent.2]
    rfl

theorem firstOffset?_of_not_mem {mark : Char} {chars : List Char} (absent : mark ∉ chars) :
    firstOffset? mark chars = none := by
  induction chars with
  | nil => rfl
  | cons char rest inductionHypothesis =>
    rw [List.mem_cons, not_or] at absent
    rw [firstOffset?, if_neg (Ne.symm absent.1), inductionHypothesis absent.2]
    rfl

theorem lastOffset?_of_not_mem {mark : Char} {chars : List Char} (absent : mark ∉ chars) :
    lastOffset? mark chars = none := by
  induction chars with
  | nil => rfl
  | cons char rest inductionHypothesis =>
    rw [List.mem_cons, not_or] at absent
    rw [lastOffset?, inductionHypothesis absent.2]
    exact if_neg (Ne.symm absent.1)

/-- The last mark is found before what has none. -/
theorem lastOffset?_append {mark : Char} (before : List Char) {after : List Char}
    (absent : mark ∉ after) :
    lastOffset? mark (before ++ mark :: after) = some (byteSize before) := by
  induction before with
  | nil =>
    rw [List.nil_append, lastOffset?, lastOffset?_of_not_mem absent]
    exact if_pos rfl
  | cons char rest inductionHypothesis =>
    rw [List.cons_append, lastOffset?, inductionHypothesis]
    rfl

theorem cutQualifier?_of_not_mem {chars : List Char} (noPoint : '.' ∉ chars) :
    cutQualifier? chars = some (none, chars) := by
  rw [cutQualifier?, lastOffset?_of_not_mem noPoint]

/-- The qualifier ends before the last point. -/
theorem cutQualifier?_append (before : List Char) {after : List Char} (noPoint : '.' ∉ after) :
    cutQualifier? (before ++ '.' :: after) = some (some before, after) := by
  -- A point is one byte, so the next position is the one after it.
  have next : byteSize before + 1 = byteSize (before ++ ['.']) :=
    (byteSize_append before ['.']).symm
  have afterPoint := cutAt?_byteSize (before ++ ['.']) after
  rw [← next, List.append_assoc, List.singleton_append] at afterPoint
  rw [cutQualifier?, lastOffset?_append before noPoint]
  simp only [cutAt?_byteSize, afterPoint, Option.bind_eq_bind, Option.bind_some]
  rfl

/-- The trailer begins with the first space. -/
theorem cutTrailer?_append {name trailer : List Char} (noSpace : ' ' ∉ name)
    (opens : trailer = [] ∨ ∃ rest, trailer = ' ' :: rest) :
    cutTrailer? (name ++ trailer) = some (name, trailer) := by
  rw [cutTrailer?]
  rcases opens with rfl | ⟨rest, rfl⟩
  · rw [List.append_nil, firstOffset?_of_not_mem noSpace]
  · rw [firstOffset?_append noSpace]
    exact cutAt?_byteSize name (' ' :: rest)

/-- Whatever characters a path has, the positions it is cut at are between them. -/
theorem Path.ofBytes?_eq (chars : List Char) : ofBytes? chars = some (ofChars chars) := by
  have cut := isCut_ofChars chars
  have source := source_ofChars chars
  generalize ofChars chars = path at cut source
  obtain ⟨qualifier, name, trailer⟩ := path
  have noPoint : '.' ∉ name ++ trailer := List.not_mem_append cut.noPoint cut.trailerNoPoint
  have last := cutTrailer?_append cut.noSpace cut.opens
  rw [ofBytes?, ← source]
  rcases qualifier with _ | before
  · rw [Path.source, List.nil_append, cutQualifier?_of_not_mem noPoint]
    simp only [Option.bind_eq_bind, Option.bind_some, last]
    rfl
  · rw [Path.source, List.append_assoc, List.append_assoc, List.singleton_append,
      cutQualifier?_append before noPoint]
    simp only [Option.bind_eq_bind, Option.bind_some, last]
    rfl

end SqlTree
