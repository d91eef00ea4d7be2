/-
This file reads names and dotted paths back. A name is one token, whether it
stands bare or in quotes; a path without a trailer is its names with points
between them. None of this depends on what the names contain.

A name is quoted unless it is a word in lower case that is not reserved, so it is
read back from either form: from the word as it is, and from the quotes with every
doubled quote taken for one. A path is a chain of names, and the reader comes to
each point with a name that is complete, wherever it ends. A segment of a path may
be empty in the qualifier of a path, where it is a name in quotes with nothing in
it.
-/

import SqlTree.Quote.Name
import SqlTree.Proofs.Reading.Bracket
import SqlTree.Proofs.Reading.Seam

namespace SqlTree.Reading

open Quote

/-! ### Single names -/

/-- The token of a name, a word if it stands bare. -/
def nameToken (name : List Char) : Token :=
  if isBare name && !isReserved (String.ofList name) then .word name else .name name

/-- A word goes on as long as its parts do. -/
theorem scan_word (chars rest : List Char) (parts : ∀ char ∈ rest, isWordPart char) :
    scan (.word chars) rest = some (.word (chars ++ rest), []) := by
  induction rest generalizing chars with
  | nil => rw [List.append_nil]; rfl
  | cons char rest inductionHypothesis =>
    have stepped : (Mode.word chars).next char = some (.word (chars ++ [char]), []) := by
      rw [Mode.next, if_pos (parts char List.mem_cons_self)]
    rw [List.append_cons]
    exact scan_cons stepped
      (inductionHypothesis _ fun other member => parts other (List.mem_cons_of_mem _ member))

/-- Between quotes every character is part of the name, and two quotes are one. -/
theorem scan_doubled (chars rest : List Char) :
    scan (.name chars) (doubled '"' rest) = some (.name (chars ++ rest), []) := by
  induction rest generalizing chars with
  | nil => rw [List.append_nil]; rfl
  | cons char rest inductionHypothesis =>
    rw [List.append_cons, doubled, List.flatMap_cons]
    have single : scan (.name chars) (if char = '"' then [char, char] else [char]) =
        some (.name (chars ++ [char]), []) := by
      by_cases quote : char = '"'
      · subst quote
        rfl
      · rw [if_neg quote]
        simp only [scan, Mode.next, if_neg quote]
        rfl
    exact scan_append single (inductionHypothesis _)

/-- A bare name starts like a word and goes on like one. -/
theorem isBare_cases {name : List Char} (bare : isBare name) :
    ∃ first rest, name = first :: rest ∧ isWordStart first ∧ ∀ char ∈ rest, isWordPart char := by
  cases name with
  | nil => cases bare
  | cons first rest =>
    have isStart (char : Char) (start : isBareStart char) : isWordStart char := by
      simp only [isBareStart, Bool.or_eq_true] at start
      simp only [isWordStart, Bool.or_eq_true]
      exact Or.inl (start.imp_left Or.inl)
    obtain ⟨start, parts⟩ := Bool.and_eq_true_iff.mp bare
    refine ⟨first, rest, rfl, isStart first start, fun char member => ?_⟩
    have part := List.all_eq_true.mp parts char member
    simp only [isBarePart, Bool.or_eq_true] at part
    simp only [isWordPart, Bool.or_eq_true]
    exact part.imp_left fun part => part.imp (isStart char) fun digit => digit

/-- A bare name has no capital letters, so a server that folds them changes nothing. -/
theorem map_toLower_of_isBare {name : List Char} (bare : isBare name) :
    name.map Char.toLower = name := by
  have unchanged (char : Char) (part : isBarePart char) : char.toLower = char := by
    have upper : ¬ (65 ≤ char.toNat ∧ char.toNat ≤ 90) := by
      simp only [isBarePart, isBareStart, Bool.or_eq_true, Bool.and_eq_true,
        decide_eq_true_eq] at part
      rcases part with ((⟨lower, -⟩ | underscore) | ⟨-, digit⟩) | dollar
      · have least : 97 ≤ char.toNat := UInt32.le_iff_toNat_le.mp lower
        omega
      · rw [underscore]
        decide
      · have most : char.toNat ≤ 57 := UInt32.le_iff_toNat_le.mp digit
        omega
      · rw [dollar]
        decide
    have noUpper : ¬ (char.val ≥ 'A'.val ∧ char.val ≤ 'Z'.val) := fun bounds =>
      upper ⟨UInt32.le_iff_toNat_le.mp bounds.1, UInt32.le_iff_toNat_le.mp bounds.2⟩
    exact dif_neg noUpper
  refine (List.map_congr_left fun char member => ?_).trans (List.map_id name)
  cases name with
  | nil => cases member
  | cons first rest =>
    obtain ⟨start, parts⟩ := Bool.and_eq_true_iff.mp bare
    rcases List.mem_cons.mp member with rfl | member
    · exact unchanged char (by rw [isBarePart, start]; rfl)
    · exact unchanged char (List.all_eq_true.mp parts char member)

/-- No name is read as a keyword that is reserved. -/
theorem isKeyword_nameToken {keyword : String} (reserved : isReserved keyword)
    (name : List Char) : isKeyword keyword (nameToken name) = false := by
  rw [nameToken]
  split
  · next bare =>
    obtain ⟨bare, notReserved⟩ := Bool.and_eq_true_iff.mp bare
    rw [isKeyword, map_toLower_of_isBare bare]
    refine decide_eq_false fun same => ?_
    rw [same, String.ofList_toList, reserved] at notReserved
    cases notReserved
  · rfl

/-! ### Chains of names -/

/-- Whether a point may follow: not after a number, which would take it. -/
def Mode.endsName : Mode → Bool
  | .word _ | .nameQuote _ | .operator _ => true
  | _ => false

/-- A name, a star, or a chain of them with points between. -/
def Chain (chars : List Char) (tokens : List Token) : Prop :=
  (∃ mode done rest, scan .gap chars = some (mode, done) ∧ mode.endsName ∧
      mode.finish = some rest ∧ done ++ rest = tokens) ∧
    ∃ char ∈ chars.head?, char.isDigit = false

/-- A chain can be read on its own. -/
theorem Chain.reads {chars : List Char} {tokens : List Token} (chain : Chain chars tokens) :
    Reads chars tokens := by
  obtain ⟨⟨mode, done, rest, scanned, -, finished, whole⟩, -⟩ := chain
  exact reads_iff.mpr ⟨mode, done, rest, scanned, finished, whole⟩

/-- A point behind a name that is complete is a token of its own. -/
theorem Mode.next_point {mode : Mode} {tokens : List Token} (ends : mode.endsName)
    (settled : mode.finish = some tokens) : mode.next '.' = some (.point, tokens) := by
  have pointStarts : start '.' = some (.point, []) := rfl
  cases mode with
  | word chars => cases settled; rfl
  | nameQuote chars => cases settled; rfl
  | operator chars =>
    have stopped := stop_eq (settled : (Mode.operator chars).finish = _) pointStarts
    rw [List.append_nil] at stopped
    exact stopped
  | _ => cases ends

/-- Where no digit follows, a point is a token of its own. -/
theorem scan_point {char : Char} {rest : List Char} {last : Mode} {tokens : List Token}
    (noDigit : char.isDigit = false) (scanned : scan .gap (char :: rest) = some (last, tokens)) :
    scan .point (char :: rest) = some (last, .mark '.' :: tokens) := by
  rw [scan] at scanned
  obtain ⟨⟨next, done⟩, started, others⟩ := Option.bind_eq_some_iff.mp scanned
  obtain ⟨⟨final, left⟩, scannedRest, whole⟩ := Option.bind_eq_some_iff.mp others
  cases whole
  have stepped : Mode.point.next char = some (next, [.mark '.'] ++ done) := by
    simp only [Mode.next, noDigit, Bool.false_eq_true, if_false]
    exact stop_eq rfl started
  exact scan_cons stepped scannedRest

/-- Two chains with a point between them are a chain. -/
theorem Chain.append {first second : List Char} {tokens more : List Token}
    (chain : Chain first tokens) (others : Chain second more) :
    Chain (first ++ '.' :: second) (tokens ++ .mark '.' :: more) := by
  obtain ⟨⟨mode, done, rest, scanned, ends, finished, rfl⟩, start, head, noDigit⟩ := chain
  obtain ⟨⟨otherMode, otherDone, otherRest, otherScanned, otherEnds, otherFinished, rfl⟩,
    otherStart, otherHead, otherNoDigit⟩ := others
  cases second with
  | nil => cases otherHead
  | cons otherFirst otherChars =>
    cases otherHead
    refine ⟨⟨otherMode, done ++ (rest ++ .mark '.' :: otherDone), otherRest,
      scan_append scanned (scan_cons (Mode.next_point ends finished)
        (scan_point otherNoDigit otherScanned)), otherEnds, otherFinished, ?_⟩,
      start, ?_, noDigit⟩
    · simp only [List.append_assoc, List.cons_append]
    · cases first with
      | nil => cases head
      | cons first rest => exact head

/-- A name is a chain of one, bare or in quotes. -/
theorem chain_nameChars (name : List Char) : Chain (nameChars name) [nameToken name] := by
  rw [nameChars, nameToken]
  by_cases bare : isBare name && !isReserved (String.ofList name)
  · rw [if_pos bare, if_pos bare]
    obtain ⟨first, rest, rfl, start, parts⟩ :=
      isBare_cases (Bool.and_eq_true_iff.mp bare).1
    have scanned : scan .gap (first :: rest) = some (.word (first :: rest), []) :=
      scan_gap_cons (start_eq_word start) (scan_word [first] rest parts)
    exact ⟨⟨.word (first :: rest), [], [.word (first :: rest)], scanned, rfl, rfl, rfl⟩,
      first, rfl, isDigit_eq_false_of_isWordStart start⟩
  · rw [if_neg bare, if_neg bare]
    have opened : start '"' = some (.name [], []) := rfl
    have closed : scan (.name name) ['"'] = some (.nameQuote name, []) := rfl
    have scanned : scan .gap ('"' :: doubled '"' name ++ ['"']) = some (.nameQuote name, []) :=
      scan_gap_cons opened (scan_append (scan_doubled [] name) closed)
    exact ⟨⟨.nameQuote name, [], [.name name], scanned, rfl, rfl, rfl⟩, '"', rfl, rfl⟩

/-! ### Paths -/

/-- The tokens of a path: names with points between, one of which may be a star
or the proposed row. -/
inductive PathTokens : List Token → Prop
  | name (name : List Char) : PathTokens [nameToken name]
  | star : PathTokens [.operator ['*']]
  | excluded : PathTokens [.word Path.excluded]
  | point {tokens more : List Token} (first : PathTokens tokens) (second : PathTokens more) :
    PathTokens (tokens ++ .mark '.' :: more)

theorem isUnbracketed_nameToken (name : List Char) : isUnbracketed (nameToken name) := by
  have noMark (char : Char) : nameToken name ≠ .mark char := by
    rw [nameToken]
    split <;> exact nofun
  have noCase : isKeyword "case" (nameToken name) = false :=
    isKeyword_nameToken (by decide +kernel) name
  have noEnd : isKeyword "end" (nameToken name) = false :=
    isKeyword_nameToken (by decide +kernel) name
  simp only [isUnbracketed, Bracket.opened?, Bracket.closed?, noMark, noCase, noEnd, if_false,
    Bool.false_eq_true]
  rfl

theorem parameterNumbers_nameToken (name : List Char) : parameterNumbers [nameToken name] = [] := by
  rw [nameToken]
  split <;> rfl

namespace PathTokens

variable {tokens : List Token}

/-- No name of a path is a parameter, whatever it contains. -/
theorem noParameters (path : PathTokens tokens) : parameterNumbers tokens = [] := by
  induction path with
  | name name => exact parameterNumbers_nameToken name
  | star | excluded => rfl
  | @point tokens more _ _ firstHypothesis secondHypothesis =>
    rw [parameterNumbers_append, firstHypothesis]
    exact secondHypothesis

/-- No name of a path has a bracket, whatever it contains. -/
theorem all_isUnbracketed (path : PathTokens tokens) : tokens.all isUnbracketed := by
  induction path with
  | name name => exact Bool.and_eq_true_iff.mpr ⟨isUnbracketed_nameToken name, rfl⟩
  | star | excluded => rfl
  | point _ _ firstHypothesis secondHypothesis =>
    rw [List.all_append, firstHypothesis]
    exact secondHypothesis

end PathTokens

/-- Names with points between them are a path. -/
theorem chain_intercalate (names : List (List Char)) (present : names ≠ []) :
    ∃ tokens, Chain (['.'].intercalate (names.map nameChars)) tokens ∧ PathTokens tokens := by
  induction names with
  | nil => exact absurd rfl present
  | cons name rest inductionHypothesis =>
    cases rest with
    | nil => exact ⟨[nameToken name], by simpa using chain_nameChars name, .name name⟩
    | cons next others =>
      obtain ⟨tokens, chain, path⟩ := inductionHypothesis (List.cons_ne_nil _ _)
      refine ⟨[nameToken name] ++ .mark '.' :: tokens, ?_, .point (.name name) path⟩
      rw [List.map_cons, List.map_cons, List.intercalate_cons_cons, List.append_assoc]
      exact (chain_nameChars name).append chain

theorem splitAll_ne_nil (mark : Char) (chars : List Char) : splitAll mark chars ≠ [] := by
  cases chars with
  | nil => exact List.cons_ne_nil _ _
  | cons char rest =>
    rw [splitAll]
    split
    · exact List.cons_ne_nil _ _
    · split <;> exact List.cons_ne_nil _ _

/-- What stands before the last point of a path, segment by segment. -/
theorem chain_qualifierChars (qualifier : List Char) :
    ∃ tokens, Chain (Path.qualifierChars qualifier) tokens ∧ PathTokens tokens := by
  rw [Path.qualifierChars]
  split
  · exact ⟨[.word Path.excluded], ⟨⟨.word Path.excluded, [], _, rfl, rfl, rfl, rfl⟩, 'E', rfl, rfl⟩,
      .excluded⟩
  · exact chain_intercalate _ (splitAll_ne_nil '.' qualifier)

theorem chain_lastChars (name : List Char) :
    ∃ tokens, Chain (Path.lastChars name) tokens ∧ PathTokens tokens := by
  rw [Path.lastChars]
  split
  · next star =>
    subst star
    exact ⟨[.operator ['*']], ⟨⟨.operator ['*'], [], _, rfl, rfl, rfl, rfl⟩, '*', rfl, rfl⟩, .star⟩
  · exact ⟨_, chain_nameChars name, .name name⟩

/-- A path without a trailer is a chain of names, whatever the names contain. -/
theorem chain_path (path : Path) (noTrailer : path.trailer = []) :
    ∃ tokens, Chain path.chars tokens ∧ PathTokens tokens := by
  obtain ⟨qualifier, name, trailer⟩ := path
  obtain ⟨tokens, chain, last⟩ := chain_lastChars name
  cases noTrailer
  cases qualifier with
  | none => exact ⟨tokens, by simpa [Path.chars] using chain, last⟩
  | some qualifier =>
    obtain ⟨others, otherChain, first⟩ := chain_qualifierChars qualifier
    refine ⟨others ++ .mark '.' :: tokens, ?_, .point first last⟩
    simpa [Path.chars] using otherChain.append chain

end SqlTree.Reading
