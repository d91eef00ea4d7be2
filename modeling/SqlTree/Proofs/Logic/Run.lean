/-
This file follows texts in which connectives stand outside of brackets. Such a
text is a run of comparisons. Runs with a connective between them read as one
run, in which the precedence of the database decides what goes together: a
disjunction of runs has the truth of its members combined, a conjunction only
if no member has a disjunction outside of brackets.

A run is a condition taken flat: comparisons with connectives between them, and no
word on what goes together. Putting two runs together is putting them side by
side, which is what a text without parentheses does. Whether the truth comes out
as it was meant is a question about the run: behind a disjunction everything is
read apart, so disjunctions always combine, and a conjunction combines as long as
neither side has a disjunction. The last part is about texts that are no operand
at all, because a connective inside of them ends the walk; these are groups in the
place of an operand.
-/

import SqlTree.Proofs.Logic.Term

namespace SqlTree

/-- A formula with others behind it, each behind its connective. -/
structure Run (Atom : Type) where
  first : Formula Atom
  others : List (Connective × Formula Atom)

namespace Run

variable {Atom Other : Type}

/-- The run by precedence: conjunctions bind tighter than disjunctions. -/
def formula (run : Run Atom) : Formula Atom :=
  .chain run.first run.others

/-- The run with formulas for its atoms. -/
def bind (replace : Atom → Formula Other) (run : Run Atom) : Run Other :=
  ⟨run.first.bind replace, run.others.map fun other => (other.1, other.2.bind replace)⟩

/-- Whether the run has no disjunction between its formulas. -/
def isTight (run : Run Atom) : Bool :=
  run.others.all fun other => other.1 = .all

/-- A run behind another and a connective. -/
def append (connective : Connective) (run next : Run Atom) : Run Atom :=
  ⟨run.first, run.others ++ (connective, next.first) :: next.others⟩

/-- Runs with a connective between them. -/
def join (connective : Connective) (run : Run Atom) : List (Run Atom) → Run Atom
  | [] => run
  | next :: rest => run.append connective (next.join connective rest)

/-- The formula of a run with formulas for its atoms. -/
theorem formula_bind (replace : Atom → Formula Other) (run : Run Atom) :
    (run.bind replace).formula = run.formula.bind replace :=
  (Formula.bind_chain replace run.first run.others).symm

/-- Atoms are replaced in each run. -/
theorem bind_append (replace : Atom → Formula Other) (connective : Connective)
    (run next : Run Atom) :
    (run.append connective next).bind replace =
      (run.bind replace).append connective (next.bind replace) := by
  simp only [bind, append, List.map_append, List.map_cons]

/-- The same for many runs. -/
theorem bind_join (replace : Atom → Formula Other) (connective : Connective) (run : Run Atom)
    (rest : List (Run Atom)) :
    (run.join connective rest).bind replace =
      (run.bind replace).join connective (rest.map (bind replace)) := by
  induction rest generalizing run with
  | nil => rfl
  | cons next others inductionHypothesis =>
    rw [join, bind_append, inductionHypothesis]
    rfl

theorem atoms_append (connective : Connective) (run next : Run Atom) :
    (run.append connective next).formula.atoms = run.formula.atoms ++ next.formula.atoms := by
  simp only [formula, append, Formula.atoms_chain, List.flatMap_append, List.flatMap_cons,
    List.append_assoc]

/-- Runs have no atoms but those of their members. -/
theorem mem_atoms_join {connective : Connective} {run : Run Atom} {rest : List (Run Atom)}
    {atom : Atom} (member : atom ∈ (run.join connective rest).formula.atoms) :
    ∃ other ∈ run :: rest, atom ∈ other.formula.atoms := by
  induction rest generalizing run with
  | nil => exact ⟨run, List.mem_singleton_self run, member⟩
  | cons next others inductionHypothesis =>
    rw [join, atoms_append, List.mem_append] at member
    rcases member with first | later
    · exact ⟨run, List.mem_cons_self, first⟩
    · obtain ⟨other, otherMember, found⟩ := inductionHypothesis later
      exact ⟨other, List.mem_cons_of_mem _ otherMember, found⟩

/-! ### Truth -/

/-- A run with a disjunction between its parts is not tight. -/
theorem isTight_append (connective : Connective) (run next : Run Atom) :
    (run.append connective next).isTight =
      (run.isTight && (connective = .all && next.isTight)) := by
  rw [isTight, append, List.all_append, List.all_cons]
  rfl

/-- Runs are tight together if each of them is and no disjunction is put
between them. -/
theorem isTight_join (connective : Connective) (run : Run Atom) (rest : List (Run Atom)) :
    (run.join connective rest).isTight =
      ((run :: rest).all isTight && (connective = .all || rest.isEmpty)) := by
  induction rest generalizing run with
  | nil => simp [join]
  | cons next others inductionHypothesis =>
    rw [join, isTight_append, inductionHypothesis]
    cases connective <;> simp

/-- Behind a disjunction everything is read apart from what comes before. -/
theorem eval_append_any (truth : Atom → Truth) (run next : Run Atom) :
    (run.append .any next).formula.eval truth =
      (run.formula.eval truth).join (next.formula.eval truth) := by
  obtain ⟨first, others⟩ := run
  show (Formula.chain first (others ++ (.any, next.first) :: next.others)).eval truth =
    ((Formula.chain first others).eval truth).join (next.formula.eval truth)
  induction others generalizing first with
  | nil => rfl
  | cons other rest inductionHypothesis =>
    obtain ⟨connective, formula⟩ := other
    cases connective with
    | all => exact inductionHypothesis _
    | any =>
      rw [List.cons_append, Formula.chain, Formula.chain, Formula.eval, Formula.eval,
        inductionHypothesis, Truth.join_assoc]

/-- Without disjunctions, a conjunction in front is a conjunct of the whole. -/
theorem eval_chain_conjunction (truth : Atom → Truth) (first second : Formula Atom)
    {others : List (Connective × Formula Atom)} (tight : others.all fun other => other.1 = .all) :
    (Formula.chain (.conjunction first second) others).eval truth =
      (first.eval truth).meet ((Formula.chain second others).eval truth) := by
  induction others generalizing first second with
  | nil => rfl
  | cons other rest inductionHypothesis =>
    obtain ⟨connective, formula⟩ := other
    obtain ⟨same, restTight⟩ := Bool.and_eq_true_iff.mp tight
    cases of_decide_eq_true same
    rw [Formula.chain, Formula.chain, inductionHypothesis _ _ restTight,
      inductionHypothesis _ _ restTight, Formula.eval, Truth.meet_assoc]

/-- A conjunction reads as one where neither side has a disjunction. -/
theorem eval_append_all (truth : Atom → Truth) {run next : Run Atom} (tight : run.isTight)
    (nextTight : next.isTight) :
    (run.append .all next).formula.eval truth =
      (run.formula.eval truth).meet (next.formula.eval truth) := by
  obtain ⟨first, others⟩ := run
  show (Formula.chain first (others ++ (.all, next.first) :: next.others)).eval truth =
    ((Formula.chain first others).eval truth).meet (next.formula.eval truth)
  replace tight : others.all fun other => other.1 = .all := tight
  induction others generalizing first with
  | nil => exact eval_chain_conjunction truth first next.first nextTight
  | cons other rest inductionHypothesis =>
    obtain ⟨connective, formula⟩ := other
    obtain ⟨same, restTight⟩ := Bool.and_eq_true_iff.mp tight
    cases of_decide_eq_true same
    exact inductionHypothesis _ restTight

/-- Runs that go together have their truths combined. -/
theorem eval_join (truth : Atom → Truth) (connective : Connective) (run : Run Atom)
    (rest : List (Run Atom))
    (together : connective = .all → rest ≠ [] → (run :: rest).all isTight) :
    (run.join connective rest).formula.eval truth =
      ((run :: rest).map fun run => run.formula.eval truth).foldr connective.combine
        connective.unit := by
  induction rest generalizing run with
  | nil =>
    cases connective with
    | all => exact (Truth.meet_yes _).symm
    | any => exact (Truth.join_no _).symm
  | cons next others inductionHypothesis =>
    cases connective with
    | all =>
      obtain ⟨tight, othersTight⟩ := Bool.and_eq_true_iff.mp (together rfl (List.cons_ne_nil _ _))
      have joined : (next.join .all others).isTight := by
        rw [isTight_join, othersTight]
        rfl
      rw [join, eval_append_all truth tight joined, inductionHypothesis _ fun _ _ => othersTight]
      rfl
    | any =>
      rw [join, eval_append_any, inductionHypothesis _ nofun]
      rfl

/-- A run with a disjunction reads as a disjunction. -/
theorem formula_eq_disjunction {run : Run Atom} (loose : run.isTight = false) :
    ∃ left right, run.formula = .disjunction left right := by
  obtain ⟨first, others⟩ := run
  show ∃ left right, Formula.chain first others = .disjunction left right
  induction others generalizing first with
  | nil => cases loose
  | cons other rest inductionHypothesis =>
    obtain ⟨connective, formula⟩ := other
    cases connective with
    | all => exact inductionHypothesis _ loose
    | any => exact ⟨_, _, rfl⟩

end Run

namespace Logic

open Reading

/-! ### Texts -/

/-- The text reads as the run. -/
def ReadsAsRun (text : String) (run : Run (List Token)) : Prop :=
  ∃ tokens parts firstParts others, Reads text.toList tokens ∧ Bracketed tokens parts ∧
    startsStatement parts = false ∧ split .initial parts = some (firstParts, others) ∧
    readComparison firstParts = run.first ∧
    others.map (fun other => (other.1, readComparison other.2)) = run.others

/-- A term is a run of one. -/
theorem ReadsAsTerm.run {text : String} {formula : Formula (List Token)}
    (reads : ReadsAsTerm text formula) : ReadsAsRun text ⟨formula, []⟩ := by
  obtain ⟨tokens, parts, scanned, bracketed, walked, noStatement, same⟩ := reads
  have cut := split_append [] walked
  rw [List.append_nil] at cut
  refine ⟨tokens, parts, parts, [], scanned, bracketed, noStatement, ?_, same, rfl⟩
  rw [cut]
  show some (parts ++ [], []) = _
  rw [List.append_nil]

/-- A run is a condition, of the formula that precedence makes of it. -/
theorem ReadsAsRun.condition {text : String} {run : Run (List Token)}
    (reads : ReadsAsRun text run) : ReadsAsCondition text run.formula := by
  obtain ⟨tokens, parts, firstParts, others, scanned, bracketed, noStatement, cut, same,
    othersSame⟩ := reads
  refine ⟨tokens, parts, scanned, bracketed, noStatement, ?_⟩
  rw [readParts, cut]
  show some (Formula.chain (readComparison firstParts) (others.map _)) = _
  rw [same, othersSame]
  rfl

/-! ### Cuts -/

/-- A token is one keyword at most. -/
theorem isKeyword_unique {first second : String} {token : Token} (isFirst : isKeyword first token)
    (isSecond : isKeyword second token) : first = second := by
  cases token with
  | word chars =>
    exact String.toList_injective ((of_decide_eq_true isFirst).symm.trans
      (of_decide_eq_true isSecond))
  | name _ | string _ | parameter _ | number _ | operator _ | mark _ => cases isFirst

/-- A connective is a token that is one of the two words. -/
theorem connective?_cases {part : Part} {connective : Connective}
    (found : connective? part = some connective) :
    ∃ token, part = .token token ∧
      ((connective = .all ∧ isKeyword "and" token ∧ ¬ isKeyword "or" token) ∨
        (connective = .any ∧ isKeyword "or" token)) := by
  cases part with
  | group tokens reading => cases found
  | token token =>
    refine ⟨token, rfl, ?_⟩
    rw [connective?] at found
    split at found
    · next isAnd =>
      cases found
      exact .inl ⟨rfl, isAnd, fun isOr => absurd (isKeyword_unique isAnd isOr) (by decide)⟩
    split at found
    · next isOr =>
      cases found
      exact .inr ⟨rfl, isOr⟩
    · cases found

/-- A connective ends a complete comparison that waits for nothing. -/
theorem next_connective {part : Part} {connective : Connective}
    (found : connective? part = some connective) : Position.final.next part = none := by
  obtain ⟨token, rfl, ⟨-, isAnd, noOr⟩ | ⟨-, isOr⟩⟩ := connective?_cases found
  · rw [Position.next, Position.after, if_neg noOr, if_pos isAnd]
    rfl
  · rw [Position.next, Position.after, if_pos isOr]

/-- Where an operand is complete, a connective cuts and an operand is expected again. -/
theorem split_connective {part : Part} {connective : Connective}
    (found : connective? part = some connective) (rest : List Part) :
    split .final (part :: rest) =
      (split .initial rest).map fun (first, others) => ([], (connective, first) :: others) := by
  rw [split, next_connective found, found]
  cases split .initial rest <;> rfl

/-- Parts are cut behind the first comparison, if there is another. -/
theorem split_cases {position : Position} {parts firstParts : List Part}
    {others : List (Connective × List Part)}
    (cut : split position parts = some (firstParts, others)) :
    position.walk firstParts = some .final ∧
      match others with
      | [] => parts = firstParts
      | (connective, second) :: following =>
        ∃ part rest, parts = firstParts ++ part :: rest ∧ connective? part = some connective ∧
          split .initial rest = some (second, following) := by
  induction parts generalizing position firstParts with
  | nil =>
    rw [split] at cut
    split at cut
    · next final =>
      cases cut
      exact ⟨congrArg some final, rfl⟩
    · cases cut
  | cons part rest inductionHypothesis =>
    rw [split] at cut
    cases stepped : position.next part with
    | some next =>
      rw [stepped] at cut
      obtain ⟨⟨restFirst, restOthers⟩, restCut, same⟩ := Option.map_eq_some_iff.mp cut
      cases same
      obtain ⟨walked, found⟩ := inductionHypothesis restCut
      refine ⟨?_, ?_⟩
      · rw [Position.walk_cons, stepped]
        exact walked
      · cases others with
        | nil => exact congrArg (part :: ·) found
        | cons other following =>
          obtain ⟨connectivePart, more, same, isConnective, moreCut⟩ := found
          exact ⟨connectivePart, more, congrArg (part :: ·) same, isConnective, moreCut⟩
    | none =>
      rw [stepped] at cut
      obtain ⟨connective, isConnective, cut⟩ := Option.bind_eq_some_iff.mp cut
      by_cases final : position = .final
      · rw [if_pos final] at cut
        obtain ⟨⟨second, following⟩, restCut, same⟩ := Option.bind_eq_some_iff.mp cut
        cases same
        exact ⟨congrArg some final, part, rest, rfl, isConnective, restCut⟩
      · rw [if_neg final] at cut
        cases cut

/-- Behind complete comparisons and a connective the reading starts anew. -/
theorem split_append_keyword {position : Position} {parts firstParts : List Part}
    {others : List (Connective × List Part)} (connective : Connective) (more : List Part)
    (cut : split position parts = some (firstParts, others)) :
    split position (parts ++ .token (keyword connective) :: more) =
      (split .initial more).map fun (next, rest) =>
        (firstParts, others ++ (connective, next) :: rest) := by
  induction others generalizing position parts firstParts with
  | nil =>
    have walked := (split_cases cut).1
    have same : parts = firstParts := (split_cases cut).2
    rw [same, split_append _ walked, split_keyword, Option.map_map]
    simp only [Function.comp_def, List.append_nil, List.nil_append]
  | cons other following inductionHypothesis =>
    obtain ⟨walked, part, rest, rfl, isConnective, restCut⟩ := split_cases cut
    rw [List.append_assoc, List.cons_append, split_append _ walked,
      split_connective isConnective, inductionHypothesis restCut, Option.map_map, Option.map_map]
    simp only [Function.comp_def, List.append_nil, List.cons_append]

/-- A text that is cut at a connective is not one operand. -/
theorem walk_eq_none_of_split {position : Position} {parts firstParts : List Part}
    {other : Connective × List Part} {following : List (Connective × List Part)}
    (cut : split position parts = some (firstParts, other :: following)) :
    position.walk parts = none := by
  obtain ⟨walked, part, rest, rfl, isConnective, -⟩ := split_cases cut
  rw [Position.walk_append _ walked, Position.walk_cons, next_connective isConnective]
  rfl

/-! ### Texts that read as runs -/

theorem ne_nil_of_split {parts firstParts : List Part} {others : List (Connective × List Part)}
    (cut : split .initial parts = some (firstParts, others)) : parts ≠ [] := by
  rintro rfl
  cases cut

/-- Runs with a connective between them are one run. -/
theorem ReadsAsRun.append {first second : String} {run next : Run (List Token)}
    (connective : Connective) (head : ReadsAsRun first run) (tail : ReadsAsRun second next) :
    ReadsAsRun (first ++ separator connective ++ second) (run.append connective next) := by
  obtain ⟨tokens, parts, firstParts, others, scanned, bracketed, noStatement, cut, same,
    othersSame⟩ := head
  obtain ⟨more, moreParts, nextParts, rest, moreScanned, moreBracketed, -, moreCut, nextSame,
    restSame⟩ := tail
  refine ⟨tokens ++ ([keyword connective] ++ more),
    parts ++ .token (keyword connective) :: moreParts, firstParts,
    others ++ (connective, nextParts) :: rest, ?_,
    bracketed.append ((bracketed_keyword connective).append moreBracketed),
    startsStatement_append noStatement (ne_nil_of_split cut) _ _, ?_, same, ?_⟩
  · rw [String.append_assoc, String.toList_append, String.toList_append]
    exact scanned.append_follows ((separates_separator connective).append_reads moreScanned)
  · rw [split_append_keyword connective moreParts cut, moreCut]
    rfl
  · rw [List.map_append, List.map_cons, othersSame, nextSame, restSame]
    rfl

/-- Texts with a connective between them read as their runs together. -/
theorem readsAsRun_join (connective : Connective) {first : String} {run : Run (List Token)}
    (head : ReadsAsRun first run) {rest : List String} {runs : List (Run (List Token))}
    (tail : List.Forall₂ ReadsAsRun rest runs) :
    ReadsAsRun ((separator connective).intercalate (first :: rest)) (run.join connective runs) := by
  induction tail generalizing first run with
  | nil =>
    rw [String.intercalate_singleton]
    exact head
  | cons nextReads _ inductionHypothesis =>
    rw [String.intercalate_cons_cons]
    exact head.append connective (inductionHypothesis nextReads)

/-! ### Comparisons that a text ends -/

/-- A connective of the text ends the comparison that the text stands in. -/
def Breaks (start : Position) (text : String) : Prop :=
  ∃ tokens parts, Reads text.toList tokens ∧ Bracketed tokens parts ∧ start.walk parts = none

/-- A text whose walk breaks off is no operand. -/
theorem Breaks.not_isTerm {text : String} (breaks : Breaks .initial text) : ¬ IsTerm text := by
  rintro ⟨_, otherTokens, otherParts, otherScanned, otherBracketed, walked, -⟩
  obtain ⟨tokens, parts, scanned, bracketed, broken⟩ := breaks
  have sameTokens : some otherTokens = some tokens := otherScanned.symm.trans scanned
  cases sameTokens
  have sameParts : some otherParts = some parts :=
    otherBracketed.assemble.symm.trans bracketed.assemble
  cases sameParts
  rw [broken] at walked
  cases walked

/-- A walk that has broken off does not recover. -/
theorem walk_append_eq_none {position : Position} {parts : List Part} (more : List Part)
    (broken : position.walk parts = none) : position.walk (parts ++ more) = none := by
  rw [Position.walk, List.foldlM_append]
  show (position.walk parts).bind _ = _
  rw [broken]
  rfl

/-- Nothing behind a text mends what it breaks. -/
theorem Breaks.link {start middle next finish : Position} {first separator second : String}
    (breaks : Breaks start first) (link : isLink middle separator next)
    (tail : Walks next second finish) : Breaks start (first ++ (separator ++ second)) := by
  obtain ⟨tokens, parts, scanned, bracketed, broken⟩ := breaks
  obtain ⟨otherTokens, otherParts, otherScanned, otherBracketed, -⟩ := tail
  obtain ⟨whole, token, more, wholeScanned, wholeBracketed, -⟩ :=
    link_spans scanned bracketed link otherScanned otherBracketed
  exact ⟨whole, _, wholeScanned, wholeBracketed, walk_append_eq_none _ broken⟩

/-- What breaks off behind a link breaks off the whole. -/
theorem Walks.link_breaks {start middle next : Position} {first separator second : String}
    (head : Walks start first middle) (link : isLink middle separator next)
    (tail : Breaks next second) : Breaks start (first ++ (separator ++ second)) := by
  obtain ⟨tokens, parts, scanned, bracketed, walked⟩ := head
  obtain ⟨otherTokens, otherParts, otherScanned, otherBracketed, broken⟩ := tail
  obtain ⟨whole, token, more, wholeScanned, wholeBracketed, stepped⟩ :=
    link_spans scanned bracketed link otherScanned otherBracketed
  refine ⟨whole, _, wholeScanned, wholeBracketed, ?_⟩
  rw [Position.walk_append _ walked]
  exact (Position.walk_append otherParts stepped).trans broken

/-- A run of several comparisons breaks the one that it stands in. -/
theorem ReadsAsRun.breaks {text : String} {run : Run (List Token)} (reads : ReadsAsRun text run)
    (several : run.others ≠ []) : Breaks .initial text := by
  obtain ⟨tokens, parts, firstParts, others, scanned, bracketed, -, cut, -, same⟩ := reads
  cases others with
  | nil => exact absurd same.symm several
  | cons other following =>
    exact ⟨tokens, parts, scanned, bracketed, walk_eq_none_of_split cut⟩

/-- As the lower bound of a `BETWEEN`, it breaks the comparison as well: its first
connective ends it, or is taken for the one of the `BETWEEN`, and then the next
one ends it. -/
theorem ReadsAsRun.breaks_between {text high : String} {run : Run (List Token)}
    (reads : ReadsAsRun text run) (several : run.others ≠ []) (highTerm : IsTerm high) :
    Breaks (Position.initial.within 1) (text ++ (" AND " ++ high)) := by
  obtain ⟨tokens, parts, firstParts, others, scanned, bracketed, -, cut, -, same⟩ := reads
  obtain ⟨highTokens, highParts, highScanned, highBracketed, -⟩ := highTerm.walks
  obtain _ | ⟨⟨connective, second⟩, following⟩ := others
  · exact absurd same.symm several
  obtain ⟨walked, part, rest, rfl, isConnective, restCut⟩ := split_cases cut
  refine ⟨tokens ++ ([keyword .all] ++ highTokens), _, ?_,
    bracketed.append ((bracketed_keyword .all).append highBracketed), ?_⟩
  · rw [String.toList_append, String.toList_append]
    exact scanned.append_follows ((separates_separator .all).append_reads highScanned)
  rw [List.append_assoc, Position.walk_append _ (Position.walk_within 1 walked), List.cons_append,
    Position.walk_cons]
  obtain ⟨token, rfl, ⟨-, isAnd, noOr⟩ | ⟨-, isOr⟩⟩ := connective?_cases isConnective
  · have taken : (Position.final.within 1).next (.token token) = some .initial := by
      rw [Position.next, Position.after, if_neg noOr, if_pos isAnd]
      rfl
    rw [taken]
    show Position.initial.walk (rest ++ .token (keyword .all) :: highParts) = none
    cases following with
    | nil =>
      have whole : rest = second := (split_cases restCut).2
      have ofBetween : connective? (.token (keyword .all)) = some .all := rfl
      rw [whole, Position.walk_append _ (split_cases restCut).1, Position.walk_cons,
        next_connective ofBetween]
      rfl
    | cons other more => exact walk_append_eq_none _ (walk_eq_none_of_split restCut)
  · have ended : (Position.final.within 1).next (.token token) = none := by
      rw [Position.next, Position.after, if_pos isOr]
    rw [ended]
    rfl

/-! ### Groups among the operands of a comparison -/

/-- The text is one comparison, with a condition among its operands that stands in
parentheses and reads as the formula. -/
def HoldsGroup (text : String) (formula : Formula (List Token)) : Prop :=
  ∃ tokens parts inside, Reads text.toList tokens ∧ Bracketed tokens parts ∧
    Position.initial.walk parts = some .final ∧ startsStatement parts = false ∧
    .group inside (some formula) ∈ parts

/-- A comparison with a group in parentheses is still one operand. -/
theorem HoldsGroup.isTerm {text : String} {formula : Formula (List Token)}
    (holds : HoldsGroup text formula) : IsTerm text := by
  obtain ⟨tokens, parts, _, scanned, bracketed, walked, noStatement, -⟩ := holds
  exact ⟨_, tokens, parts, scanned, bracketed, walked, noStatement, rfl⟩

/-- A group in parentheses behind an operator is one of its operands, and reads as its
own formula. -/
theorem IsTerm.holdsGroup {column keyword text : String} {formula : Formula (List Token)}
    (term : IsTerm column) (link : isLink .final (" " ++ keyword) .initial)
    (reads : ReadsAsCondition text formula) :
    HoldsGroup (column ++ " " ++ (keyword ++ parenthesizedText text)) formula := by
  obtain ⟨_, columnTokens, columnParts, columnScanned, columnBracketed, walked, noStatement, -⟩ :=
    term
  obtain ⟨tokens, parts, scanned, bracketed, conditionStarts, whole⟩ := reads
  have group := bracketed_parenthesized bracketed
  rw [enclose_eq conditionStarts whole] at group
  obtain ⟨all, token, more, allScanned, allBracketed, stepped⟩ :=
    link_spans columnScanned columnBracketed link (separates_parenthesized scanned).1.reads group
  refine ⟨all, _, _, ?_, allBracketed, ?_,
    startsStatement_append noStatement (ne_nil_of_walk walked) _ _,
    List.mem_append_right _ (List.mem_cons_of_mem _
      (List.mem_append_right _ (List.mem_singleton_self _)))⟩
  · have joined : " " ++ (keyword ++ parenthesizedText text) =
        " " ++ keyword ++ parenthesizedText text := String.append_assoc.symm
    rw [String.append_assoc, joined]
    exact allScanned
  · rw [Position.walk_append _ walked]
    exact Position.walk_append _ stepped

end Logic

end SqlTree
