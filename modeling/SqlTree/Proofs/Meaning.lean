/-
This file proves that the text of a condition means what the condition means. A
condition whose leaves are opaque has a truth for every assignment to its
leaves, unless it asks for nothing. It has no text exactly if it asks for
nothing; otherwise its text reads, by the precedence of the database, as a
formula over its leaves that has the same truth.

The meaning of a condition is given by its tree and knows nothing of texts: groups
combine the truths of their members, and what asks for nothing takes no part. The
reading is given by the text and knows nothing of the tree. That the two meet is
an induction on the tree, with a statement for a condition and one for the members
of a group: members without text are not there for either of them, and a member
that is a group has parentheses around it.

The leaves are opaque: what an operand says is of no interest, but it has to be
one operand in the text, or parentheses, connectives and ranges could not be told
from its own. A later file finds operands for which this holds.
-/

import SqlTree.Parameters
import SqlTree.Proofs.Logic.Term
import SqlTree.Proofs.Trace

namespace SqlTree

open Logic Writing

/-! ### The meaning of a condition -/

/-- Truths combined by the connective. No truths are no condition. -/
def Connective.gather (connective : Connective) (truths : List Truth) : Option Truth :=
  if truths.isEmpty then none else some (truths.foldr connective.combine connective.unit)

namespace Condition

mutual

/-- The truth of a condition under an assignment to its leaves, or none if it
asks for nothing. -/
def meaning (context : Context) (truth : Condition → Truth) : Condition → Option Truth
  | .all members => Connective.all.gather (meanings context truth members)
  | .any members => Connective.any.gather (meanings context truth members)
  | .negation inner => (inner.meaning context truth).map .negate
  | .existence query => some (truth (.existence query))
  | .test column comparison =>
    if comparison.isValid then some (truth (.test column comparison)) else none
  | .plain node => if (node.render context).isBlank then none else some (truth (.plain node))

/-- The truths of the members that ask for something. -/
def meanings (context : Context) (truth : Condition → Truth) : List Condition → List Truth
  | [] => []
  | member :: rest => (member.meaning context truth).toList ++ meanings context truth rest

end

/-- Whether the condition is not made of other conditions. -/
def isLeaf : Condition → Bool
  | .existence _ | .test _ _ | .plain _ => true
  | .all _ | .any _ | .negation _ => false

end Condition

/-! ### Opaque leaves -/

variable {State : Type} (sink : Sink State)

/-- Every text that the action results in has the property. -/
def Writing.Always (action : Writing State String) (property : String → Prop) : Prop :=
  ∀ state text after, action.start state = (.ok text, after) → property text

/-- The text of the operator, with or without a quantifier behind it, leads from one
operand to the next one, as the six operators of the library do. -/
structure Relation.IsOperator (relation : Relation) : Prop where
  plain : isLink .final (" " ++ (relation.symbol ++ " ")) .initial
  quantified : ∀ quantifier : Quantifier,
    isLink .final (" " ++ (relation.symbol ++ " " ++ quantifier.keyword ++ " ")) .initial

/-- The operators of the library are operators in the text, with a quantifier behind
them or without. -/
theorem Relation.isOperator (relation : Relation) (named : relation.isNamed) :
    relation.IsOperator where
  plain := by
    have each : ∀ relation ∈ Relation.named,
        isLink .final (" " ++ (relation.symbol ++ " ")) .initial := by decide
    exact each relation (relation.mem_named named)
  quantified quantifier := by
    have each : ∀ relation ∈ Relation.named,
        isLink .final (" " ++ (relation.symbol ++ " " ++ quantifier.keyword ++ " ")) .initial := by
      cases quantifier <;> decide
    exact each relation (relation.mem_named named)

/-- The operands of the comparison are operands in the text as well, and its operator
stands between them. What stands in parentheses only has to have matching brackets. -/
def Comparison.HasTerms (context : Context) : Comparison → Prop
  | .relation kind operand _ =>
    kind.IsOperator ∧ (operand.writeValue sink context .array).Always IsTerm
  | .nullity _ => True
  | .like pattern _ => (pattern.writeValue sink context .array).Always IsTerm
  | .between low high =>
    (low.writeValue sink context .array).Always IsTerm ∧
      (high.writeValue sink context .array).Always IsTerm
  | .membership (.list items) _ =>
    ∀ item ∈ items, (item.writeValue sink context .row).Always IsEnclosable
  | .membership (.node inner) _ =>
    (inner.write sink (if inner.isStatement then .ordinary else context)).Always IsEnclosable
  | .membership (.value scalar) _ => (sink.write scalar).Always IsEnclosable

mutual

/-- The operands of every test are operands in the text as well, and every node
that is a condition as it stands is one operand or has no text. -/
def Condition.HasOpaqueLeaves (context : Context) : Condition → Prop
  | .all members | .any members => HaveOpaqueLeaves context members
  | .negation inner => inner.HasOpaqueLeaves context
  | .existence query =>
    (query.write sink (if query.isStatement then .ordinary else context)).Always IsEnclosable
  | .test column comparison =>
    comparison.isValid → (column.writeName sink context).Always IsTerm ∧
      comparison.HasTerms sink context
  | .plain node => (node.write sink context).Always fun text => text = "" ∨ IsTerm text

/-- Every leaf below a list of members. -/
def HaveOpaqueLeaves (context : Context) : List Condition → Prop
  | [] => True
  | member :: rest => member.HasOpaqueLeaves context ∧ HaveOpaqueLeaves context rest

end

/-! ### Comparisons -/

/-- Items of a list with matching brackets have matching brackets together. -/
theorem isEnclosable_writeValues {context : Context} {items : List Operand}
    (terms : ∀ item ∈ items, (item.writeValue sink context .row).Always IsEnclosable)
    {state after : State} {texts : List String}
    (written : (writeValues sink context .row items).start state = (.ok texts, after)) :
    ∀ text ∈ texts, IsEnclosable text := by
  induction items generalizing state after texts with
  | nil =>
    cases written
    exact fun _ member => nomatch member
  | cons item rest inductionHypothesis =>
    obtain ⟨itemTerm, others⟩ := List.forall_mem_cons.mp terms
    obtain ⟨text, middle, itemWritten, restWritten⟩ := start_bind_ok.mp written
    obtain ⟨more, last, moreWritten, whole⟩ := start_bind_ok.mp restWritten
    cases whole
    exact List.forall_mem_cons.mpr
      ⟨itemTerm _ _ _ itemWritten, inductionHypothesis others moreWritten⟩

/-- A comparison of terms makes a term of the column in front of it. -/
theorem Comparison.isPredicate_write {context : Context} {comparison : Comparison}
    (valid : comparison.isValid) (terms : comparison.HasTerms sink context)
    {state after : State} {text : String}
    (written : (comparison.write sink context).start state = (.ok text, after)) :
    IsPredicate text := by
  cases comparison with
  | relation relation operand quantifier =>
    obtain ⟨operandText, middle, operandWritten, whole⟩ := start_bind_ok.mp written
    obtain ⟨operator, always⟩ := terms
    have term : IsTerm operandText := always _ _ _ operandWritten
    cases quantifier with
    | none =>
      cases whole
      exact term.isPredicate operator.plain
    | some quantifier =>
      cases whole
      refine IsTerm.isPredicate ?_ (operator.quantified quantifier)
      split
      · exact term
      · obtain ⟨_, reads⟩ := term
        exact reads.isEnclosable.isTerm_parenthesized
  | nullity negated =>
    cases written
    exact isPredicate_nullity negated
  | like pattern insensitive =>
    obtain ⟨patternText, middle, patternWritten, whole⟩ := start_bind_ok.mp written
    cases whole
    exact IsTerm.isPredicate (terms _ _ _ patternWritten) (by cases insensitive <;> rfl)
  | between low high =>
    obtain ⟨lowText, middle, lowWritten, rest⟩ := start_bind_ok.mp written
    obtain ⟨highText, last, highWritten, whole⟩ := start_bind_ok.mp rest
    cases whole
    exact isPredicate_between (terms.1 _ _ _ lowWritten) (terms.2 _ _ _ highWritten)
  | membership operand negated =>
    have link : isLink .final (" " ++ (membershipKeyword negated ++ " ")) .initial := by
      cases negated <;> rfl
    cases operand with
    | value scalar =>
      obtain ⟨scalarText, middle, scalarWritten, whole⟩ := start_bind_ok.mp written
      cases whole
      exact IsTerm.isPredicate
        (IsEnclosable.isTerm_parenthesized (terms _ _ _ scalarWritten)) link
    | node inner =>
      obtain ⟨innerText, middle, innerWritten, whole⟩ := start_bind_ok.mp written
      cases whole
      exact IsTerm.isPredicate
        (IsEnclosable.isTerm_parenthesized (terms _ _ _ innerWritten)) link
    | list items =>
      cases items with
      | nil => cases valid
      | cons first rest =>
        obtain ⟨firstTerm, others⟩ := List.forall_mem_cons.mp terms
        obtain ⟨firstText, middle, firstWritten, more⟩ := start_bind_ok.mp written
        obtain ⟨restTexts, last, restWritten, whole⟩ := start_bind_ok.mp more
        cases whole
        have items : IsEnclosable (commaText (firstText :: restTexts)) :=
          isEnclosable_commaText (List.forall_mem_cons.mpr
            ⟨firstTerm _ _ _ firstWritten, isEnclosable_writeValues sink others restWritten⟩)
        exact items.isTerm_parenthesized.isPredicate link

/-! ### Readings of conditions -/

/-- A leaf of a condition with a formula for it. -/
abbrev Leaf := Condition × Formula (List Token)

/-- The formula is what a text of the leaf reads as. -/
def Leaf.IsWritten (context : Context) (leaf : Leaf) : Prop :=
  leaf.1.isLeaf ∧ ∃ state text after,
    (leaf.1.write sink context).start state = (.ok text, after) ∧ readText text = some leaf.2

/-- The formula has the truth of the condition under every assignment. -/
structure Condition.Means (context : Context) (condition : Condition)
    (formula : Formula Leaf) : Prop where
  written : ∀ leaf ∈ formula.atoms, leaf.IsWritten sink context
  truth : ∀ truth : Condition → Truth,
    condition.meaning context truth = some (formula.eval fun leaf => truth leaf.1)

/-- The text is empty and the condition asks for nothing, or the text reads as a
formula that the condition means. Only the text of a group has connectives
outside of brackets. -/
def Condition.ReadsFrom (context : Context) (condition : Condition) (text : String) : Prop :=
  (text = "" ∧ ∀ truth, condition.meaning context truth = none) ∨
    ∃ formula : Formula Leaf, condition.Means sink context formula ∧
      ReadsAsCondition text (formula.bind Prod.snd) ∧
      (condition.isGroup = false → ReadsAsTerm text (formula.bind Prod.snd))

section Leaves

variable {context : Context} {state after : State} {text : String}

/-- A leaf that is one operand is read as an atom, and the assignment gives
its truth. -/
theorem readsFrom_of_isTerm {condition : Condition} (leaf : condition.isLeaf)
    (written : (condition.write sink context).start state = (.ok text, after))
    (term : IsTerm text)
    (meant : ∀ truth, condition.meaning context truth = some (truth condition)) :
    condition.ReadsFrom sink context text := by
  obtain ⟨reading, reads⟩ := term
  refine .inr ⟨.atom (condition, reading), ⟨fun other member => ?_, meant⟩, reads.condition,
    fun _ => reads⟩
  rw [List.mem_singleton.mp member]
  exact ⟨leaf, state, text, after, written, reads.condition.readText⟩

/-- A test is its column and its comparison, and asks for nothing if it compares with an
empty list. -/
theorem readsFrom_test {column : Operand} {comparison : Comparison}
    (leaves : Condition.HasOpaqueLeaves sink context (.test column comparison))
    (written : (Condition.write sink context (.test column comparison)).start state =
      (.ok text, after)) :
    Condition.ReadsFrom sink context (.test column comparison) text := by
  by_cases valid : comparison.isValid
  · obtain ⟨columnTerm, terms⟩ := leaves valid
    have term : IsTerm text := by
      rw [Condition.write, if_pos valid] at written
      obtain ⟨columnText, middle, columnWritten, rest⟩ := start_bind_ok.mp written
      obtain ⟨comparisonText, last, comparisonWritten, whole⟩ := start_bind_ok.mp rest
      cases whole
      exact (columnTerm _ _ _ columnWritten).predicate
        (comparison.isPredicate_write sink valid terms comparisonWritten)
    exact readsFrom_of_isTerm sink rfl written term fun truth => if_pos valid
  · rw [Condition.write, if_neg valid] at written
    cases written
    exact .inl ⟨rfl, fun truth => if_neg valid⟩

/-- A query that is asked for a row is one operand, whatever is in it. -/
theorem readsFrom_existence {query : Node}
    (leaves : Condition.HasOpaqueLeaves sink context (.existence query))
    (written : (Condition.write sink context (.existence query)).start state =
      (.ok text, after)) :
    Condition.ReadsFrom sink context (.existence query) text := by
  have term : IsTerm text := by
    obtain ⟨queryText, middle, queryWritten, whole⟩ := start_bind_ok.mp written
    cases whole
    exact (leaves _ _ _ queryWritten).isTerm_exists
  exact readsFrom_of_isTerm sink rfl written term fun _ => rfl

/-- A node that is a condition as it stands is one operand or has no text. -/
theorem readsFrom_plain [sink.Answers] {node : Node}
    (leaves : Condition.HasOpaqueLeaves sink context (.plain node))
    (written : (Condition.write sink context (.plain node)).start state = (.ok text, after)) :
    Condition.ReadsFrom sink context (.plain node) text := by
  have nodeWritten : ((node.render context).writeTo sink).start state = (.ok text, after) := by
    rw [← Node.write_eq]
    exact written
  by_cases blank : (node.render context).isBlank
  · rw [Rendering.writeTo_of_isBlank sink blank] at nodeWritten
    cases nodeWritten
    exact .inl ⟨rfl, fun truth => if_pos blank⟩
  · rcases leaves _ _ _ written with none | term
    · exact absurd none (Rendering.writeTo_ne_empty sink blank nodeWritten)
    · exact readsFrom_of_isTerm sink rfl written term fun truth => if_neg blank

end Leaves

/-- Members that read as formulas make a group that reads as their chain. -/
theorem readsFrom_group {context : Context} (connective : Connective) {members : List Condition}
    {texts : List String} {formulas : List (Formula Leaf)}
    (reads : List.Forall₂ ReadsAsTerm texts (formulas.map fun formula => formula.bind Prod.snd))
    (written : ∀ formula ∈ formulas, ∀ leaf ∈ formula.atoms, leaf.IsWritten sink context)
    (truths : ∀ truth, Condition.meanings context truth members =
      formulas.map (Formula.eval fun leaf => truth leaf.1)) :
    (Condition.group connective members).ReadsFrom sink context
      ((separator connective).intercalate texts) := by
  have meant : ∀ truth, (Condition.group connective members).meaning context truth =
      connective.gather (formulas.map (Formula.eval fun leaf => truth leaf.1)) := by
    intro truth
    rw [← truths truth]
    cases connective <;> rfl
  cases formulas with
  | nil =>
    cases reads
    exact .inl ⟨rfl, meant⟩
  | cons first rest =>
    cases reads with
    | @cons text _ others _ head tail =>
      have bound : (Formula.chain first (rest.map fun formula => (connective, formula))).bind
          Prod.snd = .chain (first.bind Prod.snd)
            ((rest.map fun formula => formula.bind Prod.snd).map
              fun formula => (connective, formula)) := by
        rw [Formula.bind_chain, List.map_map, List.map_map]
        rfl
      refine .inr ⟨.chain first (rest.map fun formula => (connective, formula)), ⟨?_, ?_⟩, ?_, ?_⟩
      · intro leaf member
        rw [Formula.atoms_chain, List.flatMap_map, ← List.flatMap_cons, List.mem_flatMap] at member
        obtain ⟨formula, formulaMember, leafMember⟩ := member
        exact written formula formulaMember leaf leafMember
      · intro truth
        rw [meant, Formula.eval_chain]
        rfl
      · rw [bound]
        exact readsAsCondition_terms connective head tail
      · cases connective <;> exact nofun

variable [sink.Answers]

-- The linter does not see that the members use the variable through the conditions.
set_option linter.unusedSectionVars false in
mutual

/-- A condition of any shape. A group of one has no connective, so it is read like
its member. -/
theorem Condition.readsFrom_write {context : Context} (condition : Condition)
    (leaves : condition.HasOpaqueLeaves sink context) {state after : State} {text : String}
    (written : (condition.write sink context).start state = (.ok text, after)) :
    condition.ReadsFrom sink context text := by
  match condition with
  | .all members =>
    obtain ⟨texts, middle, membersWritten, whole⟩ := start_bind_ok.mp written
    cases whole
    obtain ⟨formulas, reads, atoms, truths⟩ := reads_writeMembers members leaves membersWritten
    exact readsFrom_group sink .all reads atoms truths
  | .any members =>
    obtain ⟨texts, middle, membersWritten, whole⟩ := start_bind_ok.mp written
    cases whole
    obtain ⟨formulas, reads, atoms, truths⟩ := reads_writeMembers members leaves membersWritten
    exact readsFrom_group sink .any reads atoms truths
  | .negation inner =>
    obtain ⟨innerText, middle, innerWritten, whole⟩ := start_bind_ok.mp written
    rcases inner.readsFrom_write leaves innerWritten with ⟨rfl, none⟩ | ⟨formula, means, reads, -⟩
    · cases whole
      exact .inl ⟨rfl, fun truth => congrArg (Option.map Truth.negate) (none truth)⟩
    · rw [if_neg fun empty => reads.ne_empty (String.isEmpty_iff.mp empty)] at whole
      cases whole
      have negated : ReadsAsTerm ("NOT " ++ parenthesizedText innerText)
          ((Formula.negation formula).bind Prod.snd) := reads.negation
      exact .inr ⟨.negation formula,
        ⟨means.written, fun truth => congrArg (Option.map Truth.negate) (means.truth truth)⟩,
        negated.condition, fun _ => negated⟩
  | .existence query => exact readsFrom_existence sink leaves written
  | .test column comparison => exact readsFrom_test sink leaves written
  | .plain node => exact readsFrom_plain sink leaves written

/-- The members of a group that have a text, each with its formula. -/
theorem reads_writeMembers {context : Context} (members : List Condition)
    (leaves : HaveOpaqueLeaves sink context members) {state after : State}
    {texts : List String}
    (written : (writeMembers sink context members).start state = (.ok texts, after)) :
    ∃ formulas : List (Formula Leaf),
      List.Forall₂ ReadsAsTerm texts (formulas.map fun formula => formula.bind Prod.snd) ∧
      (∀ formula ∈ formulas, ∀ leaf ∈ formula.atoms, leaf.IsWritten sink context) ∧
      ∀ truth, Condition.meanings context truth members =
        formulas.map (Formula.eval fun leaf => truth leaf.1) := by
  match members with
  | [] =>
    cases written
    exact ⟨[], .nil, fun _ member => absurd member List.not_mem_nil, fun _ => rfl⟩
  | member :: rest =>
    obtain ⟨text, middle, memberWritten, more⟩ := start_bind_ok.mp written
    obtain ⟨others, last, othersWritten, whole⟩ := start_bind_ok.mp more
    obtain ⟨formulas, reads, atoms, truths⟩ := reads_writeMembers rest leaves.2 othersWritten
    -- A member that asks for nothing is neither among the texts nor among the truths.
    rcases member.readsFrom_write leaves.1 memberWritten with
      ⟨rfl, none⟩ | ⟨formula, means, memberReads, term⟩
    · cases whole
      refine ⟨formulas, reads, atoms, fun truth => ?_⟩
      rw [Condition.meanings, none truth, truths truth]
      rfl
    · rw [if_neg fun empty => memberReads.ne_empty (String.isEmpty_iff.mp empty)] at whole
      cases whole
      refine ⟨formula :: formulas, .cons ?_ reads,
        List.forall_mem_cons.mpr ⟨means.written, atoms⟩, fun truth => ?_⟩
      · split
        · exact memberReads.parenthesized
        · next noGroup => exact term (Bool.not_eq_true _ ▸ noGroup)
      · rw [Condition.meanings, means.truth truth, truths truth]
        rfl

end

/-- The text of a condition with opaque leaves reads as a formula over the leaves
that has the same truth under every assignment, and it is empty exactly if the
condition asks for nothing. -/
theorem Condition.meaning_write {context : Context} (condition : Condition)
    (leaves : condition.HasOpaqueLeaves sink context) {state after : State} {text : String}
    (written : (condition.write sink context).start state = (.ok text, after)) :
    (text = "" ∧ ∀ truth, condition.meaning context truth = none) ∨
      (text ≠ "" ∧ ∃ formula : Formula Leaf,
        (∀ leaf ∈ formula.atoms, leaf.IsWritten sink context) ∧
        readText text = some (formula.bind Prod.snd) ∧
        ∀ truth, condition.meaning context truth =
          some (formula.eval fun leaf => truth leaf.1)) := by
  rcases condition.readsFrom_write sink leaves written with none | ⟨formula, means, reads, -⟩
  · exact .inl none
  · exact .inr ⟨reads.ne_empty, formula, means.written, reads.readText, means.truth⟩

/-- Groups that lose members, one that keeps a single member, and negations of groups. -/
def screening : Condition :=
  .any
    [.all [.test (.path "A") (.relation .equal (.value (.bool true)) none), .any []],
      .negation (.any [.test (.path "B") (.membership (.list []) true),
        .plain (.snippet ⟨"", [], none⟩)]),
      .all
        [.test (.path "B") (.between (.value .null) (.path "A")),
          .negation (.any [.plain (.identifier ⟨"A", false⟩),
            .all [.existence (.identifier ⟨"B", false⟩)]])]]

/-- The text of the condition above, with literals. -/
def screeningText : String :=
  "(\"A\" = 't') OR (\"B\" BETWEEN NULL AND \"A\" AND NOT (\"A\" OR (EXISTS (\"B\"))))"

/-- A disjunction with a conjunction, a range and a negation in it, and a member
without text. -/
theorem meaning_write_screening :
    screening.HasOpaqueLeaves .inline .ordinary ∧
    (screening.write .inline .ordinary).start () = (.ok screeningText, ()) ∧
    ∃ formula : Formula Leaf,
      (∀ leaf ∈ formula.atoms, leaf.IsWritten .inline .ordinary) ∧
      readText screeningText = some (formula.bind Prod.snd) ∧
      ∀ truth, screening.meaning .ordinary truth =
        some (formula.eval fun leaf => truth leaf.1) := by
  have first : IsTerm "\"A\"" :=
    ⟨_, [.name ['A']], [.token _], rfl, .token rfl .nil, rfl, rfl, rfl⟩
  have second : IsTerm "\"B\"" :=
    ⟨_, [.name ['B']], [.token _], rfl, .token rfl .nil, rfl, rfl, rfl⟩
  have truth : IsTerm "'t'" :=
    ⟨_, [.string ['t']], [.token _], rfl, .token rfl .nil, rfl, rfl, rfl⟩
  have null : IsTerm "NULL" :=
    ⟨_, [.word "NULL".toList], [.token _], rfl, .token rfl .nil, rfl, rfl, rfl⟩
  have query : IsEnclosable "\"B\"" := ⟨[.name ['B']], rfl, .token rfl .nil⟩
  have fixed {action : Writing Unit String} {text : String} {property : String → Prop}
      (writes : action.start () = (.ok text, ())) (holds : property text) :
      action.Always property := by
    rintro ⟨⟩ other after written
    rw [writes] at written
    cases written
    exact holds
  have leaves : screening.HasOpaqueLeaves .inline .ordinary :=
    ⟨⟨fun _ => ⟨fixed rfl first, Relation.isOperator .equal rfl, fixed rfl truth⟩, trivial,
        trivial⟩,
      ⟨nofun, fixed rfl (.inl rfl), trivial⟩,
      ⟨fun _ => ⟨fixed rfl second, fixed rfl null, fixed rfl first⟩,
        ⟨fixed rfl (.inr first), ⟨fixed rfl query, trivial⟩, trivial⟩, trivial⟩, trivial⟩
  have written : (screening.write .inline .ordinary).start () = (.ok screeningText, ()) := rfl
  refine ⟨leaves, written, ?_⟩
  rcases screening.meaning_write .inline leaves written with ⟨none, -⟩ | ⟨-, found⟩
  · exact absurd none (by decide)
  · exact found

end SqlTree
