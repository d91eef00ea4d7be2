/-
This file proves where a group of conditions keeps together when it stands in the
place of an operand, and where it does not. Inside another group, a group that
stands as a node of its own has no parentheses: it keeps its meaning unless a
disjunction gets between the members of a conjunction. In a comparison, a group
of two or more conditions is one operand exactly behind `ANY` or `ALL`; in every
other place its first or its last member is taken into the comparison.

A caller can put a condition where a value or a node is wanted, and it is written
there as it is. To say what then happens, the condition is read as if such a node
were not there: it is opened, so that its members are members of what is around
it. Two questions are asked of the tree. Is it loose, with a disjunction outside
of parentheses? Is it kept, with no such disjunction among the members of a
conjunction? A member that is a group of its own has parentheses and is neither.
What is kept has its meaning; what is not is read with its disjunctions taken
apart, and the last two examples show a text of each kind.
-/

import SqlTree.Proofs.Logic.Run
import SqlTree.Proofs.Meaning
import SqlTree.Tree.Change

namespace SqlTree

open Logic Writing

/-! ### Groups that stand as nodes -/

namespace Condition

mutual

/-- The condition with conditions in the place of the nodes in it that are
nothing else. -/
def opened : Condition → Condition
  | .all members => .all (openedMembers members)
  | .any members => .any (openedMembers members)
  | .negation inner => .negation inner.opened
  | .plain (.condition inner) => inner.opened
  | leaf => leaf

/-- The members of a group, each opened. -/
def openedMembers : List Condition → List Condition
  | [] => []
  | member :: rest => member.opened :: openedMembers rest

end

variable (context : Context)

/-- How many of the conditions have a text. -/
def presentCount (members : List Condition) : Nat :=
  (members.filter fun member => !(member.render context).isBlank).length

mutual

/-- Whether a disjunction stands outside of parentheses in the text of the
condition. -/
def isLoose : Condition → Bool
  | .all members => isAnyLoose members
  | .any members => 2 ≤ presentCount context members || isAnyLoose members
  | .plain (.condition inner) => inner.isLoose
  | _ => false

/-- Whether a disjunction stands outside of parentheses in a member, where groups
have parentheses. -/
def isAnyLoose : List Condition → Bool
  | [] => false
  | member :: rest => (!member.isGroup && member.isLoose) || isAnyLoose rest

end

mutual

/-- Whether no disjunction gets between the members of a conjunction of two or
more conditions, at any depth. -/
def isKept : Condition → Bool
  | .all members =>
    (presentCount context members < 2 || !isAnyLoose context members) && areKept members
  | .any members => areKept members
  | .negation inner => inner.isKept
  | .plain (.condition inner) => inner.isKept
  | _ => true

/-- The members of a group, at any depth. -/
def areKept : List Condition → Bool
  | [] => true
  | member :: rest => member.isKept && areKept rest

end

end Condition

/-! ### Opaque parts -/

variable {State : Type} (sink : Sink State)

/-- The operands of the comparison are operands in the text as well, and its operator
stands between them. Behind `ANY` and `ALL`, and in a list, an operand only has to
have matching brackets. -/
def Comparison.HasOperands (context : Context) : Comparison → Prop
  | .relation kind operand (some _) =>
    kind.IsOperator ∧ (operand.writeValue sink context .array).Always fun text =>
      if operand.isStatement then IsTerm text else IsEnclosable text
  | other => other.HasTerms sink context

mutual

/-- The operands of every test are operands in the text as well, and every node
that is no condition is one operand or has no text. -/
def Condition.HasOpaqueParts (context : Context) : Condition → Prop
  | .all members | .any members => HaveOpaqueParts context members
  | .negation inner => inner.HasOpaqueParts context
  | .existence query =>
    (query.write sink (if query.isStatement then .ordinary else context)).Always IsEnclosable
  | .test column comparison =>
    comparison.isValid → (column.writeName sink context).Always IsTerm ∧
      comparison.HasOperands sink context
  | .plain (.condition inner) => inner.HasOpaqueParts context
  | .plain node => (node.write sink context).Always fun text => text = "" ∨ IsTerm text

/-- Every part below a list of members. -/
def HaveOpaqueParts (context : Context) : List Condition → Prop
  | [] => True
  | member :: rest => member.HasOpaqueParts context ∧ HaveOpaqueParts context rest

end

/-- What the text of the condition reads as. The formula has the truth of the
condition under every assignment, if the condition is kept together, and is a
disjunction if one stands outside of parentheses. -/
structure Condition.Reading (context : Context) (condition : Condition)
    (formula : Formula Leaf) : Prop where
  written : ∀ leaf ∈ formula.atoms, leaf.IsWritten sink context
  truth : condition.isKept context → ∀ truth : Condition → Truth,
    condition.opened.meaning context truth = some (formula.eval fun leaf => truth leaf.1)
  loose : condition.isLoose context → ∃ left right, formula = .disjunction left right

/-- The text is empty and the condition asks for nothing, or it reads as a run,
which has a disjunction between its comparisons exactly if the condition is loose. -/
def Condition.RunsAs (context : Context) (condition : Condition) (text : String) : Prop :=
  (text = "" ∧ condition.isKept context ∧ condition.isLoose context = false ∧
    ∀ truth, condition.opened.meaning context truth = none) ∨
    ∃ run : Run Leaf, condition.Reading sink context run.formula ∧
      run.isTight = !condition.isLoose context ∧ ReadsAsRun text (run.bind Prod.snd)

/-- The texts of members read as runs, one for each member that has a text. -/
structure MembersRunAs (context : Context) (members : List Condition) (texts : List String)
    (runs : List (Run Leaf)) : Prop where
  reads : List.Forall₂ ReadsAsRun texts (runs.map (Run.bind Prod.snd))
  count : runs.length = Condition.presentCount context members
  tight : runs.all Run.isTight = !Condition.isAnyLoose context members
  written : ∀ run ∈ runs, ∀ leaf ∈ run.formula.atoms, leaf.IsWritten sink context
  kept : runs = [] → Condition.areKept context members
  truths : Condition.areKept context members → ∀ truth,
    Condition.meanings context truth (Condition.openedMembers members) =
      runs.map fun run => run.formula.eval fun leaf => truth leaf.1

section Texts

variable {sink} {context : Context} {state after : State} {text : String}

/-- A condition without text is one whose text comes back empty. -/
theorem Condition.isBlank_iff [sink.Answers] {condition : Condition}
    (written : (condition.write sink context).start state = (.ok text, after)) :
    (condition.render context).isBlank ↔ text = "" := by
  rw [condition.write_eq sink] at written
  constructor
  · intro blank
    rw [Rendering.writeTo_of_isBlank sink blank] at written
    cases written
    rfl
  · intro none
    by_contra present
    exact Rendering.writeTo_ne_empty sink present written none

/-- A leaf that reads as a term reads as a run of its own. -/
theorem Condition.ReadsFrom.runsAs {condition : Condition}
    (reads : condition.ReadsFrom sink context text) (same : condition.opened = condition)
    (single : condition.isGroup = false) (kept : condition.isKept context)
    (tight : condition.isLoose context = false) :
    condition.RunsAs sink context text := by
  rcases reads with ⟨empty, none⟩ | ⟨formula, means, -, term⟩
  · exact .inl ⟨empty, kept, tight, by rw [same]; exact none⟩
  · refine .inr ⟨⟨formula, []⟩, ⟨means.written, fun _ => ?_, fun loose => ?_⟩, ?_, ?_⟩
    · rw [same]
      exact means.truth
    · rw [tight] at loose
      cases loose
    · rw [tight]
      rfl
    · exact (term single).run

/-- Behind `ANY` and `ALL` an operand stands in parentheses anyway. -/
theorem Comparison.isPredicate_of_hasOperands {comparison : Comparison}
    (valid : comparison.isValid) (operands : comparison.HasOperands sink context)
    (written : (comparison.write sink context).start state = (.ok text, after)) :
    IsPredicate text := by
  match comparison with
  | .relation kind operand (some quantifier) =>
    obtain ⟨operandText, middle, operandWritten, whole⟩ := start_bind_ok.mp written
    obtain ⟨operator, always⟩ := operands
    have readable : if operand.isStatement then IsTerm operandText else IsEnclosable operandText :=
      always _ _ _ operandWritten
    cases whole
    refine IsTerm.isPredicate ?_ (operator.quantified quantifier)
    split
    · next statement =>
      rw [if_pos statement] at readable
      exact readable
    · next other =>
      rw [if_neg other] at readable
      exact readable.isTerm_parenthesized
  | .relation _ _ none | .nullity _ | .like _ _ | .between _ _ | .membership _ _ =>
    exact Comparison.isPredicate_write sink valid operands written

/-- A group that is written is its members with text and the word between them. -/
theorem start_group_ok (connective : Connective) {members : List Condition}
    (written : ((Condition.group connective members).write sink context).start state =
      (.ok text, after)) :
    ∃ texts, (writeMembers sink context members).start state = (.ok texts, after) ∧
      text = (separator connective).intercalate texts := by
  cases connective <;>
  · obtain ⟨texts, middle, membersWritten, whole⟩ := start_bind_ok.mp written
    cases whole
    exact ⟨texts, membersWritten, rfl⟩

/-- A test that is written is its column, a space and its comparison. -/
theorem start_test_ok {column : Operand} {comparison : Comparison} (valid : comparison.isValid)
    (written : ((Condition.test column comparison).write sink context).start state =
      (.ok text, after)) :
    ∃ columnText comparisonText middle,
      (column.writeName sink context).start state = (.ok columnText, middle) ∧
      (comparison.write sink context).start middle = (.ok comparisonText, after) ∧
      text = columnText ++ " " ++ comparisonText := by
  rw [Condition.write, if_pos valid] at written
  obtain ⟨columnText, middle, columnWritten, rest⟩ := start_bind_ok.mp written
  obtain ⟨comparisonText, last, comparisonWritten, whole⟩ := start_bind_ok.mp rest
  cases whole
  exact ⟨columnText, comparisonText, middle, columnWritten, comparisonWritten, rfl⟩

/-- A test is a run of one. -/
theorem runsAs_test {column : Operand} {comparison : Comparison}
    (parts : Condition.HasOpaqueParts sink context (.test column comparison))
    (written : (Condition.write sink context (.test column comparison)).start state =
      (.ok text, after)) :
    Condition.RunsAs sink context (.test column comparison) text := by
  refine Condition.ReadsFrom.runsAs ?_ rfl rfl rfl rfl
  by_cases valid : comparison.isValid
  · obtain ⟨columnTerm, operands⟩ := parts valid
    have term : IsTerm text := by
      obtain ⟨columnText, comparisonText, middle, columnWritten, comparisonWritten, rfl⟩ :=
        start_test_ok valid written
      exact (columnTerm _ _ _ columnWritten).predicate
        (Comparison.isPredicate_of_hasOperands valid operands comparisonWritten)
    exact readsFrom_of_isTerm sink rfl written term fun truth => if_pos valid
  · rw [Condition.write, if_neg valid] at written
    cases written
    exact .inl ⟨rfl, fun truth => if_neg valid⟩

/-- A group is loose by its own connective or by a member without parentheses. -/
theorem Condition.isLoose_group (connective : Connective) (members : List Condition) :
    (Condition.group connective members).isLoose context =
      ((connective = .any && 2 ≤ presentCount context members) ||
        isAnyLoose context members) := by
  cases connective <;> rfl

/-- The meaning of an opened group is that of its members. -/
theorem Condition.meaning_opened_group (connective : Connective) (members : List Condition)
    (truth : Condition → Truth) :
    (Condition.group connective members).opened.meaning context truth =
      connective.gather (meanings context truth (openedMembers members)) := by
  cases connective <;> rfl

/-- A conjunction of two or more is kept if no member is loose, and its members
are kept. -/
theorem Condition.isKept_group (connective : Connective) (members : List Condition) :
    (Condition.group connective members).isKept context =
      ((connective = .any || presentCount context members < 2 || !isAnyLoose context members) &&
        areKept context members) := by
  cases connective <;> rfl

/-- Members that read as runs make a group that reads as one run. -/
theorem runsAs_group (connective : Connective) {members : List Condition} {texts : List String}
    {runs : List (Run Leaf)} (found : MembersRunAs sink context members texts runs) :
    (Condition.group connective members).RunsAs sink context
      ((separator connective).intercalate texts) := by
  obtain ⟨reads, count, tight, written, allKept, truths⟩ := found
  cases runs with
  | nil =>
    cases reads
    have kept := allKept rfl
    have noneLoose : Condition.isAnyLoose context members = false :=
      Bool.not_eq_true' _ ▸ tight.symm
    refine .inl ⟨rfl, ?_, ?_, fun truth => ?_⟩
    · rw [Condition.isKept_group, kept, noneLoose]
      simp
    · rw [Condition.isLoose_group, ← count, noneLoose]
      simp
    · rw [Condition.meaning_opened_group, truths kept]
      rfl
  | cons run rest =>
    cases reads with
    | cons head tail =>
      have joinedTight : (run.join connective rest).isTight =
          !(Condition.group connective members).isLoose context := by
        rw [Run.isTight_join, tight, Condition.isLoose_group, ← count]
        cases connective <;> cases rest <;> simp
      refine .inr ⟨run.join connective rest, ⟨?_, ?_, ?_⟩, joinedTight, ?_⟩
      · intro leaf member
        obtain ⟨other, otherMember, found⟩ := Run.mem_atoms_join member
        exact written other otherMember leaf found
      · intro kept truth
        rw [Condition.isKept_group, Bool.and_eq_true] at kept
        rw [Condition.meaning_opened_group, truths kept.2 truth, Run.eval_join]
        · rfl
        · rintro rfl several
          rw [← count] at kept
          obtain _ | ⟨next, others⟩ := rest
          · exact absurd rfl several
          · have two : ¬ (run :: next :: others).length < 2 :=
              Nat.not_lt.mpr (Nat.le_add_left 2 _)
            rw [decide_eq_false two] at kept
            rw [tight]
            simpa using kept.1
      · intro loose
        rw [loose] at joinedTight
        exact Run.formula_eq_disjunction joinedTight
      · rw [Run.bind_join]
        exact readsAsRun_join connective head tail

/-- A condition that stands as a node of its own is read as if it stood there itself. -/
theorem Condition.RunsAs.plain {inner : Condition} (runs : inner.RunsAs sink context text) :
    (Condition.plain (.condition inner)).RunsAs sink context text := by
  rcases runs with empty | ⟨run, ⟨written, truth, loose⟩, tight, reads⟩
  · exact .inl empty
  · exact .inr ⟨run, ⟨written, truth, loose⟩, tight, reads⟩

/-- A group among the members of another stands in parentheses, and so is a run
of its own. -/
theorem readsAsRun_member {run : Run Leaf}
    (reads : ReadsAsRun text (run.bind Prod.snd)) (isGroup : Bool) :
    ∃ own : Run Leaf, own.formula = run.formula ∧ own.isTight = (isGroup || run.isTight) ∧
      ReadsAsRun (if isGroup then parenthesizedText text else text) (own.bind Prod.snd) := by
  cases isGroup with
  | true =>
    have condition := reads.condition
    rw [Run.formula_bind] at condition
    exact ⟨⟨run.formula, []⟩, rfl, rfl, condition.parenthesized.run⟩
  | false => exact ⟨run, rfl, rfl, reads⟩

end Texts

variable [sink.Answers]

-- The linter does not see that the members use the variable through the conditions.
set_option linter.unusedSectionVars false in
mutual

/-- Every condition is read as a run that is loose if the condition is. -/
theorem Condition.runsAs_write {context : Context} (condition : Condition)
    (parts : condition.HasOpaqueParts sink context) {state after : State} {text : String}
    (written : (condition.write sink context).start state = (.ok text, after)) :
    condition.RunsAs sink context text := by
  match condition with
  | .all members =>
    obtain ⟨texts, membersWritten, rfl⟩ := start_group_ok .all written
    obtain ⟨runs, found⟩ := membersRunAs_write members parts membersWritten
    exact runsAs_group .all found
  | .any members =>
    obtain ⟨texts, membersWritten, rfl⟩ := start_group_ok .any written
    obtain ⟨runs, found⟩ := membersRunAs_write members parts membersWritten
    exact runsAs_group .any found
  | .negation inner =>
    obtain ⟨innerText, middle, innerWritten, whole⟩ := start_bind_ok.mp written
    rcases inner.runsAs_write parts innerWritten with
      ⟨rfl, kept, -, none⟩ | ⟨run, reading, -, reads⟩
    · cases whole
      exact .inl ⟨rfl, kept, rfl, fun truth => congrArg (Option.map Truth.negate) (none truth)⟩
    · have condition := reads.condition
      rw [if_neg fun empty => condition.ne_empty (String.isEmpty_iff.mp empty)] at whole
      cases whole
      rw [Run.formula_bind] at condition
      refine .inr ⟨⟨.negation run.formula, []⟩, ⟨reading.written, fun kept truth => ?_, nofun⟩, rfl,
        condition.negation.run⟩
      exact congrArg (Option.map Truth.negate) (reading.truth kept truth)
  | .existence query =>
    exact (readsFrom_existence sink parts written).runsAs rfl rfl rfl rfl
  | .test column comparison => exact runsAs_test parts written
  | .plain (.condition inner) => exact (inner.runsAs_write parts written).plain
  | .plain (.identifier _) | .plain (.literal _) | .plain (.snippet _) | .plain (.unresolved _)
  | .plain (.renamed _) | .plain (.comparison _) | .plain (.jsonObject _) | .plain (.values _)
  | .plain (.sources _) | .plain (.join _) | .plain (.select _) | .plain (.insert _)
  | .plain (.update _) | .plain (.delete _) =>
    exact (readsFrom_plain sink parts written).runsAs rfl rfl rfl rfl

/-- The members of a group, one run for each that has a text. -/
theorem membersRunAs_write {context : Context} (members : List Condition)
    (parts : HaveOpaqueParts sink context members) {state after : State} {texts : List String}
    (written : (writeMembers sink context members).start state = (.ok texts, after)) :
    ∃ runs, MembersRunAs sink context members texts runs := by
  match members with
  | [] =>
    cases written
    exact ⟨[], .nil, rfl, rfl, fun _ member => absurd member List.not_mem_nil, fun _ => rfl,
      fun _ _ => rfl⟩
  | member :: rest =>
    obtain ⟨text, middle, memberWritten, more⟩ := start_bind_ok.mp written
    obtain ⟨others, last, othersWritten, whole⟩ := start_bind_ok.mp more
    obtain ⟨runs, reads, count, tight, atoms, allKept, truths⟩ :=
      membersRunAs_write rest parts.2 othersWritten
    have blank := Condition.isBlank_iff memberWritten
    -- A member without a text is not counted, and has no truth.
    rcases member.runsAs_write parts.1 memberWritten with
      ⟨rfl, kept, tightMember, none⟩ | ⟨run, reading, tightMember, memberReads⟩
    · cases whole
      refine ⟨runs, reads, ?_, ?_, atoms, fun noRuns => ?_, fun keptAll truth => ?_⟩
      · rw [count, Condition.presentCount, Condition.presentCount, List.filter_cons_of_neg]
        simp [blank]
      · rw [tight, Condition.isAnyLoose, tightMember, Bool.and_false, Bool.false_or]
      · exact Bool.and_eq_true_iff.mpr ⟨kept, allKept noRuns⟩
      · obtain ⟨-, restKept⟩ := Bool.and_eq_true_iff.mp keptAll
        rw [Condition.openedMembers, Condition.meanings, none truth, truths restKept truth]
        rfl
    · have condition := memberReads.condition
      rw [if_neg fun empty => condition.ne_empty (String.isEmpty_iff.mp empty)] at whole
      cases whole
      have present : (member.render context).isBlank = false :=
        Bool.eq_false_iff.mpr fun isBlank => condition.ne_empty (blank.mp isBlank)
      have counted : Condition.presentCount context (member :: rest) =
          Condition.presentCount context rest + 1 := by
        rw [Condition.presentCount, Condition.presentCount, List.filter_cons_of_pos]
        · rfl
        · rw [present]
          rfl
      obtain ⟨own, same, ownTight, ownReads⟩ := readsAsRun_member memberReads member.isGroup
      refine ⟨own :: runs, .cons ownReads reads, ?_, ?_, ?_, nofun, fun keptAll truth => ?_⟩
      · rw [counted, ← count, List.length_cons]
      · rw [List.all_cons, tight, ownTight, tightMember, Condition.isAnyLoose, Bool.not_or]
        cases member.isGroup <;> rfl
      · refine List.forall_mem_cons.mpr ⟨?_, atoms⟩
        rw [same]
        exact reading.written
      · obtain ⟨keptMember, restKept⟩ := Bool.and_eq_true_iff.mp keptAll
        rw [Condition.openedMembers, Condition.meanings, reading.truth keptMember truth,
          truths restKept truth, List.map_cons, same]
        rfl

end

/-! ### Groups that stand as operands -/

/-- A place for an operand of a comparison. -/
inductive OperandPlace where
  /-- In the place of the column. -/
  | subject (comparison : Comparison)
  | value (column : Operand) (relation : Relation) (quantifier : Option Quantifier)
  /-- The operand of a column of a map. -/
  | field (column : String)
  | pattern (column : Operand) (insensitive : Bool)
  | lower (column high : Operand)
  | upper (column low : Operand)
  | membership (column : Operand) (negated : Bool)

namespace OperandPlace

/-- The condition with the operand in the place. -/
def fill (operand : Operand) : OperandPlace → Condition
  | .subject comparison => .test operand comparison
  | .value column relation quantifier => .test column (.relation relation operand quantifier)
  | .field column => Field.condition ⟨column, operand⟩
  | .pattern column insensitive => .test column (.like operand insensitive)
  | .lower column high => .test column (.between operand high)
  | .upper column low => .test column (.between low operand)
  | .membership column negated => .test column (.membership operand negated)

/-- Whether the place has parentheses of its own. -/
def isEnclosed : OperandPlace → Bool
  | .value _ _ (some _) | .membership _ _ => true
  | _ => false

/-- What else the comparison consists of are operands in the text as well, and its
operator stands between them. -/
def HasOperands (context : Context) : OperandPlace → Prop
  | .subject comparison => comparison.isValid ∧ comparison.HasOperands sink context
  | .value column relation _ =>
    relation.IsOperator ∧ (column.writeName sink context).Always IsTerm
  | .pattern column _ | .membership column _ => (column.writeName sink context).Always IsTerm
  | .field column => IsTerm (quotePath column)
  | .lower column other | .upper column other =>
    (column.writeName sink context).Always IsTerm ∧
      (other.writeValue sink context .array).Always IsTerm

end OperandPlace

section Groups

variable {sink} {context : Context} {connective : Connective} {members : List Condition}
  {state after : State} {text : String}

/-- Two or more members are written as a run of two or more comparisons. -/
theorem several_write (parts : HaveOpaqueParts sink context members)
    (several : 2 ≤ Condition.presentCount context members)
    (written : ((Condition.group connective members).write sink context).start state =
      (.ok text, after)) : ∃ run, ReadsAsRun text run ∧ run.others ≠ [] := by
  obtain ⟨texts, membersWritten, rfl⟩ := start_group_ok connective written
  obtain ⟨runs, reads, count, -⟩ := membersRunAs_write sink members parts membersWritten
  rw [← count] at several
  match runs, reads, several with
  | first :: second :: rest, .cons head tail, _ =>
    exact ⟨_, readsAsRun_join connective head tail,
      List.append_ne_nil_of_right_ne_nil _ (List.cons_ne_nil _ _)⟩

/-- Two members or more read as the run of both. -/
theorem reading_of_several (parts : HaveOpaqueParts sink context members)
    (several : 2 ≤ Condition.presentCount context members)
    (written : ((Condition.group connective members).write sink context).start state =
      (.ok text, after)) :
    ∃ formula, (Condition.group connective members).Reading sink context formula ∧
      ReadsAsCondition text (formula.bind Prod.snd) := by
  have whole : (Condition.group connective members).HasOpaqueParts sink context := by
    cases connective <;> exact parts
  rcases Condition.runsAs_write sink _ whole written with ⟨rfl, -⟩ | ⟨run, reading, -, reads⟩
  · obtain ⟨run, reads, -⟩ := several_write parts several written
    exact absurd rfl reads.condition.ne_empty
  · exact ⟨run.formula, reading, Run.formula_bind Prod.snd run ▸ reads.condition⟩

/-- A comparison in which the text behind its keyword ends it is no comparison. -/
theorem breaks_comparison {column keyword rest : String} {next : Position} (term : IsTerm column)
    (link : isLink .final (" " ++ keyword) next) (tail : Breaks next rest) :
    Breaks .initial (column ++ " " ++ (keyword ++ rest)) := by
  have joined : " " ++ (keyword ++ rest) = " " ++ keyword ++ rest := String.append_assoc.symm
  rw [String.append_assoc, joined]
  exact term.walks.link_breaks link tail

omit [sink.Answers] in
/-- A range that is written has its two ends in it. -/
theorem start_between_ok {low high : Operand}
    (written : ((Comparison.between low high).write sink context).start state =
      (.ok text, after)) :
    ∃ lowText highText middle,
      (low.writeValue sink context .array).start state = (.ok lowText, middle) ∧
      (high.writeValue sink context .array).start middle = (.ok highText, after) ∧
      text = "BETWEEN " ++ (lowText ++ (" AND " ++ highText)) := by
  obtain ⟨lowText, middle, lowWritten, rest⟩ := start_bind_ok.mp written
  obtain ⟨highText, last, highWritten, whole⟩ := start_bind_ok.mp rest
  cases whole
  exact ⟨lowText, highText, middle, lowWritten, highWritten,
    by rw [String.append_assoc, String.append_assoc]⟩

/-- A group of two or more conditions that stands bare behind a keyword ends the
comparison. -/
theorem breaks_bare {column : Operand} {comparison : Comparison} {keyword : String}
    (columnTerm : (column.writeName sink context).Always IsTerm) (valid : comparison.isValid)
    (bare : comparison.write sink context =
      (do return keyword ++ (← (Condition.group connective members).write sink context)))
    (link : isLink .final (" " ++ keyword) .initial)
    (parts : HaveOpaqueParts sink context members)
    (several : 2 ≤ Condition.presentCount context members)
    (written : ((Condition.test column comparison).write sink context).start state =
      (.ok text, after)) : Breaks .initial text := by
  obtain ⟨columnText, comparisonText, middle, columnWritten, comparisonWritten, rfl⟩ :=
    start_test_ok valid written
  rw [bare] at comparisonWritten
  obtain ⟨groupText, last, groupWritten, whole⟩ := start_bind_ok.mp comparisonWritten
  cases whole
  obtain ⟨run, reads, two⟩ := several_write parts several groupWritten
  exact breaks_comparison (columnTerm _ _ _ columnWritten) link (reads.breaks two)

/-- Without parentheses a group of two or more conditions ends the comparison that
it stands in. -/
theorem OperandPlace.breaks {place : OperandPlace} (exposed : place.isEnclosed = false)
    (operands : place.HasOperands sink context) (parts : HaveOpaqueParts sink context members)
    (several : 2 ≤ Condition.presentCount context members)
    (written : ((place.fill (.node (.condition (.group connective members)))).write sink
      context).start state = (.ok text, after)) : Breaks .initial text := by
  cases place with
  | subject comparison =>
    obtain ⟨valid, hasOperands⟩ := operands
    obtain ⟨groupText, comparisonText, middle, groupWritten, comparisonWritten, rfl⟩ :=
      start_test_ok valid written
    obtain ⟨run, reads, two⟩ := several_write parts several groupWritten
    obtain ⟨keyword, next, rest, rfl, link, tail⟩ :=
      Comparison.isPredicate_of_hasOperands valid hasOperands comparisonWritten
    have joined : " " ++ (keyword ++ rest) = " " ++ keyword ++ rest := String.append_assoc.symm
    rw [String.append_assoc, joined]
    exact (reads.breaks two).link link tail
  | value column relation quantifier =>
    cases quantifier with
    | some quantifier => cases exposed
    | none =>
      exact breaks_bare operands.2 rfl rfl operands.1.plain parts several written
  | field column =>
    have columnTerm : ((Operand.text column).writeName sink context).Always IsTerm := by
      rintro before other last columnWritten
      cases columnWritten
      exact operands
    have unresolved : (Operand.node (.unresolved
        (.node (.condition (.group connective members))))).writeValue sink context .array =
          (Condition.group connective members).write sink context :=
      if_neg fun both => Bool.false_ne_true both.2
    have bare : (Comparison.relation .equal (.node (.unresolved (.node (.condition
        (.group connective members))))) none).write sink context =
          (do return "= " ++ (← (Condition.group connective members).write sink context)) :=
      congrArg (fun action => do return "= " ++ (← action)) unresolved
    exact breaks_bare columnTerm rfl bare rfl parts several written
  | pattern column insensitive =>
    exact breaks_bare operands rfl rfl (by cases insensitive <;> rfl) parts several written
  | lower column high =>
    obtain ⟨columnText, _, middle, columnWritten, comparisonWritten, rfl⟩ :=
      start_test_ok rfl written
    obtain ⟨groupText, highText, next, groupWritten, highWritten, rfl⟩ :=
      start_between_ok comparisonWritten
    obtain ⟨run, reads, two⟩ := several_write parts several groupWritten
    exact breaks_comparison (operands.1 _ _ _ columnWritten) rfl
      (reads.breaks_between two (operands.2 _ _ _ highWritten))
  | upper column low =>
    obtain ⟨columnText, _, middle, columnWritten, comparisonWritten, rfl⟩ :=
      start_test_ok rfl written
    obtain ⟨lowText, groupText, next, lowWritten, groupWritten, rfl⟩ :=
      start_between_ok comparisonWritten
    obtain ⟨run, reads, two⟩ := several_write parts several groupWritten
    have lowTerm : IsTerm lowText := operands.2 _ _ _ lowWritten
    have tail : Breaks (Position.initial.within 1) (lowText ++ (" AND " ++ groupText)) :=
      (lowTerm.walks.within 1).link_breaks rfl (reads.breaks two)
    exact breaks_comparison (operands.1 _ _ _ columnWritten) rfl tail
  | membership column negated => cases exposed

/-- A group of two or more conditions is one operand of a comparison exactly where
the place has parentheses. -/
theorem OperandPlace.holds_iff {place : OperandPlace} (operands : place.HasOperands sink context)
    (parts : HaveOpaqueParts sink context members)
    (several : 2 ≤ Condition.presentCount context members)
    (written : ((place.fill (.node (.condition (.group connective members)))).write sink
      context).start state = (.ok text, after)) :
    (∃ formula, (Condition.group connective members).Reading sink context formula ∧
        HoldsGroup text (formula.bind Prod.snd)) ↔
      place.isEnclosed := by
  constructor
  · rintro ⟨formula, -, holds⟩
    by_contra exposed
    exact (OperandPlace.breaks (Bool.not_eq_true _ ▸ exposed) operands parts several
      written).not_isTerm holds.isTerm
  · intro enclosed
    cases place with
    | subject _ | field _ | pattern _ _ | lower _ _ | upper _ _ => cases enclosed
    | value column relation quantifier =>
      cases quantifier with
      | none => cases enclosed
      | some quantifier =>
        obtain ⟨columnText, _, middle, columnWritten, comparisonWritten, rfl⟩ :=
          start_test_ok rfl written
        obtain ⟨groupText, last, groupWritten, whole⟩ := start_bind_ok.mp comparisonWritten
        cases whole
        obtain ⟨formula, reading, reads⟩ := reading_of_several parts several groupWritten
        exact ⟨formula, reading, IsTerm.holdsGroup (operands.2 _ _ _ columnWritten)
          (operands.1.quantified quantifier) reads⟩
    | membership column negated =>
      obtain ⟨columnText, _, middle, columnWritten, comparisonWritten, rfl⟩ :=
        start_test_ok rfl written
      obtain ⟨groupText, last, groupWritten, whole⟩ := start_bind_ok.mp comparisonWritten
      cases whole
      obtain ⟨formula, reading, reads⟩ := reading_of_several parts several groupWritten
      exact ⟨formula, reading, IsTerm.holdsGroup (operands _ _ _ columnWritten)
        (by cases negated <;> rfl) reads⟩

/-- Whatever a condition reads as, its brackets match. -/
theorem Condition.isEnclosable_write {condition : Condition}
    (parts : condition.HasOpaqueParts sink context) :
    (condition.write sink context).Always IsEnclosable := by
  intro state text after written
  rcases condition.runsAs_write sink parts written with ⟨rfl, -⟩ | ⟨run, -, -, reads⟩
  · exact ⟨[], rfl, .nil⟩
  · obtain ⟨tokens, parts, _, _, scanned, bracketed, -⟩ := reads
    exact ⟨tokens, scanned, bracketed.balanced⟩

/-- A group in parentheses makes an opaque part of the condition that it stands in. -/
theorem OperandPlace.hasOpaqueParts {place : OperandPlace} (enclosed : place.isEnclosed)
    (operands : place.HasOperands sink context) {condition : Condition}
    (parts : condition.HasOpaqueParts sink context) :
    (place.fill (.node (.condition condition))).HasOpaqueParts sink context := by
  have enclosable := Condition.isEnclosable_write parts
  cases place with
  | subject _ | field _ | pattern _ _ | lower _ _ | upper _ _ => cases enclosed
  | value column relation quantifier =>
    cases quantifier with
    | none => cases enclosed
    | some quantifier => exact fun _ => ⟨operands.2, operands.1, enclosable⟩
  | membership column negated => exact fun _ => ⟨operands, enclosable⟩

end Groups

/-- The text of a condition reads as a formula with the truth of the condition, if
no disjunction gets between the members of a conjunction; groups among its nodes
count as groups. As an operand of a comparison, a group of two or more conditions
is one operand of the text exactly where the place has parentheses, behind `ANY`,
`ALL` and `IN`. There it is an opaque part of the condition around it. -/
theorem Condition.groups_kept (sink : Sink State) [sink.Answers] (context : Context) :
    (∀ (condition : Condition) (state : State) (text : String) (after : State),
      condition.HasOpaqueParts sink context →
      (condition.write sink context).start state = (.ok text, after) →
      (text = "" ∧ ∀ truth, condition.opened.meaning context truth = none) ∨
        (text ≠ "" ∧ ∃ formula, condition.Reading sink context formula ∧
          readText text = some (formula.bind Prod.snd))) ∧
      ∀ (place : OperandPlace) (connective : Connective) (members : List Condition),
        place.HasOperands sink context → HaveOpaqueParts sink context members →
        (place.isEnclosed → (place.fill (.node (.condition
          (.group connective members)))).HasOpaqueParts sink context) ∧
        ∀ (state : State) (text : String) (after : State),
          2 ≤ presentCount context members →
          ((place.fill (.node (.condition (.group connective members)))).write sink
            context).start state = (.ok text, after) →
          ((∃ formula, (Condition.group connective members).Reading sink context formula ∧
            HoldsGroup text (formula.bind Prod.snd)) ↔ place.isEnclosed) := by
  refine ⟨fun condition state text after parts written => ?_,
    fun place connective members operands parts => ⟨fun enclosed => ?_,
      fun _ _ _ several written => place.holds_iff operands parts several written⟩⟩
  · rcases condition.runsAs_write sink parts written with
      ⟨empty, -, -, none⟩ | ⟨run, reading, -, reads⟩
    · exact .inl ⟨empty, none⟩
    · have whole := reads.condition
      refine .inr ⟨whole.ne_empty, run.formula, reading, ?_⟩
      rw [← Run.formula_bind]
      exact whole.readText
  · have whole : (Condition.group connective members).HasOpaqueParts sink context := by
      cases connective <;> exact parts
    exact place.hasOpaqueParts enclosed operands whole

/-- A column that is a condition as it stands. -/
def flag (name : String) : Condition :=
  .plain (.identifier ⟨name, false⟩)

/-- Orders in groups that keep together: as a node between other members, behind
`ANY`, and in a negation. -/
def pendingOrders : Condition :=
  .all [.plain (.condition (.all [flag "Sent", flag "Billed"])),
    (OperandPlace.value (.path "Closed") .equal (some .any)).fill
      (.node (.condition (.any [flag "Sent", flag "Billed"]))),
    .plain (.condition (.negation (.any [flag "Sent", flag "Billed"])))]

/-- Conditions as nodes in a conjunction, behind a quantifier and in a negation. -/
def pendingText : String :=
  "\"Sent\" AND \"Billed\" AND \"Closed\" = ANY (\"Sent\" OR \"Billed\")"
    ++ " AND NOT (\"Sent\" OR \"Billed\")"

/-- Where there is no disjunction between members, or parentheses around it, the meaning
is kept. -/
theorem groups_kept_pendingOrders :
    pendingOrders.HasOpaqueParts .inline .ordinary ∧ pendingOrders.isKept .ordinary ∧
      (pendingOrders.write .inline .ordinary).start () = (.ok pendingText, ()) ∧
      ∃ formula : Formula Leaf, pendingOrders.Reading .inline .ordinary formula ∧
        readText pendingText = some (formula.bind Prod.snd) := by
  have sent : IsTerm "\"Sent\"" :=
    ⟨_, [.name "Sent".toList], [.token _], rfl, .token rfl .nil, rfl, rfl, rfl⟩
  have billed : IsTerm "\"Billed\"" :=
    ⟨_, [.name "Billed".toList], [.token _], rfl, .token rfl .nil, rfl, rfl, rfl⟩
  have closed : IsTerm "\"Closed\"" :=
    ⟨_, [.name "Closed".toList], [.token _], rfl, .token rfl .nil, rfl, rfl, rfl⟩
  have always {text : String} {property : String → Prop} (holds : property text) :
      (pure text : Writing Unit String).Always property := by
    rintro state other after written
    cases written
    exact holds
  have members : HaveOpaqueParts .inline .ordinary [flag "Sent", flag "Billed"] :=
    ⟨always (.inr sent), always (.inr billed), trivial⟩
  obtain ⟨whole, places⟩ := Condition.groups_kept .inline .ordinary
  have operator : Relation.IsOperator .equal := Relation.isOperator .equal rfl
  have enclosed := (places (.value (.path "Closed") .equal (some .any)) .any
    [flag "Sent", flag "Billed"] ⟨operator, always closed⟩ members).1 rfl
  have parts : pendingOrders.HasOpaqueParts .inline .ordinary :=
    ⟨members, enclosed, members, trivial⟩
  have written : (pendingOrders.write .inline .ordinary).start () = (.ok pendingText, ()) := rfl
  refine ⟨parts, rfl, written, ?_⟩
  rcases whole _ _ _ _ parts written with ⟨none, -⟩ | ⟨-, found⟩
  · exact absurd none (by decide)
  · exact found

/-- The removal of the accounts whose lock is that they are expired or banned. -/
def accountRemoval : Delete :=
  (Delete.ofTable (.text "Account")).addCondition
    (.columns ⟨[⟨"Locked", .node (.condition (.any [flag "Expired", flag "Banned"]))⟩]⟩)

/-- A disjunction as an operand: its second member is no part of the comparison. -/
def accountText : String :=
  "\"Locked\" = \"Expired\" OR \"Banned\""

/-- The group is the value of the column in the statement; in the text its second
member is an alternative to the whole comparison. -/
theorem accountRemoval_regrouped :
    (Node.delete accountRemoval).toText = .ok ("DELETE FROM \"Account\" WHERE " ++ accountText) ∧
      readText accountText =
        some (.disjunction
          (.atom [.name "Locked".toList, .operator ['='], .name "Expired".toList])
          (.atom [.name "Banned".toList])) ∧
      ∀ formula, ¬ HoldsGroup accountText formula := by
  have broken : Breaks .initial accountText :=
    ⟨[.name "Locked".toList, .operator ['='], .name "Expired".toList, .word "OR".toList,
        .name "Banned".toList], _, rfl, .of_all rfl, rfl⟩
  exact ⟨rfl, rfl, fun formula holds => broken.not_isTerm holds.isTerm⟩

end SqlTree
