/-
This file proves that a condition keeps its meaning while it is put together.
Groups that take in other groups, negations that undo each other and clauses
that are written out never change what is asked for: a clause, however its lists
are nested, becomes a condition with the truth that the clause itself has, and
it asks for nothing exactly where the clause does.

The truth of a clause is defined on the clause as it was written, with no
condition in between: a list of clauses is gathered under its connective, a map of
columns stands for the conjunction of its fields, and a field is the truth of its
test. The comparison with the condition built goes by the constructors: how a
group takes in members of its own kind is settled once, for all lists of
conditions, and every clause inherits it.
-/

import SqlTree.Proofs.Meaning

namespace SqlTree

/-! ### Truths combined -/

theorem Truth.negate_negate (truth : Truth) : truth.negate.negate = truth := by
  cases truth <;> rfl

namespace Connective

variable (connective : Connective)

/-- Truths may be combined in any grouping, which is why the parentheses that a
flattened group loses do not matter. -/
theorem combine_assoc (first second third : Truth) :
    connective.combine (connective.combine first second) third =
      connective.combine first (connective.combine second third) := by
  cases connective <;> cases first <;> cases second <;> cases third <;> rfl

theorem combine_unit (truth : Truth) : connective.combine truth connective.unit = truth := by
  cases connective with
  | all => exact Truth.meet_yes truth
  | any => exact Truth.join_no truth

theorem unit_combine (truth : Truth) : connective.combine connective.unit truth = truth := by
  cases connective <;> rfl

/-- What two lists give one after the other is the combination of what each gives. -/
theorem foldr_combine_append (first second : List Truth) :
    (first ++ second).foldr connective.combine connective.unit =
      connective.combine (first.foldr connective.combine connective.unit)
        (second.foldr connective.combine connective.unit) := by
  induction first with
  | nil => exact (connective.unit_combine _).symm
  | cons truth rest inductionHypothesis =>
    rw [List.cons_append, List.foldr_cons, List.foldr_cons, inductionHypothesis, combine_assoc]

/-- Two runs of truths are gathered apart and then combined, where nothing
gathered leaves the other as it is. -/
theorem gather_append (first second : List Truth) :
    connective.gather (first ++ second) =
      (connective.gather first).merge connective.combine (connective.gather second) := by
  cases first with
  | nil => cases second <;> rfl
  | cons truth rest =>
    cases second with
    | nil =>
      rw [List.append_nil]
      rfl
    | cons other others => exact congrArg some (connective.foldr_combine_append _ _)

/-- One truth gathered is that truth. -/
theorem gather_toList (truth : Option Truth) : connective.gather truth.toList = truth := by
  cases truth with
  | none => rfl
  | some truth => exact congrArg some (connective.combine_unit truth)

end Connective

/-! ### Truth under an assignment -/

namespace Condition

mutual

/-- The truth of a condition whose leaves have the given truths, or none if it
asks for nothing. A leaf may ask for nothing as well. -/
def truth? (leaves : Condition → Option Truth) : Condition → Option Truth
  | .all members => Connective.all.gather (truths leaves members)
  | .any members => Connective.any.gather (truths leaves members)
  | .negation inner => (inner.truth? leaves).map .negate
  | .test column comparison =>
    if comparison.isValid then leaves (.test column comparison) else none
  | .existence query => leaves (.existence query)
  | .plain node => leaves (.plain node)

/-- The truths of the members that ask for something. -/
def truths (leaves : Condition → Option Truth) : List Condition → List Truth
  | [] => []
  | member :: rest => (member.truth? leaves).toList ++ truths leaves rest

end

/-- Leaves that are all true, false or unknown, save nodes without text. -/
def opaqueLeaves (context : Context) (truth : Condition → Truth) (leaf : Condition) :
    Option Truth :=
  match leaf with
  | .plain node => if (node.render context).isBlank then none else some (truth leaf)
  | _ => some (truth leaf)

mutual

/-- The meaning that the text of a condition has is its truth when nodes without
text ask for nothing. -/
theorem meaning_eq_truth? (context : Context) (truth : Condition → Truth)
    (condition : Condition) :
    condition.meaning context truth = condition.truth? (opaqueLeaves context truth) := by
  match condition with
  | .all members | .any members =>
    rw [meaning, truth?, meanings_eq_truths context truth members]
  | .negation inner => rw [meaning, truth?, meaning_eq_truth? context truth inner]
  | .existence _ | .test _ _ | .plain _ => rfl

theorem meanings_eq_truths (context : Context) (truth : Condition → Truth)
    (members : List Condition) :
    meanings context truth members = truths (opaqueLeaves context truth) members := by
  match members with
  | [] => rfl
  | member :: rest =>
    rw [meanings, truths, meaning_eq_truth? context truth member,
      meanings_eq_truths context truth rest]

end

variable (leaves : Condition → Option Truth)

theorem truth?_group (connective : Connective) (members : List Condition) :
    (group connective members).truth? leaves = connective.gather (truths leaves members) := by
  cases connective <;> rfl

theorem truths_append (first second : List Condition) :
    truths leaves (first ++ second) = truths leaves first ++ truths leaves second := by
  induction first with
  | nil => rfl
  | cons member rest inductionHypothesis =>
    rw [List.cons_append, truths, truths, inductionHypothesis, List.append_assoc]

/-- The first member of a group is combined with the others, or passed over if it asks
for nothing. -/
theorem gather_truths_cons (connective : Connective) (member : Condition)
    (rest : List Condition) :
    connective.gather (truths leaves (member :: rest)) =
      (member.truth? leaves).merge connective.combine (connective.gather (truths leaves rest)) := by
  rw [truths, connective.gather_append, connective.gather_toList]

theorem gather_truths_singleton (connective : Connective) (member : Condition) :
    connective.gather (truths leaves [member]) = member.truth? leaves := by
  rw [truths, truths, List.append_nil, connective.gather_toList]

/-! ### Groups and negations -/

/-- What a condition brings into a group has the truth of the condition there. -/
theorem gather_truths_membersFor (connective : Connective) (condition : Condition) :
    connective.gather (truths leaves (membersFor connective condition)) =
      condition.truth? leaves := by
  match connective, condition with
  | .all, .all members => rfl
  | .any, .any members => rfl
  -- The connective of a group matters only to two members or more.
  | .all, .any [] | .any, .all [] => rfl
  | .all, .any [member] =>
    rw [membersFor, truth?, gather_truths_singleton, gather_truths_singleton]
  | .any, .all [member] =>
    rw [membersFor, truth?, gather_truths_singleton, gather_truths_singleton]
  | .all, .any (_ :: _ :: _) | .any, .all (_ :: _ :: _) =>
    exact gather_truths_singleton leaves _ _
  | .all, .negation _ | .all, .existence _ | .all, .test _ _ | .all, .plain _ =>
    exact gather_truths_singleton leaves _ _
  | .any, .negation _ | .any, .existence _ | .any, .test _ _ | .any, .plain _ =>
    exact gather_truths_singleton leaves _ _

/-- Members that a group takes in from groups of its own kind give what the
groups gave. -/
theorem gather_truths_flatMap (connective : Connective) (conditions : List Condition) :
    connective.gather (truths leaves (conditions.flatMap (membersFor connective))) =
      connective.gather (truths leaves conditions) := by
  induction conditions with
  | nil => rfl
  | cons condition rest inductionHypothesis =>
    rw [List.flatMap_cons, truths_append, connective.gather_append, gather_truths_membersFor,
      inductionHypothesis, gather_truths_cons]

/-- Putting conditions together gives the truth of the plain group of them, however many
of them are taken in, dropped or replaced by their one member. -/
theorem truth?_combined (connective : Connective) (conditions : List Condition) :
    (combined connective conditions).truth? leaves =
      (group connective conditions).truth? leaves := by
  rw [combined, truth?_group, truth?_group, gather_truths_flatMap]

/-- The negation of a condition has the negated truth, also where the two negations undo
each other. -/
theorem truth?_negated (condition : Condition) :
    condition.negated.truth? leaves = (condition.truth? leaves).map .negate := by
  match condition with
  | .negation inner =>
    rw [negated, truth?, Option.map_map]
    cases inner.truth? leaves with
    | none => rfl
    | some truth => exact congrArg some truth.negate_negate.symm
  | .all _ | .any _ | .existence _ | .test _ _ | .plain _ => rfl

end Condition

/-! ### Clauses -/

variable (leaves : Condition → Option Truth)

/-- What a column of a map is asked for: what its comparison says, to be null if
its operand is null, and otherwise to equal the operand. -/
def Field.comparison (field : Field) : Comparison :=
  match field.operand with
  | .node (.comparison comparison) => comparison
  | operand =>
    if operand.isNull then .nullity false
    else .relation .equal (.node (.unresolved operand)) none

/-- The truth of one field of a map: that of the comparison of its column. -/
def Field.truth? (field : Field) : Option Truth :=
  (Condition.test (.text field.column) field.comparison).truth? leaves

namespace Clause

mutual

/-- The truth of a clause, or none if it asks for nothing. The members of a list
are gathered by the connective, the columns of a map always have to hold together. -/
def truth? (connective : Connective) : Clause → Option Truth
  | .nothing => none
  | .node (.condition condition) => condition.truth? leaves
  | .node other => leaves (.plain other)
  | .test column comparison =>
    if comparison.isValid then leaves (.test column comparison) else none
  | .list clauses => connective.gather (truths connective clauses)
  | .columns map => Connective.all.gather (map.fields.filterMap (Field.truth? leaves))

/-- The truths of the clauses that ask for something. -/
def truths (connective : Connective) : List Clause → List Truth
  | [] => []
  | clause :: rest => (truth? connective clause).toList ++ truths connective rest

end

end Clause

theorem Field.condition_eq (field : Field) :
    field.condition = .test (.text field.column) field.comparison := by
  obtain ⟨column, operand⟩ := field
  match operand with
  | .value _ | .node (.literal _) => exact (apply_ite (Condition.test (.text column)) _ _ _).symm
  | .list _ => rfl
  | .node (.comparison _) => rfl
  | .node (.identifier _) | .node (.snippet _) | .node (.unresolved _) | .node (.renamed _)
  | .node (.condition _) | .node (.jsonObject _) | .node (.values _) | .node (.sources _)
  | .node (.join _) | .node (.select _) | .node (.insert _) | .node (.update _)
  | .node (.delete _) => rfl

theorem Field.truths_conditions (fields : List Field) :
    Condition.truths leaves (fields.map Field.condition) =
      fields.filterMap (Field.truth? leaves) := by
  induction fields with
  | nil => rfl
  | cons field rest inductionHypothesis =>
    rw [List.map_cons, Condition.truths, inductionHypothesis, field.condition_eq]
    show (field.truth? leaves).toList ++ _ = _
    cases asked : field.truth? leaves with
    | none => rw [List.filterMap_cons_none asked, Option.toList_none, List.nil_append]
    | some truth => rw [List.filterMap_cons_some asked, Option.toList_some, List.singleton_append]

namespace Clause

variable (connective : Connective)

mutual

/-- A clause and the condition it becomes have one truth, or neither asks
for anything. -/
theorem truth?_condition (clause : Clause) :
    (condition connective clause).truth? leaves = truth? leaves connective clause := by
  match clause with
  | .nothing => rfl
  | .node inner => cases inner <;> rfl
  | .test column comparison => rfl
  | .list clauses =>
    rw [condition, truth?, Condition.truth?_combined, Condition.truth?_group,
      truths_conditions clauses]
  | .columns map =>
    rw [condition, truth?, Condition.conjunction, Condition.truth?_combined,
      Condition.truth?_group, Field.truths_conditions]

theorem truths_conditions (clauses : List Clause) :
    Condition.truths leaves (conditions connective clauses) = truths leaves connective clauses := by
  match clauses with
  | [] => rfl
  | clause :: rest =>
    rw [conditions, Condition.truths, truths, truth?_condition clause, truths_conditions rest]

end

/-- The conjunction of clauses has the truth of the clauses gathered by *and*. -/
theorem truth?_conjunction (clauses : List Clause) :
    (conjunction clauses).truth? leaves = Connective.all.gather (truths leaves .all clauses) := by
  rw [conjunction, Condition.conjunction, Condition.truth?_combined, Condition.truth?_group,
    truths_conditions]

theorem truth?_disjunction (clauses : List Clause) :
    (disjunction clauses).truth? leaves = Connective.any.gather (truths leaves .any clauses) := by
  rw [disjunction, Condition.disjunction, Condition.truth?_combined, Condition.truth?_group,
    truths_conditions]

theorem truth?_negation (clauses : List Clause) :
    (negation clauses).truth? leaves =
      (Connective.all.gather (truths leaves .all clauses)).map .negate := by
  rw [← truths_conditions, negation]
  split
  · next only single => rw [single, Condition.truth?_negated, Condition.gather_truths_singleton]
  · next several _ =>
    rw [Condition.truth?_negated, Condition.conjunction, Condition.truth?_combined,
      Condition.truth?_group]

/-- The text of a clause that is written out means what the clause means. -/
theorem meaning_condition (context : Context) (truth : Condition → Truth) (clause : Clause) :
    (condition connective clause).meaning context truth =
      clause.truth? (Condition.opaqueLeaves context truth) connective := by
  rw [Condition.meaning_eq_truth?, truth?_condition]

/-- Writing clauses out keeps their truth, whatever the truths of the leaves are.
So do the steps on the way: groups that take in the members of others, and
negations that undo each other. -/
theorem truth_preserved :
    (∀ connective clause,
      (condition connective clause).truth? leaves = clause.truth? leaves connective) ∧
    (∀ clauses,
      (conjunction clauses).truth? leaves = Connective.all.gather (truths leaves .all clauses) ∧
      (disjunction clauses).truth? leaves = Connective.any.gather (truths leaves .any clauses) ∧
      (negation clauses).truth? leaves =
        (Connective.all.gather (truths leaves .all clauses)).map .negate) ∧
    (∀ connective conditions, (Condition.combined connective conditions).truth? leaves =
      (Condition.group connective conditions).truth? leaves) ∧
    ∀ condition : Condition,
      condition.negated.truth? leaves = (condition.truth? leaves).map .negate := by
  refine ⟨truth?_condition leaves, fun clauses => ?_, Condition.truth?_combined leaves,
    Condition.truth?_negated leaves⟩
  exact ⟨truth?_conjunction leaves clauses, truth?_disjunction leaves clauses,
    truth?_negation leaves clauses⟩

end Clause

end SqlTree
