/-
This file proves that conditions add up in the same way however they are handed
over. Clauses may come one at a time, several in a list, in lists of lists, and
with nothing or an empty list between them; other steps may come between them as
well. The statement is the one that takes the other steps first and then every
clause on its own, and its condition binds the values of the clauses in their
order.

The statements with a condition are values of one slot: where the condition is in
the statement, which steps hand over a clause, and how the statement is written
around its condition. Clauses only ever add members to a conjunction, and a list
of clauses adds what its clauses add, so the ways of handing them over are an
induction on how calls divide a run of clauses. The result is proved once for the
slot.
-/

import SqlTree.Proofs.Scalars
import SqlTree.Proofs.Steps.Sources

namespace SqlTree

open Rendering (check ofText clause listClause)

/-! ### What a clause brings -/

namespace Clause

/-- The members that a clause brings into a condition that it is added to. -/
def brought (clause : Clause) : List Condition :=
  Condition.membersFor .all (clause.condition .all)

theorem conditions_eq_map (connective : Connective) (clauses : List Clause) :
    conditions connective clauses = clauses.map (condition connective) := by
  induction clauses with
  | nil => rfl
  | cons clause rest inductionHypothesis => rw [conditions, inductionHypothesis, List.map_cons]

/-- A list brings what its clauses bring, one after another. -/
theorem brought_list (clauses : List Clause) :
    (list clauses).brought = clauses.flatMap brought := by
  show (conditions .all clauses).flatMap (Condition.membersFor .all) = _
  rw [conditions_eq_map, List.flatMap_map]
  rfl

/-- Calls with a clause each hand over a run of clauses: one alone, several in a
list, or none at all. -/
inductive Hands : List Clause → List Clause → Prop
  | done : Hands [] []
  | one (clause : Clause) {calls clauses : List Clause} (others : Hands calls clauses) :
    Hands (clause :: calls) (clause :: clauses)
  | several {inside calls first rest : List Clause} (members : Hands inside first)
    (others : Hands calls rest) : Hands (.list inside :: calls) (first ++ rest)
  | nothing {calls clauses : List Clause} (others : Hands calls clauses) :
    Hands (.nothing :: calls) clauses

/-- Calls bring what the clauses in them bring, however these are divided among
the calls. -/
theorem Hands.flatMap_brought {calls clauses : List Clause} (hands : Hands calls clauses) :
    calls.flatMap brought = clauses.flatMap brought := by
  induction hands with
  | done => rfl
  | one clause _ inductionHypothesis =>
    rw [List.flatMap_cons, List.flatMap_cons, inductionHypothesis]
  | several _ _ membersSame othersSame =>
    rw [List.flatMap_cons, brought_list, membersSame, othersSame, List.flatMap_append]
  | nothing _ inductionHypothesis =>
    rw [List.flatMap_cons, inductionHypothesis]
    rfl

end Clause

/-- A clause adds what it brings to the members of a conjunction. -/
theorem Condition.and_all (members : List Condition) (clause : Clause) :
    (Condition.all members).and clause = .all (members ++ clause.brought) := by
  show Condition.all (members ++ (clause.brought ++ [])) = _
  rw [List.append_nil]

/-- Clauses add what they bring, one after another. -/
theorem Condition.foldl_and_all (members : List Condition) (clauses : List Clause) :
    clauses.foldl Condition.and (.all members) =
      .all (members ++ clauses.flatMap Clause.brought) := by
  induction clauses generalizing members with
  | nil => rw [List.flatMap_nil, List.append_nil]; rfl
  | cons clause rest inductionHypothesis =>
    rw [List.foldl_cons, and_all, inductionHypothesis, List.flatMap_cons, List.append_assoc]

/-! ### What a condition hands over -/

namespace Condition

/-- The scalars of a condition where it is written outside of joins. -/
def scalars (condition : Condition) : List Value :=
  (condition.render .ordinary).scalars

/-- Whether a condition cannot be written outside of joins. -/
def fails (condition : Condition) : Bool :=
  (condition.render .ordinary).fails

theorem scalars_member (member : Condition) :
    (if member.isGroup then (member.render .ordinary).ifPresent Rendering.parenthesized
      else member.render .ordinary).scalars = member.scalars := by
  split
  · exact Rendering.scalars_ifPresent (Rendering.scalars_parenthesized _)
  · rfl

theorem fails_member (member : Condition) :
    (if member.isGroup then (member.render .ordinary).ifPresent Rendering.parenthesized
      else member.render .ordinary).fails = member.fails := by
  split
  · exact Rendering.fails_ifPresent (Rendering.fails_parenthesized _)
  · rfl

theorem flatMap_scalars_renderMembers (members : List Condition) :
    (renderMembers .ordinary members).flatMap Rendering.scalars = members.flatMap scalars := by
  induction members with
  | nil => rfl
  | cons member rest inductionHypothesis =>
    rw [renderMembers, List.flatMap_cons, List.flatMap_cons, inductionHypothesis, scalars_member]

theorem any_fails_renderMembers (members : List Condition) :
    (renderMembers .ordinary members).any Rendering.fails = members.any fails := by
  induction members with
  | nil => rfl
  | cons member rest inductionHypothesis =>
    rw [renderMembers, List.any_cons, List.any_cons, inductionHypothesis, fails_member]

/-- A group fails if one of its members does. -/
theorem fails_group (connective : Connective) (members : List Condition) :
    (group connective members).fails = members.any fails := by
  cases connective <;>
    rw [group, fails, render, Rendering.fails_joinPresent, any_fails_renderMembers]

/-- A group that does not fail has the scalars of its members in their order. -/
theorem scalars_group (connective : Connective) {members : List Condition}
    (sound : members.any fails = false) :
    (group connective members).scalars = members.flatMap scalars := by
  rw [← any_fails_renderMembers] at sound
  cases connective <;>
    rw [group, scalars, render, Rendering.scalars_joinPresent _ sound,
      flatMap_scalars_renderMembers]

/-- What a condition brings into a group hands over what it does itself. -/
theorem handed_membersFor (connective : Connective) (condition : Condition) :
    (membersFor connective condition).any fails = condition.fails ∧
      (condition.fails = false →
        (membersFor connective condition).flatMap scalars = condition.scalars) := by
  have asGroup (kind : Connective) (members : List Condition) :
      members.any fails = (group kind members).fails ∧
        ((group kind members).fails = false →
          members.flatMap scalars = (group kind members).scalars) := by
    have failing := fails_group kind members
    exact ⟨failing.symm, fun sound => (scalars_group kind (failing.symm.trans sound)).symm⟩
  match connective, condition with
  | .all, .all members => exact asGroup .all members
  | .any, .any members => exact asGroup .any members
  | .all, .any [] | .any, .all [] => exact ⟨rfl, fun _ => rfl⟩
  | .all, .any [member] => exact asGroup .any [member]
  | .any, .all [member] => exact asGroup .all [member]
  | .all, .any (_ :: _ :: _) | .any, .all (_ :: _ :: _)
  | .all, .negation _ | .all, .existence _ | .all, .test _ _ | .all, .plain _
  | .any, .negation _ | .any, .existence _ | .any, .test _ _ | .any, .plain _ =>
    exact ⟨Bool.or_false _, fun _ => List.append_nil _⟩

/-- A group of conditions fails if one of them does, and otherwise has their scalars
in their order. -/
theorem handed_combined (connective : Connective) (conditions : List Condition) :
    (combined connective conditions).fails = conditions.any fails ∧
      (conditions.any fails = false →
        (combined connective conditions).scalars = conditions.flatMap scalars) := by
  have members : (conditions.flatMap (membersFor connective)).any fails = conditions.any fails ∧
      (conditions.any fails = false →
        (conditions.flatMap (membersFor connective)).flatMap scalars =
          conditions.flatMap scalars) := by
    induction conditions with
    | nil => exact ⟨rfl, fun _ => rfl⟩
    | cons condition rest inductionHypothesis =>
      obtain ⟨sameFailure, sameScalars⟩ := handed_membersFor connective condition
      obtain ⟨restFailure, restScalars⟩ := inductionHypothesis
      rw [List.flatMap_cons, List.any_append, List.any_cons, sameFailure, restFailure]
      refine ⟨rfl, fun sound => ?_⟩
      obtain ⟨conditionSound, restSound⟩ := Bool.or_eq_false_iff.mp sound
      rw [List.flatMap_append, List.flatMap_cons, sameScalars conditionSound,
        restScalars restSound]
  obtain ⟨sameFailure, sameScalars⟩ := members
  refine ⟨(fails_group connective _).trans sameFailure, fun sound => ?_⟩
  exact (scalars_group connective (sameFailure.trans sound)).trans (sameScalars sound)

/-- Conditions that do not fail have the scalars that they have on their own. -/
theorem flatMap_scalars_eq_ownValues {conditions : List Condition}
    (sound : conditions.any fails = false) :
    conditions.flatMap scalars =
      conditions.flatMap fun condition => (Node.condition condition).ownValues := by
  have own (condition : Condition) (member : condition ∈ conditions) :
      condition.scalars = (Node.condition condition).ownValues := by
    have conditionSound : ((Node.condition condition).render .ordinary).fails = false := by
      rw [Node.render]
      exact Bool.eq_false_iff.mpr (List.any_eq_false.mp sound condition member)
    rw [Node.ownValues_eq conditionSound, Node.render, scalars]
  rw [List.flatMap_def, List.flatMap_def, List.map_congr_left own]

end Condition

/-- The scalars of a clause that is written on its own; none if it fails. -/
def Clause.ownValues (clause : Clause) : List Value :=
  (Node.condition (clause.condition .all)).ownValues

/-- A conjunction of what clauses bring has the scalars of the clauses in their order. -/
theorem Condition.scalars_all_brought {clauses : List Clause}
    (sound : (Condition.all (clauses.flatMap Clause.brought)).fails = false) :
    (Condition.all (clauses.flatMap Clause.brought)).scalars =
      clauses.flatMap Clause.ownValues := by
  have asCombined : Condition.all (clauses.flatMap Clause.brought) =
      combined .all (clauses.map (Clause.condition .all)) :=
    congrArg Condition.all
      (List.flatMap_map (Clause.condition .all) (membersFor .all) clauses).symm
  rw [asCombined] at sound ⊢
  obtain ⟨sameFailure, sameScalars⟩ := handed_combined .all (clauses.map (Clause.condition .all))
  have conditionsSound := sameFailure.symm.trans sound
  rw [sameScalars conditionsSound, flatMap_scalars_eq_ownValues conditionsSound, List.flatMap_map]
  rfl

/-! ### Conditions in a statement -/

/-- A condition of a statement, with the steps that add to it. All other steps
leave it alone and do not look at it, and all that the statement does with it is
to write it. -/
structure ConditionSlot (Statement Step : Type) where
  node : Statement → Node
  take : Statement → Step → Statement
  /-- The clause that a step adds to the condition, if it does. -/
  clause? : Step → Option Clause
  condition : Statement → Condition
  put : Statement → Condition → Statement
  put_condition : ∀ statement, put statement (condition statement) = statement
  condition_put : ∀ statement stored, condition (put statement stored) = stored
  /-- Adds a clause to the condition. -/
  add : Statement → Clause → Statement
  add_eq : ∀ statement clause,
    add statement clause = put statement ((condition statement).and clause)
  put_put : ∀ statement first second, put (put statement first) second = put statement second
  take_of_clause : ∀ {step clause}, clause? step = some clause →
    ∀ statement, take statement step = add statement clause
  take_put_of_none : ∀ {step}, clause? step = none → ∀ statement stored,
    take (put statement stored) step = put (take statement step) stored
  /-- The condition stands behind a keyword, and nothing around it depends on it. -/
  render_put : ∀ statement context, ∃ before keyword after, ∀ stored,
    (node (put statement stored)).render context =
      before ++ (Rendering.clause keyword (stored.render context) ++ after)
  /-- Conditions that are written alike leave the statements with them alike. -/
  write_put : ∀ statement {State : Type} (sink : Sink State) context {stored other},
    stored.write sink context = other.write sink context →
      (node (put statement stored)).write sink context =
        (node (put statement other)).write sink context

namespace ConditionSlot

variable {Statement Step : Type} (slot : ConditionSlot Statement Step)

/-- The steps that leave the condition alone. -/
def others (steps : List Step) : List Step :=
  steps.filter fun step => (slot.clause? step).isNone

/-- The steps hand over the clauses, among other steps. -/
structure HandsOver (steps : List Step) (clauses : List Clause) (others : List Step) : Prop where
  hands : Clause.Hands (steps.filterMap slot.clause?) clauses
  others_eq : slot.others steps = others

theorem add_put (statement : Statement) (stored : Condition) (clause : Clause) :
    slot.add (slot.put statement stored) clause = slot.put statement (stored.and clause) := by
  rw [slot.add_eq, slot.condition_put, slot.put_put]

theorem addAll_put (statement : Statement) (stored : Condition) (clauses : List Clause) :
    clauses.foldl slot.add (slot.put statement stored) =
      slot.put statement (clauses.foldl Condition.and stored) := by
  induction clauses generalizing stored with
  | nil => rfl
  | cons clause rest inductionHypothesis =>
    rw [List.foldl_cons, slot.add_put, inductionHypothesis, List.foldl_cons]

/-- A run of steps adds up its clauses apart from what the other steps do. -/
theorem takeAll_put (statement : Statement) (stored : Condition) (steps : List Step) :
    steps.foldl slot.take (slot.put statement stored) =
      slot.put ((slot.others steps).foldl slot.take statement)
        ((steps.filterMap slot.clause?).foldl Condition.and stored) := by
  induction steps generalizing statement stored with
  | nil => rfl
  | cons step rest inductionHypothesis =>
    rw [List.foldl_cons, others, List.filter_cons, List.filterMap_cons]
    cases asked : slot.clause? step with
    | none =>
      rw [slot.take_put_of_none asked, inductionHypothesis]
      rfl
    | some clause =>
      rw [slot.take_of_clause asked, slot.add_put, inductionHypothesis]
      rfl

theorem others_others (steps : List Step) :
    slot.others (slot.others steps) = slot.others steps := by
  rw [others, others, List.filter_filter]
  simp only [Bool.and_self]

theorem filterMap_others (steps : List Step) : (slot.others steps).filterMap slot.clause? = [] := by
  refine List.filterMap_eq_nil_iff.mpr fun step member => ?_
  exact Option.isNone_iff_eq_none.mp (List.mem_filter.mp member).2

/-- Steps that hand over clauses do what the other steps do, and then add every
clause on its own. -/
theorem takeAll_eq_addAll {start : Statement} (unasked : slot.condition start = .nothing)
    {steps : List Step} {clauses : List Clause} {others : List Step}
    (handed : slot.HandsOver steps clauses others) :
    steps.foldl slot.take start = clauses.foldl slot.add (others.foldl slot.take start) ∧
      slot.condition (steps.foldl slot.take start) = clauses.foldl Condition.and .nothing := by
  obtain ⟨hands, rfl⟩ := handed
  have apart (run : List Step) : run.foldl slot.take start =
      slot.put ((slot.others run).foldl slot.take start)
        ((run.filterMap slot.clause?).foldl Condition.and .nothing) := by
    rw [← takeAll_put, ← unasked, slot.put_condition]
  have kept := apart (slot.others steps)
  rw [others_others, filterMap_others, List.foldl_nil] at kept
  have sameCondition : (steps.filterMap slot.clause?).foldl Condition.and .nothing =
      clauses.foldl Condition.and .nothing := by
    rw [Condition.nothing, Condition.foldl_and_all, Condition.foldl_and_all, hands.flatMap_brought]
  rw [apart steps, sameCondition]
  refine ⟨?_, slot.condition_put _ _⟩
  calc slot.put ((slot.others steps).foldl slot.take start) (clauses.foldl Condition.and .nothing)
      = clauses.foldl slot.add (slot.put ((slot.others steps).foldl slot.take start) .nothing) :=
        (slot.addAll_put _ _ _).symm
    _ = clauses.foldl slot.add ((slot.others steps).foldl slot.take start) :=
        congrArg (clauses.foldl slot.add) kept.symm

/-- A statement does not succeed without its condition, and has the scalars of the
condition one after another. -/
theorem contains_condition (statement : Statement) :
    ((slot.node statement).render .ordinary).Contains
      ((slot.condition statement).render .ordinary) := by
  obtain ⟨before, keyword, after, surrounded⟩ := slot.render_put statement .ordinary
  have rendered := surrounded (slot.condition statement)
  rw [slot.put_condition] at rendered
  rw [rendered]
  exact ((Rendering.contains_clause keyword _).left after).right before

/-- Whichever steps hand over clauses to a statement, it is the one that takes the
other steps and then every clause on its own. Its condition is built from the
clauses alone. Where the condition is prepared its values are those of the clauses
in their order, and where the statement is, these are among its values, one after
another. -/
def Gathers (start : Statement) : Prop :=
  ∀ {steps : List Step} {clauses : List Clause} {others : List Step},
    slot.HandsOver steps clauses others →
      let built := steps.foldl slot.take start
      built = clauses.foldl slot.add (others.foldl slot.take start) ∧
        slot.condition built = clauses.foldl Condition.and .nothing ∧
        (∀ prepared, (Node.condition (slot.condition built)).prepare = .ok prepared →
          prepared.values = clauses.flatMap Clause.ownValues) ∧
        ∀ prepared, (slot.node built).prepare = .ok prepared →
          clauses.flatMap Clause.ownValues <:+: prepared.values

/-- A statement that starts with no condition gathers what it is handed. -/
theorem gathers {start : Statement} (unasked : slot.condition start = .nothing) :
    slot.Gathers start := by
  intro steps clauses others handed built
  obtain ⟨sameStatement, sameCondition⟩ := slot.takeAll_eq_addAll unasked handed
  have scalars (sound : (slot.condition built).fails = false) :
      (slot.condition built).scalars = clauses.flatMap Clause.ownValues := by
    rw [sameCondition, Condition.nothing, Condition.foldl_and_all, List.nil_append] at sound ⊢
    exact Condition.scalars_all_brought sound
  refine ⟨sameStatement, sameCondition, fun prepared succeeded => ?_, fun prepared succeeded => ?_⟩
  · obtain ⟨sound, valued⟩ := Node.scalars_of_prepare succeeded
    rw [Node.render] at sound valued
    exact valued.trans (scalars sound)
  · obtain ⟨sound, valued⟩ := Node.scalars_of_prepare succeeded
    obtain ⟨conditionSound, inside⟩ := slot.contains_condition built sound
    rw [valued, ← scalars conditionSound]
    exact inside

end ConditionSlot

/-! ### The conditions of each statement -/

namespace Select

/-- The condition on the rows of a query. -/
def conditionSlot : ConditionSlot Select SelectStep where
  node := .select
  take := take
  clause?
    | .condition clause => some clause
    | _ => none
  condition := condition
  put query stored := { query with condition := stored }
  put_condition query := by cases query; rfl
  condition_put _ _ := rfl
  put_put _ _ _ := rfl
  add := addCondition
  add_eq _ _ := rfl
  take_of_clause {step clause} asked query := by
    cases step with
    | condition given => cases asked; rfl
    | columns _ | distinct _ | target _ | sources _ | groupCondition _ | grouping _
    | ordering _ _ | limit _ | offset _ | page _ _ => cases asked
  take_put_of_none {step} asked query stored := by
    match step with
    | .condition given => cases asked
    | .sources (.source _) | .sources (.join _) | .columns _ | .distinct _ | .target _
    | .groupCondition _ | .grouping _ | .ordering _ _ | .limit _ | .offset _ | .page _ _ => rfl
  render_put query context := by
    obtain ⟨columns, distinct, target, ⟨sources, misuse⟩, _, grouping, groupCondition, ordering,
      limit, offset⟩ := query
    refine ⟨check misuse ++ ofText "SELECT " ++ renderDistinct context distinct
        ++ renderColumns context columns ++ renderTarget context target
        ++ listClause " FROM " (renderSources context sources), " WHERE ",
      listClause " GROUP BY " (renderNames context grouping)
        ++ clause " HAVING " (groupCondition.render context)
        ++ listClause " ORDER BY " (renderOrderKeys context ordering)
        ++ renderCount " LIMIT " limit ++ renderCount " OFFSET " offset, fun stored => ?_⟩
    simp only [Node.render, Select.render, Rendering.append_assoc]
  write_put query {State} sink context {stored other} same := by
    obtain ⟨columns, distinct, target, ⟨sources, misuse⟩, _, grouping, _, ordering, limit,
      offset⟩ := query
    rw [Node.write, Node.write, Select.write, Select.write, same]

/-- The condition on the groups of a query. -/
def groupConditionSlot : ConditionSlot Select SelectStep where
  node := .select
  take := take
  clause?
    | .groupCondition clause => some clause
    | _ => none
  condition := groupCondition
  put query stored := { query with groupCondition := stored }
  put_condition query := by cases query; rfl
  condition_put _ _ := rfl
  put_put _ _ _ := rfl
  add := addGroupCondition
  add_eq _ _ := rfl
  take_of_clause {step clause} asked query := by
    cases step with
    | groupCondition given => cases asked; rfl
    | columns _ | distinct _ | target _ | sources _ | condition _ | grouping _
    | ordering _ _ | limit _ | offset _ | page _ _ => cases asked
  take_put_of_none {step} asked query stored := by
    match step with
    | .groupCondition given => cases asked
    | .sources (.source _) | .sources (.join _) | .columns _ | .distinct _ | .target _
    | .condition _ | .grouping _ | .ordering _ _ | .limit _ | .offset _ | .page _ _ => rfl
  render_put query context := by
    obtain ⟨columns, distinct, target, ⟨sources, misuse⟩, condition, grouping, _, ordering,
      limit, offset⟩ := query
    refine ⟨check misuse ++ ofText "SELECT " ++ renderDistinct context distinct
        ++ renderColumns context columns ++ renderTarget context target
        ++ listClause " FROM " (renderSources context sources)
        ++ clause " WHERE " (condition.render context)
        ++ listClause " GROUP BY " (renderNames context grouping), " HAVING ",
      listClause " ORDER BY " (renderOrderKeys context ordering)
        ++ renderCount " LIMIT " limit ++ renderCount " OFFSET " offset, fun stored => ?_⟩
    simp only [Node.render, Select.render, Rendering.append_assoc]
  write_put query {State} sink context {stored other} same := by
    obtain ⟨columns, distinct, target, ⟨sources, misuse⟩, _, grouping, _, ordering, limit,
      offset⟩ := query
    rw [Node.write, Node.write, Select.write, Select.write, same]

end Select

/-- A step in which an update is built. -/
inductive UpdateStep where
  | assign (column : String) (operand : Operand)
  | assignAll (assignments : ColumnMap)
  | source (table : Operand)
  | condition (clause : Clause)
  | returning (columns : List Operand)

namespace Update

/-- Takes one step. -/
def take (statement : Update) : UpdateStep → Update
  | .assign column operand => statement.assign column operand
  | .assignAll assignments => statement.assignAll assignments
  | .source table => statement.addSource table
  | .condition clause => statement.addCondition clause
  | .returning columns => statement.addReturning columns

/-- Builds an update of a table. -/
def built (table : Operand) (steps : List UpdateStep) : Update :=
  steps.foldl take (ofTable table)

/-- The condition of an update. -/
def conditionSlot : ConditionSlot Update UpdateStep where
  node := .update
  take := take
  clause?
    | .condition clause => some clause
    | _ => none
  condition := condition
  put statement stored := { statement with condition := stored }
  put_condition statement := by cases statement; rfl
  condition_put _ _ := rfl
  put_put _ _ _ := rfl
  add := addCondition
  add_eq _ _ := rfl
  take_of_clause {step clause} asked statement := by
    cases step with
    | condition given => cases asked; rfl
    | assign _ _ | assignAll _ | source _ | returning _ => cases asked
  take_put_of_none {step} asked statement stored := by
    cases step with
    | condition given => cases asked
    | assign _ _ | assignAll _ | source _ | returning _ => rfl
  render_put statement context := by
    obtain ⟨table, assignments, sources, _, returning⟩ := statement
    cases cells : assignments.cells context with
    | nil =>
      refine ⟨.fail .updateWithoutAssignments, " WHERE ", .empty, fun stored => ?_⟩
      rw [Node.render, Update.render, cells]
      rfl
    | cons first rest =>
      refine ⟨ofText "UPDATE " ++ table.renderName context
          ++ ofText " SET " ++ Rendering.commaSeparated ((first :: rest).map renderAssignment)
          ++ listClause " FROM " (renderNames context sources), " WHERE ",
        listClause " RETURNING " (renderNames context returning), fun stored => ?_⟩
      simp only [Node.render, Update.render, cells, Rendering.append_assoc]
  write_put statement {State} sink context {stored other} same := by
    obtain ⟨table, assignments, sources, _, returning⟩ := statement
    rw [Node.write, Node.write, Update.write, Update.write, same]

end Update

/-- A step in which a deletion is built. -/
inductive DeleteStep where
  | source (table : Operand)
  | condition (clause : Clause)
  | returning (columns : List Operand)

namespace Delete

/-- Takes one step. -/
def take (statement : Delete) : DeleteStep → Delete
  | .source table => statement.addSource table
  | .condition clause => statement.addCondition clause
  | .returning columns => statement.addReturning columns

/-- Builds a deletion from a table. -/
def built (table : Operand) (steps : List DeleteStep) : Delete :=
  steps.foldl take (ofTable table)

/-- The condition of a deletion. -/
def conditionSlot : ConditionSlot Delete DeleteStep where
  node := .delete
  take := take
  clause?
    | .condition clause => some clause
    | _ => none
  condition := condition
  put statement stored := { statement with condition := stored }
  put_condition statement := by cases statement; rfl
  condition_put _ _ := rfl
  put_put _ _ _ := rfl
  add := addCondition
  add_eq _ _ := rfl
  take_of_clause {step clause} asked statement := by
    cases step with
    | condition given => cases asked; rfl
    | source _ | returning _ => cases asked
  take_put_of_none {step} asked statement stored := by
    cases step with
    | condition given => cases asked
    | source _ | returning _ => rfl
  render_put statement context := by
    obtain ⟨table, sources, _, returning⟩ := statement
    refine ⟨ofText "DELETE FROM " ++ table.renderName context
        ++ listClause " USING " (renderNames context sources), " WHERE ",
      listClause " RETURNING " (renderNames context returning), fun stored => ?_⟩
    simp only [Node.render, Delete.render, Rendering.append_assoc]
  write_put statement {State} sink context {stored other} same := by
    obtain ⟨table, sources, _, returning⟩ := statement
    rw [Node.write, Node.write, Delete.write, Delete.write, same]

end Delete

/-! ### Clauses in any batches -/

/-- However clauses are handed over to a query for its rows or for its groups, to an
update or to a deletion, alone, in lists of any depth, or with empty ones between
them, and whatever other steps come between, the statement is the same, and it has
the values of the clauses in their order. -/
theorem conditions_gathered :
    Select.conditionSlot.Gathers .empty ∧
      Select.groupConditionSlot.Gathers .empty ∧
      (∀ table, Update.conditionSlot.Gathers (.ofTable table)) ∧
      ∀ table, Delete.conditionSlot.Gathers (.ofTable table) :=
  ⟨Select.conditionSlot.gathers rfl, Select.groupConditionSlot.gathers rfl,
    fun _ => Update.conditionSlot.gathers rfl, fun _ => Delete.conditionSlot.gathers rfl⟩

/-- Three clauses for the rows of a query. -/
def grownTownspeople : List Clause :=
  [.test (.text "Age") (.relation .greaterOrEqual (.value (.integer 18)) none),
    .columns ⟨[⟨"Town", .text "Oslo"⟩]⟩,
    .test (.text "Name") (.like (.text "A%") false)]

/-- The first two clauses in a list within a list, with an empty clause between
them, and the third after an empty list. -/
def townspeopleInBatches : List SelectStep :=
  [.condition (.list [.list (grownTownspeople.take 1), .nothing,
      .list ((grownTownspeople.drop 1).take 1)]),
    .sources (.source (.text "Person")),
    .condition (.list []),
    .grouping [.text "Town"],
    .condition (.list (grownTownspeople.drop 2))]

theorem townspeopleInBatches_gathered :
    Select.conditionSlot.HandsOver townspeopleInBatches grownTownspeople
        [.sources (.source (.text "Person")), .grouping [.text "Town"]] ∧
      Select.built townspeopleInBatches =
        grownTownspeople.foldl Select.addCondition
          (.built [.sources (.source (.text "Person")), .grouping [.text "Town"]]) ∧
      (Node.select (.built townspeopleInBatches)).prepare =
        .ok ⟨"SELECT * FROM \"Person\" WHERE \"Age\" >= $1 AND \"Town\" = $2 AND \"Name\" LIKE $3"
          ++ " GROUP BY \"Town\"", [.integer 18, .text "Oslo", .text "A%"]⟩ ∧
      grownTownspeople.flatMap Clause.ownValues <:+: [.integer 18, .text "Oslo", .text "A%"] :=
  have handed : Select.conditionSlot.HandsOver townspeopleInBatches grownTownspeople
      [.sources (.source (.text "Person")), .grouping [.text "Town"]] :=
    ⟨.several (.several (.one _ .done) (.nothing (.several (.one _ .done) .done)))
      (.several .done (.several (.one _ .done) .done)), rfl⟩
  have gathered := conditions_gathered.1 handed
  ⟨handed, gathered.1, rfl, gathered.2.2.2 _ rfl⟩

end SqlTree
