/-
This file builds conditions from conditions and from clauses, the short forms
in which conditions are given. Groups take in the members of groups of their
own kind and of groups that have at most one member, and a negation undoes
another.

The short form is a tree of lists and maps over conditions and nodes. A list holds
together by the connective that it stands under, so the same list can mean all or
one of its members; a map always means all of its columns. Taking in a group of
one member does not look at what the member is, so a group of the same kind can be
left inside of another.
-/

import SqlTree.Tree.Basic

namespace SqlTree

/-- How the members of a group hold together. -/
inductive Connective where
  | all
  | any
  deriving DecidableEq

namespace Condition

/-! ### Groups and negations -/

/-- The group of a connective as it stands. -/
def group : Connective → List Condition → Condition
  | .all, members => .all members
  | .any, members => .any members

/-- What a condition brings into a group: the members of a group of the same
kind or of at most one member, and otherwise itself. -/
def membersFor : Connective → Condition → List Condition
  | .all, .all members => members
  | .all, .any [] => []
  | .all, .any [member] => [member]
  | .any, .any members => members
  | .any, .all [] => []
  | .any, .all [member] => [member]
  | _, other => [other]

/-- The group of conditions with the groups among them taken in. -/
def combined (connective : Connective) (conditions : List Condition) : Condition :=
  group connective (conditions.flatMap (membersFor connective))

/-- All of the conditions hold. -/
def conjunction (conditions : List Condition) : Condition :=
  combined .all conditions

/-- One of the conditions holds. -/
def disjunction (conditions : List Condition) : Condition :=
  combined .any conditions

/-- The negation of a condition; that of a negation is what it negates. -/
def negated : Condition → Condition
  | .negation inner => inner
  | other => .negation other

end Condition

/-! ### Clauses -/

/-- A condition in short form. -/
inductive Clause where
  | nothing
  | node (node : Node)
  | test (column : Operand) (comparison : Comparison)
  | list (clauses : List Clause)
  | columns (columns : ColumnMap)

/-- The condition of one column of a map: a comparison applies to the column,
null tests it for null, and anything else is compared for equality, resolved
where it is rendered. -/
def Field.condition (field : Field) : Condition :=
  let column := Operand.text field.column
  match field.operand with
  | .node (.comparison comparison) => .test column comparison
  | operand =>
    if operand.isNull then .test column (.nullity false)
    else .test column (.relation .equal (.node (.unresolved operand)) none)

namespace Clause

mutual

/-- The condition of a clause. Lists hold together by the connective, the
columns of a map always hold all together. -/
def condition (connective : Connective) : Clause → Condition
  | .nothing => .nothing
  | .node (.condition condition) => condition
  | .node other => .plain other
  | .test column comparison => .test column comparison
  | .list clauses => .combined connective (conditions connective clauses)
  | .columns map => .conjunction (map.fields.map Field.condition)

/-- The conditions of the clauses, one for each. -/
def conditions (connective : Connective) : List Clause → List Condition
  | [] => []
  | clause :: rest => condition connective clause :: conditions connective rest

end

/-- All of the clauses hold. -/
def conjunction (clauses : List Clause) : Condition :=
  .conjunction (conditions .all clauses)

/-- One of the clauses holds, or one of a list among them. -/
def disjunction (clauses : List Clause) : Condition :=
  .disjunction (conditions .any clauses)

/-- Not all of the clauses hold. -/
def negation (clauses : List Clause) : Condition :=
  match conditions .all clauses with
  | [only] => only.negated
  | several => (Condition.conjunction several).negated

end Clause

/-- The condition with one more clause, all of which hold. -/
def Condition.and (condition : Condition) (clause : Clause) : Condition :=
  .conjunction [condition, clause.condition .all]

end SqlTree
