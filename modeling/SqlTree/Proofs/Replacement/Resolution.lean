/-
This file resolves the conditions of statements before the statements become
part of a tree. On its own, a statement compares a column with the operand that
it was given, text or not. So it can be made to say so, and a tree with such
statements inside is written in the same way, in a join condition as well: the
texts that a statement compares its columns with are values there too.

This is the replacement that answers what a condition of a join does to the
queries in it: nothing. A query takes its operands for unresolved when it is
built, and settles them when it is written, outside of every join. To settle them
beforehand is a replacement like any other, and so no tree can tell. Only
comparisons by an operator have unresolved operands that a builder put there; a
list or a range is made of values from the start.
-/

import SqlTree.Proofs.Replacement.Writing

namespace SqlTree

/-! ### Conditions -/

mutual

/-- The condition with the operands that its columns are compared with taken for
values, as they are outside of a join condition. -/
def Condition.resolved : Condition → Condition
  | .all members => .all (resolvedMembers members)
  | .any members => .any (resolvedMembers members)
  | .negation inner => .negation inner.resolved
  | .test column (.relation relation (.node (.unresolved operand)) none) =>
    .test column (.relation relation operand none)
  | other => other

/-- The members of a group, each resolved. -/
def resolvedMembers : List Condition → List Condition
  | [] => []
  | member :: rest => member.resolved :: resolvedMembers rest

end

variable {State : Type} {sink : Sink State}

/-- Outside of a join condition an unresolved operand is a value. -/
theorem Operand.writeValue_unresolved (form : ListForm) (operand : Operand) :
    (Operand.node (.unresolved operand)).writeValue sink .ordinary form =
      operand.writeValue sink .ordinary form := by
  rw [Operand.writeValue, if_neg]
  rintro ⟨impossible, _⟩
  cases impossible

theorem Condition.isGroup_resolved (condition : Condition) :
    condition.resolved.isGroup = condition.isGroup := by
  unfold Condition.resolved
  split <;> rfl

mutual

/-- To resolve a condition is to say beforehand what its writing finds out. -/
theorem Condition.write_resolved (condition : Condition) :
    condition.resolved.write sink .ordinary = condition.write sink .ordinary := by
  unfold Condition.resolved
  split
  · next members => rw [Condition.write, Condition.write, writeMembers_resolved members]
  · next members => rw [Condition.write, Condition.write, writeMembers_resolved members]
  · next inner => rw [Condition.write, Condition.write, inner.write_resolved]
  · next column relation operand =>
    have valid (tested : Operand) : (Comparison.relation relation tested none).isValid := rfl
    rw [Condition.write, Condition.write, if_pos (valid _), if_pos (valid _),
      Comparison.write, Comparison.write, operand.writeValue_unresolved]
  · rfl

theorem writeMembers_resolved (members : List Condition) :
    writeMembers sink .ordinary (resolvedMembers members) =
      writeMembers sink .ordinary members := by
  match members with
  | [] => rfl
  | member :: rest =>
    rw [resolvedMembers, writeMembers, writeMembers, member.isGroup_resolved,
      member.write_resolved, writeMembers_resolved rest]

end

/-- Once it is resolved, a column that is compared with a scalar is written
everywhere as it is written outside of a join condition. -/
theorem Field.write_resolved (context : Context) (column : String) (scalar : Value) :
    (Field.mk column (.value scalar)).condition.resolved.write sink context =
      (Field.mk column (.value scalar)).condition.write sink .ordinary := by
  cases scalar <;> rfl

/-! ### Statements -/

/-- The statement with its own conditions resolved; other nodes stay. -/
def Node.resolved : Node → Node
  | .select statement =>
    .select { statement with
      condition := statement.condition.resolved
      groupCondition := statement.groupCondition.resolved }
  | .update statement => .update { statement with condition := statement.condition.resolved }
  | .delete statement => .delete { statement with condition := statement.condition.resolved }
  | other => other

theorem Node.isStatement_resolved (node : Node) : node.resolved.isStatement = node.isStatement := by
  cases node <;> rfl

/-- A statement on its own is written in the same way once its conditions are resolved.
Its joins keep theirs, in which texts are names. -/
theorem Node.write_resolved (node : Node) :
    node.resolved.write sink .ordinary = node.write sink .ordinary := by
  cases node with
  | select statement =>
    obtain ⟨_, _, _, ⟨_, _⟩, condition, _, groupCondition, _, _, _⟩ := statement
    rw [Node.resolved, Node.write, Node.write, Select.write, Select.write,
      condition.write_resolved, groupCondition.write_resolved]
  | update statement =>
    obtain ⟨_, _, _, condition, _⟩ := statement
    rw [Node.resolved, Node.write, Node.write, Update.write, Update.write,
      condition.write_resolved]
  | delete statement =>
    obtain ⟨_, _, condition, _⟩ := statement
    rw [Node.resolved, Node.write, Node.write, Delete.write, Delete.write,
      condition.write_resolved]
  | identifier _ | literal _ | snippet _ | unresolved _ | renamed _ | condition _ | comparison _
  | jsonObject _ | values _ | sources _ | join _ | insert _ => rfl

/-- Statements with their conditions resolved stand in for those without. -/
def Replacement.resolution : Replacement sink where
  standIn := Node.resolved
  isStatement_standIn statement isStatement := by rw [statement.isStatement_resolved, isStatement]
  write_standIn statement _ := statement.write_resolved

/-- A join is written as if the statements inside its condition had their
conditions resolved: only the texts of the join condition itself name columns. -/
theorem Join.write_resolution (context : Context) (kind : JoinKind) (table : Operand)
    (condition : Condition) :
    (Join.mk kind table (condition.replaced (.resolution : Replacement sink))).write sink context =
      (Join.mk kind table condition).write sink context := by
  rw [Join.write, Join.write, condition.write_exchanged]

end SqlTree
