/-
This file replaces the statements inside a tree by others that are written in
the same way on their own. A statement that is a condition as it stands, with no
parentheses around it, is part of the statement around it and stays where it is;
the statements inside it are replaced.

A replacement is a function on statements with a promise: what it puts in the
place of a statement is a statement, and is written like the first one by itself.
The promise says nothing of contexts, because nothing around a statement can
change how it is written; that this is enough for the whole tree is what the next
file proves. The function below goes through a tree and uses the replacement at
each statement that is written in parentheses or as the body of an insertion, the
innermost first.
-/

import SqlTree.Tree.Write

namespace SqlTree

variable {State : Type} {sink : Sink State}

/-- Statements that stand in for others and are written into a sink in the same
way where they stand on their own. -/
structure Replacement (sink : Sink State) where
  /-- What stands in for a statement. -/
  standIn : Node → Node
  isStatement_standIn : ∀ statement, statement.isStatement → (standIn statement).isStatement
  write_standIn : ∀ statement, statement.isStatement →
    (standIn statement).write sink .ordinary = statement.write sink .ordinary

/-- The statement that stands in for the node if the node is a statement. -/
def Replacement.exchange (replacement : Replacement sink) (node : Node) : Node :=
  if node.isStatement then replacement.standIn node else node

variable (replacement : Replacement sink)

mutual

/-- The operand with its statements replaced, the innermost first. -/
def Operand.replaced : Operand → Operand
  | .value scalar => .value scalar
  | .list items => .list (replacedOperands items)
  | .node inner => .node (replacement.exchange inner.replaced)

/-- Operands of a list, in either place. -/
def replacedOperands : List Operand → List Operand
  | [] => []
  | operand :: rest => operand.replaced :: replacedOperands rest

/-- The node with the statements inside it replaced; it stays what it is. -/
def Node.replaced : Node → Node
  | .identifier identifier => .identifier identifier
  | .literal literal => .literal literal
  | .snippet snippet => .snippet snippet.replaced
  | .unresolved operand => .unresolved operand.replaced
  | .renamed item => .renamed item.replaced
  | .condition condition => .condition condition.replaced
  | .comparison comparison => .comparison comparison.replaced
  | .jsonObject object => .jsonObject object.replaced
  | .values list => .values list.replaced
  | .sources list => .sources list.replaced
  | .join join => .join join.replaced
  | .select statement => .select statement.replaced
  | .insert statement => .insert statement.replaced
  | .update statement => .update statement.replaced
  | .delete statement => .delete statement.replaced

/-- A snippet keeps its text. -/
def Snippet.replaced : Snippet → Snippet
  | ⟨head, slots, misuse⟩ => ⟨head, replacedSlots slots, misuse⟩

/-- The operands between stretches of text. -/
def replacedSlots : List Slot → List Slot
  | [] => []
  | ⟨operand, after⟩ :: rest => ⟨operand.replaced, after⟩ :: replacedSlots rest

/-- A query under a new name is put in parentheses, so it is exchanged. -/
def Renaming.replaced : Renaming → Renaming
  | ⟨target, name⟩ => ⟨target.replaced, name⟩

/-- A condition. The query that is asked for a row is exchanged; a node that is a
condition as it stands is not, only what is inside it. -/
def Condition.replaced : Condition → Condition
  | .all members => .all (replacedMembers members)
  | .any members => .any (replacedMembers members)
  | .negation inner => .negation inner.replaced
  | .existence query => .existence (replacement.exchange query.replaced)
  | .test column comparison => .test column.replaced comparison.replaced
  | .plain inner => .plain inner.replaced

/-- The members of a group. -/
def replacedMembers : List Condition → List Condition
  | [] => []
  | member :: rest => member.replaced :: replacedMembers rest

/-- The operands of a comparison. -/
def Comparison.replaced : Comparison → Comparison
  | .relation relation operand quantifier => .relation relation operand.replaced quantifier
  | .nullity negated => .nullity negated
  | .like pattern insensitive => .like pattern.replaced insensitive
  | .between low high => .between low.replaced high.replaced
  | .membership operand negated => .membership operand.replaced negated

/-- Columns with their operands. -/
def ColumnMap.replaced : ColumnMap → ColumnMap
  | ⟨fields⟩ => ⟨replacedFields fields⟩

/-- Fields keep their columns. -/
def replacedFields : List Field → List Field
  | [] => []
  | ⟨column, operand⟩ :: rest => ⟨column, operand.replaced⟩ :: replacedFields rest

/-- Members of a JSON object under the keys that they had. -/
def replacedJsonItems : List JsonItem → List JsonItem
  | [] => []
  | .key key :: rest => .key key :: replacedJsonItems rest
  | .keys keys :: rest => .keys keys :: replacedJsonItems rest
  | .map columns :: rest => .map columns.replaced :: replacedJsonItems rest

/-- A JSON object built by the database. -/
def JsonObject.replaced : JsonObject → JsonObject
  | ⟨items, qualifier, binary⟩ => ⟨replacedJsonItems items, qualifier, binary⟩

/-- Rows keep their columns, so the first one still decides which cells are written. -/
def replacedRows : List ColumnMap → List ColumnMap
  | [] => []
  | row :: rest => row.replaced :: replacedRows rest

/-- Rows as a table. -/
def ValuesList.replaced : ValuesList → ValuesList
  | ⟨rows, name⟩ => ⟨replacedRows rows, name⟩

/-- A joined table and its condition. -/
def Join.replaced : Join → Join
  | ⟨kind, table, condition⟩ => ⟨kind, table.replaced, condition.replaced⟩

/-- Joins, one after another. -/
def replacedJoins : List Join → List Join
  | [] => []
  | join :: rest => join.replaced :: replacedJoins rest

/-- Tables with what is joined to them. -/
def replacedSources : List Source → List Source
  | [] => []
  | ⟨table, joins⟩ :: rest => ⟨table.replaced, replacedJoins joins⟩ :: replacedSources rest

/-- A list of sources as a node of its own. -/
def SourceList.replaced : SourceList → SourceList
  | ⟨sources, misuse⟩ => ⟨replacedSources sources, misuse⟩

/-- Keys of an order with their directions. -/
def replacedOrderKeys : List OrderKey → List OrderKey
  | [] => []
  | ⟨key, direction⟩ :: rest => ⟨key.replaced, direction⟩ :: replacedOrderKeys rest

/-- Some keys, if there are any. -/
def replacedKeys : Option (List Operand) → Option (List Operand)
  | none => none
  | some operands => some (replacedOperands operands)

/-- The table that rows are stored in, if there is one. -/
def replacedTarget : Option Operand → Option Operand
  | none => none
  | some table => some table.replaced

/-- A query: the statements inside it, and not the query itself. -/
def Select.replaced : Select → Select
  | ⟨columns, distinct, target, ⟨sources, misuse⟩, condition, grouping, groupCondition,
      ordering, limit, offset⟩ =>
    ⟨replacedOperands columns, replacedKeys distinct, replacedTarget target,
      ⟨replacedSources sources, misuse⟩, condition.replaced, replacedOperands grouping,
      groupCondition.replaced, replacedOrderKeys ordering, limit, offset⟩

/-- The query that an insertion takes its rows from has no parentheses around it, but a
context of its own, so it is exchanged as well. -/
def InsertBody.replaced : InsertBody → InsertBody
  | .query query => .query (replacement.exchange query.replaced)
  | .rows rows => .rows (replacedRows rows)

/-- An insertion. -/
def Insert.replaced : Insert → Insert
  | ⟨table, columns, body, conflict, constraint, update, returning, misuse⟩ =>
    ⟨table.replaced, replacedOperands columns, body.replaced, replacedKeys conflict, constraint,
      update.replaced, replacedOperands returning, misuse⟩

/-- An update. -/
def Update.replaced : Update → Update
  | ⟨table, assignments, sources, condition, returning⟩ =>
    ⟨table.replaced, assignments.replaced, replacedOperands sources, condition.replaced,
      replacedOperands returning⟩

/-- A deletion. -/
def Delete.replaced : Delete → Delete
  | ⟨table, sources, condition, returning⟩ =>
    ⟨table.replaced, replacedOperands sources, condition.replaced, replacedOperands returning⟩

end

end SqlTree
