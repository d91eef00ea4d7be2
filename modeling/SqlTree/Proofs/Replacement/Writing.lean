/-
This file proves that a statement inside a tree matters only by the way in
which it is written on its own. Statements that are written in the same way on
their own can stand in for each other anywhere inside a tree, in a join
condition as well, and the tree is written in the same way. Only a statement
that is a condition as it stands is read with its surroundings: in a join
condition its texts name columns.

The proof goes through the tree twice at once: what is replaced in it does not
show, and neither does the replacement in what is around it. The questions that
the writing asks about an operand have the same answers after the replacement,
which is said first. Then comes the place where a statement is taken for another.
There the writing resets the context, so the promise of a replacement, which is
about statements on their own, is all that is needed. The last part is induction,
one case for each kind of part.
-/

import SqlTree.Parameters
import SqlTree.Proofs.Replacement.Basic
import SqlTree.Tree.Query

namespace SqlTree

open Writing

variable {State : Type} {sink : Sink State} (replacement : Replacement sink)

/-! ### What replacement leaves alone -/

theorem Node.isStatement_replaced (node : Node) :
    (node.replaced replacement).isStatement = node.isStatement := by
  cases node <;> rfl

/-- What stands in for a node is a statement if and only if the node is one. -/
theorem Replacement.isStatement_exchange (node : Node) :
    (replacement.exchange node).isStatement = node.isStatement := by
  unfold exchange
  split
  · next statement => rw [statement, replacement.isStatement_standIn node statement]
  · rfl

/-- A replacement makes no text of an operand and takes none away, so names stay names. -/
theorem Operand.isText_replaced (operand : Operand) :
    (operand.replaced replacement).isText = operand.isText := by
  cases operand <;> rfl

/-- An operand has parentheses around it after the replacement if it had them before. -/
theorem Operand.isStatement_replaced (operand : Operand) :
    (operand.replaced replacement).isStatement = operand.isStatement := by
  cases operand with
  | value _ | list _ => rfl
  | node inner => exact (replacement.isStatement_exchange _).trans (inner.isStatement_replaced _)

theorem Condition.isGroup_replaced (condition : Condition) :
    (condition.replaced replacement).isGroup = condition.isGroup := by
  cases condition <;> rfl

/-- No list gets empty. -/
theorem Comparison.isValid_replaced (comparison : Comparison) :
    (comparison.replaced replacement).isValid = comparison.isValid := by
  match comparison with
  | .relation _ _ _ | .nullity _ | .like _ _ | .between _ _ => rfl
  | .membership (.list []) _ | .membership (.list (_ :: _)) _ => rfl
  | .membership (.node _) _ | .membership (.value _) _ => rfl

/-! ### Statements where an operand is wanted -/

/-- A statement where a value is wanted is written in parentheses, without the context
around it. -/
theorem Operand.writeValue_statement (context : Context) (form : ListForm) {node : Node}
    (statement : node.isStatement) :
    (Operand.node node).writeValue sink context form =
      (do return parenthesizedText (← node.write sink .ordinary)) := by
  cases node with
  | select _ | insert _ | update _ | delete _ => rfl
  | identifier _ | literal _ | snippet _ | unresolved _ | renamed _ | condition _ | comparison _
  | jsonObject _ | values _ | sources _ | join _ => cases statement

namespace Replacement

/-- A statement starts anew, and so does what stands in for it. -/
theorem write_exchange (context : Context) (node : Node) :
    (replacement.exchange node).write sink
        (if (replacement.exchange node).isStatement then .ordinary else context) =
      node.write sink (if node.isStatement then .ordinary else context) := by
  rw [isStatement_exchange]
  unfold exchange
  by_cases statement : node.isStatement
  · rw [if_pos statement, if_pos statement]
    exact replacement.write_standIn node statement
  · rw [if_neg statement, if_neg statement]

/-- A statement where a name is wanted is the same to its surroundings as what stands in
for it. -/
theorem writeName_exchange (context : Context) (node : Node) :
    (Operand.node (replacement.exchange node)).writeName sink context =
      (Operand.node node).writeName sink context := by
  unfold exchange
  split
  · next statement =>
    rw [Operand.writeName, Operand.writeName, if_pos statement,
      if_pos (replacement.isStatement_standIn node statement),
      replacement.write_standIn node statement]
  · rfl

/-- So it is where a value is wanted. Nodes that are no statements are left as
they are. -/
theorem writeValue_exchange (context : Context) (form : ListForm) (node : Node) :
    (Operand.node (replacement.exchange node)).writeValue sink context form =
      (Operand.node node).writeValue sink context form := by
  unfold exchange
  split
  · next statement =>
    rw [Operand.writeValue_statement context form statement,
      Operand.writeValue_statement context form (replacement.isStatement_standIn node statement),
      replacement.write_standIn node statement]
  · rfl

end Replacement

/-! ### The tree -/

mutual

/-- An operand where a value is wanted. -/
theorem Operand.writeValue_exchanged (context : Context) (form : ListForm) (operand : Operand) :
    (operand.replaced replacement).writeValue sink context form =
      operand.writeValue sink context form := by
  match operand with
  | .value _ => rfl
  | .list items =>
    rw [Operand.replaced, Operand.writeValue, Operand.writeValue,
      writeValues_exchanged context form items]
  | .node (.unresolved inner) =>
    rw [Operand.replaced, replacement.writeValue_exchange, Node.replaced, Operand.writeValue,
      Operand.writeValue, inner.isText_replaced, inner.writeName_exchanged context,
      inner.writeValue_exchanged context form]
  | .node (.identifier _) | .node (.literal _) | .node (.snippet _) | .node (.renamed _)
  | .node (.condition _) | .node (.comparison _) | .node (.jsonObject _) | .node (.values _)
  | .node (.sources _) | .node (.join _) => exact Node.write_exchanged context _
  | .node (.select _) | .node (.insert _) | .node (.update _) | .node (.delete _) =>
    rw [Operand.replaced, replacement.writeValue_exchange]
    exact congrArg (fun action => do return parenthesizedText (← action))
      (Node.write_exchanged .ordinary _)

/-- An operand where a name is wanted. -/
theorem Operand.writeName_exchanged (context : Context) (operand : Operand) :
    (operand.replaced replacement).writeName sink context = operand.writeName sink context := by
  match operand with
  | .value _ => rfl
  | .list items =>
    rw [Operand.replaced, Operand.writeName, Operand.writeName,
      writeNames_exchanged context items]
  | .node inner =>
    rw [Operand.replaced, replacement.writeName_exchange, Operand.writeName,
      Operand.writeName, inner.isStatement_replaced, inner.write_exchanged .ordinary,
      inner.write_exchanged context]

theorem writeValues_exchanged (context : Context) (form : ListForm) (operands : List Operand) :
    writeValues sink context form (replacedOperands replacement operands) =
      writeValues sink context form operands := by
  match operands with
  | [] => rfl
  | operand :: rest =>
    rw [replacedOperands, writeValues, writeValues, operand.writeValue_exchanged context form,
      writeValues_exchanged context form rest]

theorem writeNames_exchanged (context : Context) (operands : List Operand) :
    writeNames sink context (replacedOperands replacement operands) =
      writeNames sink context operands := by
  match operands with
  | [] => rfl
  | operand :: rest =>
    rw [replacedOperands, writeNames, writeNames, operand.writeName_exchanged context,
      writeNames_exchanged context rest]

/-- Statements inside a node are written as they are on their own, in any context. -/
theorem Node.write_exchanged (context : Context) (node : Node) :
    (node.replaced replacement).write sink context = node.write sink context := by
  match node with
  | .identifier _ => rfl
  | .literal _ => rfl
  | .snippet snippet => exact snippet.write_exchanged context
  | .unresolved _ => rfl
  | .renamed item => exact item.write_exchanged context
  | .condition condition => exact condition.write_exchanged context
  | .comparison comparison => exact comparison.write_exchanged context
  | .jsonObject object => exact object.write_exchanged context
  | .values list => exact list.write_exchanged context
  | .sources list => exact list.write_exchanged context
  | .join join => exact join.write_exchanged context
  | .select statement => exact statement.write_exchanged context
  | .insert statement => exact statement.write_exchanged context
  | .update statement => exact statement.write_exchanged context
  | .delete statement => exact statement.write_exchanged context

/-- The operands of a snippet; its text and its misuse are not touched. -/
theorem Snippet.write_exchanged (context : Context) (snippet : Snippet) :
    (snippet.replaced replacement).write sink context = snippet.write sink context := by
  match snippet with
  | ⟨head, slots, misuse⟩ =>
    rw [Snippet.replaced, Snippet.write, Snippet.write, writeSlots_exchanged context slots]

theorem writeSlots_exchanged (context : Context) (slots : List Slot) :
    writeSlots sink context (replacedSlots replacement slots) = writeSlots sink context slots := by
  match slots with
  | [] => rfl
  | ⟨operand, after⟩ :: rest =>
    rw [replacedSlots, writeSlots, writeSlots, operand.writeValue_exchanged context .array,
      writeSlots_exchanged context rest]

theorem Renaming.write_exchanged (context : Context) (item : Renaming) :
    (item.replaced replacement).write sink context = item.write sink context := by
  match item with
  | ⟨target, name⟩ =>
    rw [Renaming.replaced, Renaming.write, Renaming.write, target.writeName_exchanged context]

/-- A condition. The query that is asked for a row has its own context, so it can be
exchanged as a whole. -/
theorem Condition.write_exchanged (context : Context) (condition : Condition) :
    (condition.replaced replacement).write sink context = condition.write sink context := by
  match condition with
  | .all members | .any members =>
    rw [Condition.replaced, Condition.write, Condition.write,
      writeMembers_exchanged context members]
  | .negation inner =>
    rw [Condition.replaced, Condition.write, Condition.write, inner.write_exchanged context]
  | .existence query =>
    rw [Condition.replaced, Condition.write, Condition.write, replacement.write_exchange,
      query.isStatement_replaced, query.write_exchanged]
  | .test column comparison =>
    rw [Condition.replaced, Condition.write, Condition.write, comparison.isValid_replaced,
      column.writeName_exchanged context, comparison.write_exchanged context]
  | .plain inner => exact inner.write_exchanged context

theorem writeMembers_exchanged (context : Context) (members : List Condition) :
    writeMembers sink context (replacedMembers replacement members) =
      writeMembers sink context members := by
  match members with
  | [] => rfl
  | member :: rest =>
    rw [replacedMembers, writeMembers, writeMembers, member.isGroup_replaced,
      member.write_exchanged context, writeMembers_exchanged context rest]

/-- A comparison. The query that a column is a member of is exchanged, the items of a list
one by one. -/
theorem Comparison.write_exchanged (context : Context) (comparison : Comparison) :
    (comparison.replaced replacement).write sink context = comparison.write sink context := by
  match comparison with
  | .relation relation operand none =>
    rw [Comparison.replaced, Comparison.write, Comparison.write,
      operand.writeValue_exchanged context .array]
  | .relation relation operand (some quantifier) =>
    rw [Comparison.replaced, Comparison.write, Comparison.write,
      operand.writeValue_exchanged context .array, operand.isStatement_replaced]
  | .nullity negated => rfl
  | .like pattern insensitive =>
    rw [Comparison.replaced, Comparison.write, Comparison.write,
      pattern.writeValue_exchanged context .array]
  | .between low high =>
    rw [Comparison.replaced, Comparison.write, Comparison.write,
      low.writeValue_exchanged context .array, high.writeValue_exchanged context .array]
  | .membership (.list []) negated => rfl
  | .membership (.list (first :: rest)) negated =>
    rw [Comparison.replaced, Operand.replaced, replacedOperands, Comparison.write,
      Comparison.write, first.writeValue_exchanged context .row,
      writeValues_exchanged context .row rest]
  | .membership (.node inner) negated =>
    rw [Comparison.replaced, Operand.replaced, Comparison.write, Comparison.write,
      replacement.write_exchange, inner.isStatement_replaced, inner.write_exchanged]
  | .membership (.value scalar) negated => rfl

/-- Columns with values, in the order that they had. -/
theorem ColumnMap.writeCells_exchanged (context : Context) (map : ColumnMap) :
    (map.replaced replacement).writeCells sink context = map.writeCells sink context := by
  match map with
  | ⟨fields⟩ => exact writeFields_exchanged context fields

theorem writeFields_exchanged (context : Context) (fields : List Field) :
    writeFields sink context (replacedFields replacement fields) =
      writeFields sink context fields := by
  match fields with
  | [] => rfl
  | ⟨column, operand⟩ :: rest =>
    rw [replacedFields, writeFields, writeFields, operand.writeValue_exchanged context .array,
      writeFields_exchanged context rest]

theorem ColumnMap.writeNameCells_exchanged (context : Context) (map : ColumnMap) :
    (map.replaced replacement).writeNameCells sink context = map.writeNameCells sink context := by
  match map with
  | ⟨fields⟩ => exact writeNameFields_exchanged context fields

theorem writeNameFields_exchanged (context : Context) (fields : List Field) :
    writeNameFields sink context (replacedFields replacement fields) =
      writeNameFields sink context fields := by
  match fields with
  | [] => rfl
  | ⟨column, operand⟩ :: rest =>
    rw [replacedFields, writeNameFields, writeNameFields, operand.writeName_exchanged context,
      writeNameFields_exchanged context rest]

/-- The members of a JSON object. -/
theorem writeItems_exchanged (context : Context) (qualifier : Option String)
    (items : List JsonItem) :
    writeItems sink context qualifier (replacedJsonItems replacement items) =
      writeItems sink context qualifier items := by
  match items with
  | [] => rfl
  | .key key :: rest | .keys keys :: rest =>
    rw [replacedJsonItems, writeItems, writeItems, writeItems_exchanged context qualifier rest]
  | .map columns :: rest =>
    rw [replacedJsonItems, writeItems, writeItems, columns.writeNameCells_exchanged context,
      writeItems_exchanged context qualifier rest]

theorem JsonObject.write_exchanged (context : Context) (object : JsonObject) :
    (object.replaced replacement).write sink context = object.write sink context := by
  match object with
  | ⟨items, qualifier, binary⟩ =>
    rw [JsonObject.replaced, JsonObject.write, JsonObject.write,
      writeItems_exchanged context qualifier items]

/-- Rows, each with the columns that it had, so the first one decides as before. -/
theorem writeRows_exchanged (context : Context) (rows : List ColumnMap) :
    writeRows sink context (replacedRows replacement rows) = writeRows sink context rows := by
  match rows with
  | [] => rfl
  | row :: rest =>
    rw [replacedRows, writeRows, writeRows, row.writeCells_exchanged context,
      writeRows_exchanged context rest]

/-- A list of values. -/
theorem ValuesList.write_exchanged (context : Context) (list : ValuesList) :
    (list.replaced replacement).write sink context = list.write sink context := by
  match list with
  | ⟨rows, name⟩ =>
    unfold ValuesList.replaced ValuesList.write
    rw [writeRows_exchanged context rows]

/-- A join. In its condition the context is another one, and statements in it start anew
all the same. -/
theorem Join.write_exchanged (context : Context) (join : Join) :
    (join.replaced replacement).write sink context = join.write sink context := by
  match join with
  | ⟨kind, table, condition⟩ =>
    rw [Join.replaced, Join.write, Join.write, table.writeName_exchanged context,
      condition.write_exchanged .joinCondition]

theorem writeJoins_exchanged (context : Context) (joins : List Join) :
    writeJoins sink context (replacedJoins replacement joins) = writeJoins sink context joins := by
  match joins with
  | [] => rfl
  | join :: rest =>
    rw [replacedJoins, writeJoins, writeJoins, join.write_exchanged context,
      writeJoins_exchanged context rest]

/-- Tables with what is joined to them. A query in the place of a table is exchanged. -/
theorem writeSources_exchanged (context : Context) (sources : List Source) :
    writeSources sink context (replacedSources replacement sources) =
      writeSources sink context sources := by
  match sources with
  | [] => rfl
  | ⟨table, joins⟩ :: rest =>
    rw [replacedSources, writeSources, writeSources, table.writeName_exchanged context,
      writeJoins_exchanged context joins, writeSources_exchanged context rest]

theorem SourceList.write_exchanged (context : Context) (list : SourceList) :
    (list.replaced replacement).write sink context = list.write sink context := by
  match list with
  | ⟨sources, misuse⟩ =>
    rw [SourceList.replaced, SourceList.write, SourceList.write,
      writeSources_exchanged context sources]

/-- Keys of an order. -/
theorem writeOrderKeys_exchanged (context : Context) (keys : List OrderKey) :
    writeOrderKeys sink context (replacedOrderKeys replacement keys) =
      writeOrderKeys sink context keys := by
  match keys with
  | [] => rfl
  | ⟨key, direction⟩ :: rest =>
    unfold replacedOrderKeys writeOrderKeys
    rw [key.writeName_exchanged context, writeOrderKeys_exchanged context rest]

theorem writeDistinct_exchanged (context : Context) (distinct : Option (List Operand)) :
    writeDistinct sink context (replacedKeys replacement distinct) =
      writeDistinct sink context distinct := by
  match distinct with
  | none => rfl
  | some [] => rfl
  | some (first :: rest) =>
    rw [replacedKeys, replacedOperands, writeDistinct, writeDistinct,
      first.writeName_exchanged context, writeNames_exchanged context rest]

theorem writeColumns_exchanged (context : Context) (columns : List Operand) :
    writeColumns sink context (replacedOperands replacement columns) =
      writeColumns sink context columns := by
  match columns with
  | [] => rfl
  | first :: rest =>
    rw [replacedOperands, writeColumns, writeColumns, first.writeName_exchanged context,
      writeNames_exchanged context rest]

theorem writeTarget_exchanged (context : Context) (target : Option Operand) :
    writeTarget sink context (replacedTarget replacement target) =
      writeTarget sink context target := by
  match target with
  | none => rfl
  | some table =>
    rw [replacedTarget, writeTarget, writeTarget, table.writeName_exchanged context]

/-- A query with the statements inside it exchanged. -/
theorem Select.write_exchanged (context : Context) (statement : Select) :
    (statement.replaced replacement).write sink context = statement.write sink context := by
  match statement with
  | ⟨columns, distinct, target, ⟨sources, misuse⟩, condition, grouping, groupCondition,
      ordering, limit, offset⟩ =>
    rw [Select.replaced, Select.write, Select.write, writeDistinct_exchanged context distinct,
      writeColumns_exchanged context columns, writeTarget_exchanged context target,
      writeSources_exchanged context sources, condition.write_exchanged context,
      writeNames_exchanged context grouping, groupCondition.write_exchanged context,
      writeOrderKeys_exchanged context ordering]

/-- The body of an insertion. A query there has no parentheses, but starts anew like any
other. -/
theorem InsertBody.write_exchanged (context : Context) (columns : Writing State (List String))
    (body : InsertBody) :
    (body.replaced replacement).write sink context columns = body.write sink context columns := by
  match body with
  | .query query =>
    rw [InsertBody.replaced, InsertBody.write, InsertBody.write, replacement.write_exchange,
      query.isStatement_replaced, query.write_exchanged]
  | .rows rows =>
    unfold InsertBody.replaced InsertBody.write
    rw [writeRows_exchanged context rows]

/-- What a conflict is about. -/
theorem writeConflict_exchanged (context : Context) (constraint : Option String)
    (conflict : Option (List Operand)) :
    writeConflict sink context constraint (replacedKeys replacement conflict) =
      writeConflict sink context constraint conflict := by
  match constraint, conflict with
  | some name, _ =>
    unfold writeConflict
    rfl
  | none, some (first :: rest) =>
    rw [replacedKeys, replacedOperands, writeConflict, writeConflict,
      first.writeName_exchanged context, writeNames_exchanged context rest]
  | none, some [] => rfl
  | none, none => rfl

/-- An insertion, whose rows and conflicts may have queries in them. -/
theorem Insert.write_exchanged (context : Context) (statement : Insert) :
    (statement.replaced replacement).write sink context = statement.write sink context := by
  match statement with
  | ⟨table, columns, body, conflict, constraint, update, returning, misuse⟩ =>
    have given : (replacedKeys replacement conflict).isSome = conflict.isSome := by
      cases conflict <;> rfl
    rw [Insert.replaced, Insert.write, Insert.write, given, table.writeName_exchanged context,
      writeNames_exchanged context columns, body.write_exchanged context,
      writeConflict_exchanged context constraint conflict, update.writeCells_exchanged context,
      writeNames_exchanged context returning]

/-- An update. -/
theorem Update.write_exchanged (context : Context) (statement : Update) :
    (statement.replaced replacement).write sink context = statement.write sink context := by
  match statement with
  | ⟨table, assignments, sources, condition, returning⟩ =>
    rw [Update.replaced, Update.write, Update.write, assignments.writeCells_exchanged context,
      table.writeName_exchanged context, writeNames_exchanged context sources,
      condition.write_exchanged context, writeNames_exchanged context returning]

/-- A deletion. -/
theorem Delete.write_exchanged (context : Context) (statement : Delete) :
    (statement.replaced replacement).write sink context = statement.write sink context := by
  match statement with
  | ⟨table, sources, condition, returning⟩ =>
    rw [Delete.replaced, Delete.write, Delete.write, table.writeName_exchanged context,
      writeNames_exchanged context sources, condition.write_exchanged context,
      writeNames_exchanged context returning]

end

/-! ### Any tree in any sink -/

/-- Whatever stands in for the statements inside a node, the node is written in the
same way, in a join condition as elsewhere: into any sink it has the same text and
binds the same values, or fails with the same fault. The same holds of an operand,
which can be such a statement itself, as a value and as a name. -/
theorem Node.write_replaced (sink : Sink State) (replacement : Replacement sink)
    (context : Context) :
    (∀ node : Node, (node.replaced replacement).write sink context = node.write sink context) ∧
      ∀ operand : Operand,
        (operand.replaced replacement).writeName sink context = operand.writeName sink context ∧
          ∀ form, (operand.replaced replacement).writeValue sink context form =
            operand.writeValue sink context form :=
  ⟨fun node => node.write_exchanged replacement context,
    fun operand => ⟨operand.writeName_exchanged replacement context,
      fun form => operand.writeValue_exchanged replacement context form⟩⟩

/-- A query for a town by its name. -/
def townQuery : Select :=
  (Select.empty.addSource (.text "Town")).addCondition (.columns ⟨[⟨"Name", .text "Oslo"⟩]⟩)

/-- A join whose condition is the query as it stands. -/
def townJoin : Join :=
  .ofClause .inner (.text "Company") (.node (.select townQuery))

/-- The name of the town is a string and the one value of the query on its own,
and the name of a column where the query is a join condition as it stands. -/
theorem townQuery_joined :
    (Node.select townQuery).toText = .ok "SELECT * FROM \"Town\" WHERE \"Name\" = 'Oslo'" ∧
    (Node.select townQuery).prepare =
      .ok ⟨"SELECT * FROM \"Town\" WHERE \"Name\" = $1", [.text "Oslo"]⟩ ∧
    (Node.join townJoin).toText =
      .ok "INNER JOIN \"Company\" ON SELECT * FROM \"Town\" WHERE \"Name\" = \"Oslo\"" ∧
    (Node.join townJoin).prepare =
      .ok ⟨"INNER JOIN \"Company\" ON SELECT * FROM \"Town\" WHERE \"Name\" = \"Oslo\"", []⟩ :=
  ⟨rfl, rfl, rfl, rfl⟩

end SqlTree
