/-
This file proves that what is definite means the same wherever it stands. A tree
in which no text is unresolved is written in a join condition as it is written
elsewhere; an unresolved text is the only thing in a tree that is not.

The sink is any sink, and so is its state, since the equations are between the
writings themselves: the same calls in the same order. They hold of parts that
turn out to be left out as well, because what is left out is decided by what was
written. A caller meets the context in two ways, through an operand in the
condition of a join and through that condition as a whole, and the last theorem
speaks of both.
-/

import SqlTree.Parameters
import SqlTree.Proofs.Definite.Basic

namespace SqlTree

open Writing

variable {State : Type} {sink : Sink State}

/-! ### The tree -/

mutual

/-- An operand where a value is wanted. A statement in it starts anew in any case. -/
theorem Operand.writeValue_definite (context : Context) (form : ListForm) (operand : Operand)
    (definite : operand.isDefinite) :
    operand.writeValue sink context form = operand.writeValue sink .ordinary form := by
  match operand with
  | .value _ => rfl
  | .list items =>
    rw [Operand.writeValue, Operand.writeValue, writeValues_definite context form items definite]
  | .node (.unresolved inner) =>
    rw [Operand.isDefinite, Node.isDefinite, Bool.and_eq_true, Bool.not_eq_true'] at definite
    -- Without a text inside, both sides take the operand for a value.
    rw [Operand.writeValue, Operand.writeValue, definite.1,
      inner.writeValue_definite context form definite.2]
    simp only [Bool.false_eq_true, and_false, if_false]
  | .node (.identifier _) | .node (.literal _) | .node (.snippet _) | .node (.renamed _)
  | .node (.condition _) | .node (.comparison _) | .node (.jsonObject _) | .node (.values _)
  | .node (.sources _) | .node (.join _) => exact Node.write_definite context _ definite
  | .node (.select _) | .node (.insert _) | .node (.update _) | .node (.delete _) => rfl

/-- An operand where a name is wanted. -/
theorem Operand.writeName_definite (context : Context) (operand : Operand)
    (definite : operand.isDefinite) :
    operand.writeName sink context = operand.writeName sink .ordinary := by
  match operand with
  | .value _ => rfl
  | .list items =>
    rw [Operand.writeName, Operand.writeName, writeNames_definite context items definite]
  | .node inner =>
    rw [Operand.writeName, Operand.writeName, inner.write_definite context definite]

theorem writeValues_definite (context : Context) (form : ListForm) (operands : List Operand)
    (definite : areDefinite operands) :
    writeValues sink context form operands = writeValues sink .ordinary form operands := by
  match operands with
  | [] => rfl
  | operand :: rest =>
    rw [areDefinite, Bool.and_eq_true] at definite
    rw [writeValues, writeValues, operand.writeValue_definite context form definite.1,
      writeValues_definite context form rest definite.2]

theorem writeNames_definite (context : Context) (operands : List Operand)
    (definite : areDefinite operands) :
    writeNames sink context operands = writeNames sink .ordinary operands := by
  match operands with
  | [] => rfl
  | operand :: rest =>
    rw [areDefinite, Bool.and_eq_true] at definite
    rw [writeNames, writeNames, operand.writeName_definite context definite.1,
      writeNames_definite context rest definite.2]

/-- A definite node has the same rendering in every context. -/
theorem Node.write_definite (context : Context) (node : Node) (definite : node.isDefinite) :
    node.write sink context = node.write sink .ordinary := by
  match node with
  | .identifier _ => rfl
  | .literal _ => rfl
  | .snippet snippet => exact snippet.write_definite context definite
  | .unresolved _ => rfl
  | .renamed item => exact item.write_definite context definite
  | .condition condition => exact condition.write_definite context definite
  | .comparison comparison => exact comparison.write_definite context definite
  | .jsonObject object => exact object.write_definite context definite
  | .values list => exact list.write_definite context definite
  | .sources list => exact list.write_definite context definite
  | .join join => exact join.write_definite context definite
  | .select statement => exact statement.write_definite context definite
  | .insert statement => exact statement.write_definite context definite
  | .update statement => exact statement.write_definite context definite
  | .delete statement => exact statement.write_definite context definite

theorem Snippet.write_definite (context : Context) (snippet : Snippet)
    (definite : snippet.isDefinite) :
    snippet.write sink context = snippet.write sink .ordinary := by
  match snippet with
  | ⟨head, slots, misuse⟩ =>
    rw [Snippet.write, Snippet.write, writeSlots_definite context slots definite]

/-- The operands of a snippet stand where values are wanted. -/
theorem writeSlots_definite (context : Context) (slots : List Slot)
    (definite : areDefiniteSlots slots) :
    writeSlots sink context slots = writeSlots sink .ordinary slots := by
  match slots with
  | [] => rfl
  | ⟨operand, after⟩ :: rest =>
    rw [areDefiniteSlots, Bool.and_eq_true] at definite
    rw [writeSlots, writeSlots, operand.writeValue_definite context .array definite.1,
      writeSlots_definite context rest definite.2]

theorem Renaming.write_definite (context : Context) (item : Renaming)
    (definite : item.isDefinite) : item.write sink context = item.write sink .ordinary := by
  match item with
  | ⟨target, name⟩ =>
    rw [Renaming.write, Renaming.write, target.writeName_definite context definite]

/-- A condition. What it asks for a row is a statement as a rule, but another node in its
place is in the context around it. -/
theorem Condition.write_definite (context : Context) (condition : Condition)
    (definite : condition.isDefinite) :
    condition.write sink context = condition.write sink .ordinary := by
  match condition with
  | .all members | .any members =>
    rw [Condition.write, Condition.write, writeMembers_definite context members definite]
  | .negation inner =>
    rw [Condition.write, Condition.write, inner.write_definite context definite]
  | .existence query =>
    rw [Condition.write, Condition.write, query.write_definite _ definite, ite_self]
  | .test column comparison =>
    rw [Condition.isDefinite, Bool.and_eq_true] at definite
    rw [Condition.write, Condition.write, column.writeName_definite context definite.1,
      comparison.write_definite context definite.2]
  | .plain inner => exact inner.write_definite context definite

theorem writeMembers_definite (context : Context) (members : List Condition)
    (definite : areDefiniteMembers members) :
    writeMembers sink context members = writeMembers sink .ordinary members := by
  match members with
  | [] => rfl
  | member :: rest =>
    rw [areDefiniteMembers, Bool.and_eq_true] at definite
    rw [writeMembers, writeMembers, member.write_definite context definite.1,
      writeMembers_definite context rest definite.2]

/-- A comparison without its column: here unresolved texts would stand. -/
theorem Comparison.write_definite (context : Context) (comparison : Comparison)
    (definite : comparison.isDefinite) :
    comparison.write sink context = comparison.write sink .ordinary := by
  match comparison with
  | .relation relation operand none =>
    rw [Comparison.write, Comparison.write, operand.writeValue_definite context .array definite]
  | .relation relation operand (some quantifier) =>
    rw [Comparison.write, Comparison.write, operand.writeValue_definite context .array definite]
  | .nullity _ => rfl
  | .like pattern insensitive =>
    rw [Comparison.write, Comparison.write, pattern.writeValue_definite context .array definite]
  | .between low high =>
    rw [Comparison.isDefinite, Bool.and_eq_true] at definite
    rw [Comparison.write, Comparison.write, low.writeValue_definite context .array definite.1,
      high.writeValue_definite context .array definite.2]
  | .membership (.list []) _ => rfl
  | .membership (.list (first :: rest)) negated =>
    rw [Comparison.isDefinite, Operand.isDefinite, areDefinite, Bool.and_eq_true] at definite
    rw [Comparison.write, Comparison.write, first.writeValue_definite context .row definite.1,
      writeValues_definite context .row rest definite.2]
  | .membership (.node inner) negated =>
    rw [Comparison.write, Comparison.write, inner.write_definite _ definite, ite_self]
  | .membership (.value _) _ => rfl

theorem ColumnMap.writeCells_definite (context : Context) (map : ColumnMap)
    (definite : map.isDefinite) : map.writeCells sink context = map.writeCells sink .ordinary := by
  match map with
  | ⟨fields⟩ => exact writeFields_definite context fields definite

/-- Columns with values. -/
theorem writeFields_definite (context : Context) (fields : List Field)
    (definite : areDefiniteFields fields) :
    writeFields sink context fields = writeFields sink .ordinary fields := by
  match fields with
  | [] => rfl
  | ⟨column, operand⟩ :: rest =>
    rw [areDefiniteFields, Bool.and_eq_true] at definite
    rw [writeFields, writeFields, operand.writeValue_definite context .array definite.1,
      writeFields_definite context rest definite.2]

theorem ColumnMap.writeNameCells_definite (context : Context) (map : ColumnMap)
    (definite : map.isDefinite) :
    map.writeNameCells sink context = map.writeNameCells sink .ordinary := by
  match map with
  | ⟨fields⟩ => exact writeNameFields_definite context fields definite

/-- Columns with names, as the members of a JSON object. -/
theorem writeNameFields_definite (context : Context) (fields : List Field)
    (definite : areDefiniteFields fields) :
    writeNameFields sink context fields = writeNameFields sink .ordinary fields := by
  match fields with
  | [] => rfl
  | ⟨column, operand⟩ :: rest =>
    rw [areDefiniteFields, Bool.and_eq_true] at definite
    rw [writeNameFields, writeNameFields, operand.writeName_definite context definite.1,
      writeNameFields_definite context rest definite.2]

theorem writeItems_definite (context : Context) (qualifier : Option String)
    (items : List JsonItem) (definite : areDefiniteItems items) :
    writeItems sink context qualifier items = writeItems sink .ordinary qualifier items := by
  match items with
  | [] => rfl
  | .key key :: rest | .keys keys :: rest =>
    rw [writeItems, writeItems, writeItems_definite context qualifier rest definite]
  | .map columns :: rest =>
    rw [areDefiniteItems, Bool.and_eq_true] at definite
    rw [writeItems, writeItems, columns.writeNameCells_definite context definite.1,
      writeItems_definite context qualifier rest definite.2]

theorem JsonObject.write_definite (context : Context) (object : JsonObject)
    (definite : object.isDefinite) : object.write sink context = object.write sink .ordinary := by
  match object with
  | ⟨items, qualifier, binary⟩ =>
    rw [JsonObject.write, JsonObject.write,
      writeItems_definite context qualifier items definite]

theorem writeRows_definite (context : Context) (rows : List ColumnMap)
    (definite : areDefiniteRows rows) :
    writeRows sink context rows = writeRows sink .ordinary rows := by
  match rows with
  | [] => rfl
  | row :: rest =>
    rw [areDefiniteRows, Bool.and_eq_true] at definite
    rw [writeRows, writeRows, row.writeCells_definite context definite.1,
      writeRows_definite context rest definite.2]

/-- A list of values. What it lacks is decided before anything is written. -/
theorem ValuesList.write_definite (context : Context) (list : ValuesList)
    (definite : list.isDefinite) : list.write sink context = list.write sink .ordinary := by
  match list with
  | ⟨rows, name⟩ =>
    unfold ValuesList.write
    rw [writeRows_definite context rows definite]

/-- The condition of a join is rendered for a join wherever the join stands. -/
theorem Join.write_definite (context : Context) (join : Join) (definite : join.isDefinite) :
    join.write sink context = join.write sink .ordinary := by
  match join with
  | ⟨kind, table, condition⟩ =>
    rw [Join.isDefinite, Bool.and_eq_true] at definite
    rw [Join.write, Join.write, table.writeName_definite context definite.1]

theorem writeJoins_definite (context : Context) (joins : List Join)
    (definite : areDefiniteJoins joins) :
    writeJoins sink context joins = writeJoins sink .ordinary joins := by
  match joins with
  | [] => rfl
  | join :: rest =>
    rw [areDefiniteJoins, Bool.and_eq_true] at definite
    rw [writeJoins, writeJoins, join.write_definite context definite.1,
      writeJoins_definite context rest definite.2]

/-- Tables with their joins, whose conditions are in their own context on both sides. -/
theorem writeSources_definite (context : Context) (sources : List Source)
    (definite : areDefiniteSources sources) :
    writeSources sink context sources = writeSources sink .ordinary sources := by
  match sources with
  | [] => rfl
  | ⟨table, joins⟩ :: rest =>
    rw [areDefiniteSources, Bool.and_eq_true, Bool.and_eq_true] at definite
    rw [writeSources, writeSources, table.writeName_definite context definite.1.1,
      writeJoins_definite context joins definite.1.2,
      writeSources_definite context rest definite.2]

theorem SourceList.write_definite (context : Context) (list : SourceList)
    (definite : list.isDefinite) : list.write sink context = list.write sink .ordinary := by
  match list with
  | ⟨sources, misuse⟩ =>
    rw [SourceList.write, SourceList.write, writeSources_definite context sources definite]

theorem writeOrderKeys_definite (context : Context) (keys : List OrderKey)
    (definite : areDefiniteOrderKeys keys) :
    writeOrderKeys sink context keys = writeOrderKeys sink .ordinary keys := by
  match keys with
  | [] => rfl
  | ⟨key, direction⟩ :: rest =>
    rw [areDefiniteOrderKeys, Bool.and_eq_true] at definite
    unfold writeOrderKeys
    rw [key.writeName_definite context definite.1,
      writeOrderKeys_definite context rest definite.2]

/-- Keys of distinct rows. -/
theorem writeDistinct_definite (context : Context) (distinct : Option (List Operand))
    (definite : areDefiniteKeys distinct) :
    writeDistinct sink context distinct = writeDistinct sink .ordinary distinct := by
  match distinct with
  | none => rfl
  | some [] => rfl
  | some (first :: rest) =>
    rw [areDefiniteKeys, areDefinite, Bool.and_eq_true] at definite
    rw [writeDistinct, writeDistinct, first.writeName_definite context definite.1,
      writeNames_definite context rest definite.2]

theorem writeColumns_definite (context : Context) (columns : List Operand)
    (definite : areDefinite columns) :
    writeColumns sink context columns = writeColumns sink .ordinary columns := by
  match columns with
  | [] => rfl
  | first :: rest =>
    rw [areDefinite, Bool.and_eq_true] at definite
    rw [writeColumns, writeColumns, first.writeName_definite context definite.1,
      writeNames_definite context rest definite.2]

theorem writeTarget_definite (context : Context) (target : Option Operand)
    (definite : isDefiniteTarget target) :
    writeTarget sink context target = writeTarget sink .ordinary target := by
  match target with
  | none => rfl
  | some table =>
    rw [writeTarget, writeTarget, table.writeName_definite context definite]

/-- A query, clause by clause. -/
theorem Select.write_definite (context : Context) (statement : Select)
    (definite : statement.isDefinite) :
    statement.write sink context = statement.write sink .ordinary := by
  match statement with
  | ⟨columns, distinct, target, ⟨sources, misuse⟩, condition, grouping, groupCondition,
      ordering, limit, offset⟩ =>
    simp only [Select.isDefinite, Bool.and_eq_true] at definite
    obtain ⟨⟨⟨⟨⟨⟨⟨inColumns, inDistinct⟩, inTarget⟩, inSources⟩, inCondition⟩, inGrouping⟩,
      inGroupCondition⟩, inOrdering⟩ := definite
    rw [Select.write, Select.write, writeDistinct_definite context distinct inDistinct,
      writeColumns_definite context columns inColumns,
      writeTarget_definite context target inTarget,
      writeSources_definite context sources inSources,
      condition.write_definite context inCondition,
      writeNames_definite context grouping inGrouping,
      groupCondition.write_definite context inGroupCondition,
      writeOrderKeys_definite context ordering inOrdering]

/-- The body of an insertion. What it does with its columns is no concern of it. -/
theorem InsertBody.write_definite (context : Context) (columns : Writing State (List String))
    (body : InsertBody) (definite : body.isDefinite) :
    body.write sink context columns = body.write sink .ordinary columns := by
  match body with
  | .query query =>
    rw [InsertBody.write, InsertBody.write, query.write_definite _ definite, ite_self]
  | .rows rows =>
    unfold InsertBody.write
    rw [writeRows_definite context rows definite]

/-- What a conflict is about. A constraint hides the columns, whatever these are. -/
theorem writeConflict_definite (context : Context) (constraint : Option String)
    (conflict : Option (List Operand)) (definite : areDefiniteKeys conflict) :
    writeConflict sink context constraint conflict =
      writeConflict sink .ordinary constraint conflict := by
  match constraint, conflict with
  | some name, _ =>
    unfold writeConflict
    rfl
  | none, some (first :: rest) =>
    rw [areDefiniteKeys, areDefinite, Bool.and_eq_true] at definite
    rw [writeConflict, writeConflict, first.writeName_definite context definite.1,
      writeNames_definite context rest definite.2]
  | none, some [] => rfl
  | none, none => rfl

/-- An insertion. -/
theorem Insert.write_definite (context : Context) (statement : Insert)
    (definite : statement.isDefinite) :
    statement.write sink context = statement.write sink .ordinary := by
  match statement with
  | ⟨table, columns, body, conflict, constraint, update, returning, misuse⟩ =>
    simp only [Insert.isDefinite, Bool.and_eq_true] at definite
    obtain ⟨⟨⟨⟨⟨inTable, inColumns⟩, inBody⟩, inConflict⟩, inUpdate⟩, inReturning⟩ := definite
    rw [Insert.write, Insert.write, table.writeName_definite context inTable,
      writeNames_definite context columns inColumns, body.write_definite context _ inBody,
      writeConflict_definite context constraint conflict inConflict,
      update.writeCells_definite context inUpdate,
      writeNames_definite context returning inReturning]

/-- An update, whose assignments are values. -/
theorem Update.write_definite (context : Context) (statement : Update)
    (definite : statement.isDefinite) :
    statement.write sink context = statement.write sink .ordinary := by
  match statement with
  | ⟨table, assignments, sources, condition, returning⟩ =>
    simp only [Update.isDefinite, Bool.and_eq_true] at definite
    obtain ⟨⟨⟨⟨inTable, inAssignments⟩, inSources⟩, inCondition⟩, inReturning⟩ := definite
    rw [Update.write, Update.write, assignments.writeCells_definite context inAssignments,
      table.writeName_definite context inTable, writeNames_definite context sources inSources,
      condition.write_definite context inCondition,
      writeNames_definite context returning inReturning]

theorem Delete.write_definite (context : Context) (statement : Delete)
    (definite : statement.isDefinite) :
    statement.write sink context = statement.write sink .ordinary := by
  match statement with
  | ⟨table, sources, condition, returning⟩ =>
    simp only [Delete.isDefinite, Bool.and_eq_true] at definite
    obtain ⟨⟨⟨inTable, inSources⟩, inCondition⟩, inReturning⟩ := definite
    rw [Delete.write, Delete.write, table.writeName_definite context inTable,
      writeNames_definite context sources inSources,
      condition.write_definite context inCondition,
      writeNames_definite context returning inReturning]

end

/-! ### Join conditions and other places -/

/-- Without an unresolved text in it, a node is written in a join condition as it is
written elsewhere: into any sink in any state it has the same text and hands over the
same values in the same order, or fails with the same fault. So are its operands,
as values and as names, and the condition of a join stands behind `ON` as it would
stand behind `WHERE`. -/
theorem context_matters_to_unresolved_texts_only :
    (∀ node : Node, node.isDefinite → ∀ (State : Type) (sink : Sink State),
        node.write sink .joinCondition = node.write sink .ordinary) ∧
      (∀ operand : Operand, operand.isDefinite → ∀ (State : Type) (sink : Sink State),
        operand.writeName sink .joinCondition = operand.writeName sink .ordinary ∧
          ∀ form,
            operand.writeValue sink .joinCondition form =
              operand.writeValue sink .ordinary form) ∧
      ∀ condition : Condition, condition.isDefinite →
        ∀ (kind : JoinKind) (table : Operand) (State : Type) (sink : Sink State)
          (context : Context),
          (Join.mk kind table condition).write sink context =
            (do
              let table ← table.writeName sink context
              return kind.keyword ++ " " ++ table
                ++ clauseText " ON " (← condition.write sink .ordinary)) := by
  refine ⟨fun node definite State sink => ?_,
    fun operand definite State sink => ⟨?_, fun form => ?_⟩,
    fun condition definite kind table State sink context => ?_⟩
  · exact node.write_definite .joinCondition definite
  · exact operand.writeName_definite .joinCondition definite
  · exact operand.writeValue_definite .joinCondition form definite
  · rw [Join.write, condition.write_definite .joinCondition definite]

/-- A town that is as large as the sum of two numbers, one of them unresolved, or
that has a name in a list. -/
def townSize : Condition :=
  .any [.test (.text "Size") (.relation .equal
      (.node (.snippet ⟨"", [⟨.node (.unresolved (.value (.integer 3))), " + "⟩,
        ⟨.value (.integer 4), ""⟩], none⟩)) none),
    .test (.path "Town.Name") (.membership (.list [.text "Oslo", .text "Bergen"]) false)]

/-- A join on a condition without unresolved texts, which reads there as it reads anywhere
else. -/
theorem townSize_joined :
    townSize.isDefinite ∧
      (∀ (State : Type) (sink : Sink State),
        (Node.condition townSize).write sink .joinCondition =
            (Node.condition townSize).write sink .ordinary ∧
          (Operand.node (.condition townSize)).writeName sink .joinCondition =
            (Operand.node (.condition townSize)).writeName sink .ordinary ∧
          (Join.mk .left (.text "Town") townSize).write sink .ordinary =
            (do
              return "LEFT JOIN \"Town\""
                ++ clauseText " ON " (← townSize.write sink .ordinary))) ∧
      (Node.join ⟨.left, .text "Town", townSize⟩).prepare =
        .ok ⟨"LEFT JOIN \"Town\" ON \"Size\" = $1 + $2 OR \"Town\".\"Name\" IN ($3, $4)",
          [.integer 3, .integer 4, .text "Oslo", .text "Bergen"]⟩ :=
  have definite : townSize.isDefinite := rfl
  have alike := context_matters_to_unresolved_texts_only
  ⟨definite, fun State sink => ⟨alike.1 (.condition townSize) definite State sink,
    (alike.2.1 (.node (.condition townSize)) definite State sink).1,
    alike.2.2 townSize definite .left (.text "Town") State sink .ordinary⟩, rfl⟩

/-- An unresolved text is a name in a join condition, which no sink hears of, and a
value elsewhere. -/
example {State : Type} (sink : Sink State) :
    (Operand.node (.unresolved (.text "Size"))).writeValue sink .joinCondition .array =
        pure "\"Size\"" ∧
      (Operand.node (.unresolved (.text "Size"))).writeValue sink .ordinary .array =
        sink.write (.text "Size") :=
  ⟨rfl, rfl⟩

end SqlTree
