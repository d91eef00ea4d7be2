/-
This file proves that the texts of a tree have no say in what else is written:
erasing them from the tree and rendering it is rendering the tree and erasing
them from its scalars.

Where a rendering asks a question about a part, the answer must not depend on a
text. It asks whether a part has no text at all, and a scalar always has one, an
empty text included, because its literal has quotes and its placeholder a number.
It asks whether an operand is a text, a statement, a group or an empty list, and
erasure keeps the form of every operand. These facts come first; the rest goes
through the tree as the rendering does. The long clauses of the statements are
erased in lemmas of their own, where nothing stands but renderings, so that the
tree is not opened together with them.
-/

import SqlTree.Proofs.Erasure.Basic

namespace SqlTree

/-- Text of the statement stays; a scalar has its texts emptied, and stays a scalar. -/
def Piece.erased : Piece → Piece
  | .text contents => .text contents
  | .value scalar => .value scalar.erased

namespace Rendering

/-- The rendering with the texts among its scalars emptied. -/
def erased (rendering : Rendering) : Rendering :=
  ⟨rendering.pieces.map Piece.erased, rendering.fault⟩

/-! ### Putting renderings together -/

/-- Nothing follows a fault, before the erasure and after it. -/
theorem erased_append (first second : Rendering) :
    (first ++ second).erased = first.erased ++ second.erased := by
  obtain ⟨pieces, fault⟩ := first
  cases fault with
  | some fault => rfl
  | none =>
    show (⟨(pieces ++ second.pieces).map Piece.erased, second.fault⟩ : Rendering) = _
    rw [List.map_append]
    rfl

theorem erased_ofText (text : String) : (ofText text).erased = ofText text := rfl

theorem erased_empty : empty.erased = empty := rfl

theorem erased_check (misuse : Option Misuse) : (check misuse).erased = check misuse := by
  cases misuse <;> rfl

/-- No rendering loses all of its text by the erasure, and none gets a text. -/
theorem isBlank_erased (rendering : Rendering) : rendering.erased.isBlank = rendering.isBlank := by
  have blank : Piece.isBlank ∘ Piece.erased = Piece.isBlank := by
    funext piece
    cases piece <;> rfl
  rw [isBlank, isBlank, erased, List.all_map, blank]

/-- What is put around a rendering that is there is put around the erased one. -/
theorem erased_ifPresent (rendering : Rendering) (change : Rendering → Rendering)
    (changed : (change rendering).erased = change rendering.erased) :
    (rendering.ifPresent change).erased = rendering.erased.ifPresent change := by
  rw [ifPresent, ifPresent, isBlank_erased, ← changed]
  split <;> rfl

theorem erased_join (separator : String) (renderings : List Rendering) :
    (join separator renderings).erased = join separator (renderings.map erased) := by
  induction renderings with
  | nil => rfl
  | cons rendering rest inductionHypothesis =>
    cases rest with
    | nil => rfl
    | cons next others =>
      show (rendering ++ ofText separator ++ join separator (next :: others)).erased = _
      rw [erased_append, erased_append, inductionHypothesis]
      rfl

/-- The same parts are left out, so the separators stand in the same places. -/
theorem erased_joinPresent (separator : String) (renderings : List Rendering) :
    (joinPresent separator renderings).erased = joinPresent separator (renderings.map erased) := by
  have present : (fun rendering : Rendering => !rendering.isBlank) ∘ erased =
      fun rendering => !rendering.isBlank := by
    funext rendering
    exact congrArg not (isBlank_erased rendering)
  rw [joinPresent, joinPresent, erased_join, List.filter_map, present]

theorem erased_commaSeparated (renderings : List Rendering) :
    (commaSeparated renderings).erased = commaSeparated (renderings.map erased) :=
  erased_join _ renderings

theorem erased_parenthesized (rendering : Rendering) :
    (parenthesized rendering).erased = parenthesized rendering.erased := by
  rw [parenthesized, erased_append, erased_append]
  rfl

theorem erased_listed (form : ListForm) (items : List Rendering) :
    (listed form items).erased = listed form (items.map erased) := by
  cases form with
  | array =>
    rw [listed, erased_append, erased_append, erased_commaSeparated]
    rfl
  | row =>
    rw [listed, erased_parenthesized, erased_commaSeparated]
    rfl

theorem erased_clause (keyword : String) (rendering : Rendering) :
    (clause keyword rendering).erased = clause keyword rendering.erased :=
  erased_ifPresent rendering _ (erased_append _ _)

/-- A clause that is there for its items is there for the erased ones. -/
theorem erased_listClause (keyword : String) (items : List Rendering) :
    (listClause keyword items).erased = listClause keyword (items.map erased) := by
  rw [listClause, listClause, List.isEmpty_map, ← erased_commaSeparated]
  split
  · rfl
  · exact erased_append _ _

theorem erased_renderCount (keyword : String) (count : Option UInt64) :
    (renderCount keyword count).erased = renderCount keyword count := by
  cases count <;> rfl

/-! ### Cells -/

/-- The columns of cells are names and stay. -/
def erasedCell (cell : Cell) : Cell :=
  (cell.1, cell.2.erased)

/-- Erasure leaves a row with the columns that it had. -/
theorem map_fst_erasedCell (row : List Cell) :
    (row.map erasedCell).map Prod.fst = row.map Prod.fst := by
  rw [List.map_map]
  rfl

/-- The cell of a column is found in the same place, or the substitute in both. -/
theorem erased_cellOf (row : List Cell) (missing : Rendering) (column : String) :
    (cellOf row missing column).erased = cellOf (row.map erasedCell) missing.erased column := by
  rw [cellOf, cellOf, List.find?_map]
  show _ = (((row.find? fun cell => cell.1 = column).map erasedCell).map Prod.snd).getD _
  cases row.find? fun cell => cell.1 = column <;> rfl

/-- Rows in the order of some columns. -/
theorem erased_rowsOf (columns : List String) (missing : Rendering) (rows : List (List Cell)) :
    (rowsOf columns missing rows).erased =
      rowsOf columns missing.erased (rows.map fun row => row.map erasedCell) := by
  have row : erased ∘ rowOf columns missing =
      rowOf columns missing.erased ∘ fun row => row.map erasedCell := by
    funext row
    have cells : erased ∘ cellOf row missing = cellOf (row.map erasedCell) missing.erased :=
      funext (erased_cellOf row missing)
    show (rowOf columns missing row).erased = _
    rw [rowOf, erased_parenthesized, erased_commaSeparated, List.map_map, cells]
    rfl
  rw [rowsOf, rowsOf, erased_commaSeparated, List.map_map, List.map_map, row]

/-- Cells that are written one by one, whatever is written around each. -/
theorem erased_map (change : Cell → Rendering)
    (changed : ∀ cell, (change cell).erased = change (erasedCell cell)) (cells : List Cell) :
    (cells.map change).map erased = (cells.map erasedCell).map change := by
  rw [List.map_map, List.map_map]
  exact List.map_congr_left fun cell _ => changed cell

theorem erased_renderJsonMember (cell : Cell) :
    (renderJsonMember cell).erased = renderJsonMember (erasedCell cell) :=
  erased_append _ _

theorem erased_renderAssignment (cell : Cell) :
    (renderAssignment cell).erased = renderAssignment (erasedCell cell) :=
  erased_append _ _

/-- A conflict is passed over without assignments, and erasure removes none. -/
theorem erased_renderResolution (assignments : List Cell) :
    (renderResolution assignments).erased = renderResolution (assignments.map erasedCell) := by
  rw [renderResolution, renderResolution, List.isEmpty_map]
  split
  · rfl
  · rw [erased_append, erased_commaSeparated, erased_map _ erased_renderAssignment]
    rfl

/-! ### Statements -/

/-- A query, once its clauses are rendered. -/
theorem erased_selectText (misuse : Option Misuse)
    (distinct columns target condition groupCondition : Rendering)
    (sources grouping ordering : List Rendering) (limit offset : Option UInt64) :
    (check misuse ++ ofText "SELECT " ++ distinct ++ columns ++ target
        ++ listClause " FROM " sources ++ clause " WHERE " condition
        ++ listClause " GROUP BY " grouping ++ clause " HAVING " groupCondition
        ++ listClause " ORDER BY " ordering ++ renderCount " LIMIT " limit
        ++ renderCount " OFFSET " offset).erased =
      check misuse ++ ofText "SELECT " ++ distinct.erased ++ columns.erased ++ target.erased
        ++ listClause " FROM " (sources.map erased) ++ clause " WHERE " condition.erased
        ++ listClause " GROUP BY " (grouping.map erased) ++ clause " HAVING " groupCondition.erased
        ++ listClause " ORDER BY " (ordering.map erased) ++ renderCount " LIMIT " limit
        ++ renderCount " OFFSET " offset := by
  simp only [erased_append, erased_check, erased_ofText, erased_listClause, erased_clause,
    erased_renderCount]

/-- An insertion, once its parts are rendered. Whether it speaks of conflicts is no text
of it. -/
theorem erased_insertText (misuse : Option Misuse) (table body conflict : Rendering)
    (handled : Bool) (update : List Cell) (returning : List Rendering) :
    (check misuse ++ ofText "INSERT INTO " ++ table ++ body
        ++ (if handled then ofText " ON CONFLICT" ++ conflict ++ renderResolution update else empty)
        ++ listClause " RETURNING " returning).erased =
      check misuse ++ ofText "INSERT INTO " ++ table.erased ++ body.erased
        ++ (if handled then ofText " ON CONFLICT" ++ conflict.erased
              ++ renderResolution (update.map erasedCell) else empty)
        ++ listClause " RETURNING " (returning.map erased) := by
  cases handled <;>
    simp only [Bool.false_eq_true, if_true, if_false, erased_append, erased_check, erased_ofText,
      erased_empty, erased_listClause, erased_renderResolution]

/-- An update with assignments, once its clauses are rendered. -/
theorem erased_updateText (table condition : Rendering) (assignments : List Cell)
    (sources returning : List Rendering) :
    (ofText "UPDATE " ++ table
        ++ ofText " SET " ++ commaSeparated (assignments.map renderAssignment)
        ++ listClause " FROM " sources ++ clause " WHERE " condition
        ++ listClause " RETURNING " returning).erased =
      ofText "UPDATE " ++ table.erased
        ++ ofText " SET " ++ commaSeparated ((assignments.map erasedCell).map renderAssignment)
        ++ listClause " FROM " (sources.map erased) ++ clause " WHERE " condition.erased
        ++ listClause " RETURNING " (returning.map erased) := by
  simp only [erased_append, erased_ofText, erased_commaSeparated, erased_listClause,
    erased_clause, erased_map _ erased_renderAssignment]

/-- A deletion, once its clauses are rendered. -/
theorem erased_deleteText (table condition : Rendering) (sources returning : List Rendering) :
    (ofText "DELETE FROM " ++ table ++ listClause " USING " sources
        ++ clause " WHERE " condition ++ listClause " RETURNING " returning).erased =
      ofText "DELETE FROM " ++ table.erased ++ listClause " USING " (sources.map erased)
        ++ clause " WHERE " condition.erased
        ++ listClause " RETURNING " (returning.map erased) := by
  simp only [erased_append, erased_ofText, erased_listClause, erased_clause]

/-- A list of values. Its columns come from the first row, and erasure leaves
them there. -/
theorem erased_valuesText (name : String) (first : List Cell) (rest : List (List Cell)) :
    (ofText "(VALUES " ++ rowsOf (first.map Prod.fst) (ofValue .null) (first :: rest)
        ++ ofText (") " ++ quoteName name
          ++ "(" ++ columnNames (first.map Prod.fst) ++ ")")).erased =
      ofText "(VALUES " ++ rowsOf ((first.map erasedCell).map Prod.fst) (ofValue .null)
          ((first :: rest).map fun row => row.map erasedCell)
        ++ ofText (") " ++ quoteName name
          ++ "(" ++ columnNames ((first.map erasedCell).map Prod.fst) ++ ")") := by
  rw [map_fst_erasedCell, erased_append, erased_append, erased_rowsOf]
  rfl

/-- The rows of an insertion, under the columns of the first. -/
theorem erased_rowsText (first : List Cell) (rest : List (List Cell)) :
    (ofText (" (" ++ columnNames (first.map Prod.fst) ++ ") VALUES ")
        ++ rowsOf (first.map Prod.fst) (ofText "DEFAULT") (first :: rest)).erased =
      ofText (" (" ++ columnNames ((first.map erasedCell).map Prod.fst) ++ ") VALUES ")
        ++ rowsOf ((first.map erasedCell).map Prod.fst) (ofText "DEFAULT")
          ((first :: rest).map fun row => row.map erasedCell) := by
  rw [map_fst_erasedCell, erased_append, erased_rowsOf]
  rfl

end Rendering

open Rendering

/-! ### What erasure leaves alone -/

theorem Node.isStatement_erased (context : Context) (node : Node) :
    (node.erased context).isStatement = node.isStatement := by
  cases node <;> rfl

/-- An emptied text is still a text, so it is still a name in the condition of a join if
it is unresolved. -/
theorem Operand.isText_erasedValue (context : Context) (operand : Operand) :
    (operand.erasedValue context).isText = operand.isText := by
  match operand with
  | .value scalar => cases scalar <;> rfl
  | .list _ => rfl
  | .node (.unresolved _) => rfl
  | .node (.identifier _) | .node (.literal _) | .node (.snippet _) | .node (.renamed _)
  | .node (.condition _) | .node (.comparison _) | .node (.jsonObject _) | .node (.values _)
  | .node (.sources _) | .node (.join _) | .node (.select _) | .node (.insert _)
  | .node (.update _) | .node (.delete _) => rfl

theorem Operand.isText_erasedName (context : Context) (operand : Operand) :
    (operand.erasedName context).isText = operand.isText := by
  cases operand <;> rfl

theorem Operand.isStatement_erasedValue (context : Context) (operand : Operand) :
    (operand.erasedValue context).isStatement = operand.isStatement := by
  match operand with
  | .value _ => rfl
  | .list _ => rfl
  | .node (.unresolved _) => rfl
  | .node (.identifier _) | .node (.literal _) | .node (.snippet _) | .node (.renamed _)
  | .node (.condition _) | .node (.comparison _) | .node (.jsonObject _) | .node (.values _)
  | .node (.sources _) | .node (.join _) | .node (.select _) | .node (.insert _)
  | .node (.update _) | .node (.delete _) => rfl

theorem Condition.isGroup_erased (context : Context) (condition : Condition) :
    (condition.erased context).isGroup = condition.isGroup := by
  cases condition <;> rfl

/-- An empty list is the only operand that leaves a test without text, and no list is
emptied. -/
theorem Comparison.isValid_erased (context : Context) (comparison : Comparison) :
    (comparison.erased context).isValid = comparison.isValid := by
  match comparison with
  | .relation _ _ _ | .nullity _ | .like _ _ | .between _ _ => rfl
  | .membership (.list []) _ | .membership (.list (_ :: _)) _ => rfl
  | .membership (.node _) _ | .membership (.value _) _ => rfl

mutual

/-- No scalar is among the names. -/
theorem Value.erased_renderName (value : Value) : value.renderName.erased = value.renderName := by
  match value with
  | .null | .bytes _ | .json _ => rfl
  | .bool _ | .integer _ | .float _ | .text _ | .timestamp _ | .uuid _ => rfl
  | .array items => rw [Value.renderName, erased_listed, Value.erased_renderItemNames items]

/-- The items of an array that is a name are left alone. -/
theorem Value.erased_renderItemNames (items : List Value) :
    (renderItemNames items).map Rendering.erased = renderItemNames items := by
  match items with
  | [] => rfl
  | item :: rest =>
    rw [renderItemNames, List.map_cons, item.erased_renderName,
      Value.erased_renderItemNames rest]

end

/-! ### The tree -/

mutual

/-- An operand where a value is wanted: the scalar itself is what is erased. -/
theorem Operand.renderValue_erased (context : Context) (form : ListForm) (operand : Operand) :
    (operand.erasedValue context).renderValue context form =
      (operand.renderValue context form).erased := by
  match operand with
  | .value scalar => rfl
  | .list items =>
    rw [Operand.erasedValue, Operand.renderValue, Operand.renderValue, erased_listed,
      renderValues_erased context form items]
  | .node (.unresolved inner) =>
    rw [Operand.erasedValue, Operand.renderValue, Operand.renderValue]
    by_cases names : context = .joinCondition ∧ inner.isText
    · rw [if_pos names, if_pos names, inner.isText_erasedName, if_pos names]
      exact inner.renderName_erased context
    · rw [if_neg names, if_neg names, inner.isText_erasedValue, if_neg names]
      exact inner.renderValue_erased context form
  | .node (.identifier _) | .node (.literal _) | .node (.snippet _) | .node (.renamed _)
  | .node (.condition _) | .node (.comparison _) | .node (.jsonObject _) | .node (.values _)
  | .node (.sources _) | .node (.join _) => exact Node.render_erased context _
  | .node (.select _) | .node (.insert _) | .node (.update _) | .node (.delete _) =>
    exact (congrArg parenthesized (Node.render_erased .ordinary _)).trans
      (erased_parenthesized _).symm

/-- An operand where a name is wanted keeps its scalars, and their renderings have none in
them. -/
theorem Operand.renderName_erased (context : Context) (operand : Operand) :
    (operand.erasedName context).renderName context = (operand.renderName context).erased := by
  match operand with
  | .value scalar => exact scalar.erased_renderName.symm
  | .list items =>
    rw [Operand.erasedName, Operand.renderName, Operand.renderName, erased_listed,
      renderNames_erased context items]
  | .node inner =>
    rw [Operand.erasedName, Operand.renderName, Operand.renderName]
    by_cases statement : inner.isStatement
    · rw [if_pos statement, if_pos statement, inner.isStatement_erased, if_pos statement,
        erased_parenthesized, inner.render_erased .ordinary]
    · rw [if_neg statement, if_neg statement, inner.isStatement_erased, if_neg statement]
      exact inner.render_erased context

theorem renderValues_erased (context : Context) (form : ListForm) (operands : List Operand) :
    renderValues context form (erasedValues context operands) =
      (renderValues context form operands).map erased := by
  match operands with
  | [] => rfl
  | operand :: rest =>
    rw [erasedValues, renderValues, renderValues, List.map_cons,
      operand.renderValue_erased context form, renderValues_erased context form rest]

theorem renderNames_erased (context : Context) (operands : List Operand) :
    renderNames context (erasedNames context operands) =
      (renderNames context operands).map erased := by
  match operands with
  | [] => rfl
  | operand :: rest =>
    rw [erasedNames, renderNames, renderNames, List.map_cons, operand.renderName_erased context,
      renderNames_erased context rest]

/-- The texts of a node have no say in what else it renders to. -/
theorem Node.render_erased (context : Context) (node : Node) :
    (node.erased context).render context = (node.render context).erased := by
  match node with
  | .identifier _ => rfl
  | .literal ⟨value, none⟩ => rfl
  | .literal ⟨value, some type⟩ =>
    exact (erased_append (ofValue value) (ofText ("::" ++ type))).symm
  | .snippet snippet => exact snippet.render_erased context
  | .unresolved _ => rfl
  | .renamed item => exact item.render_erased context
  | .condition condition => exact condition.render_erased context
  | .comparison comparison => exact comparison.render_erased context
  | .jsonObject object => exact object.render_erased context
  | .values list => exact list.render_erased context
  | .sources list => exact list.render_erased context
  | .join join => exact join.render_erased context
  | .select statement => exact statement.render_erased context
  | .insert statement => exact statement.render_erased context
  | .update statement => exact statement.render_erased context
  | .delete statement => exact statement.render_erased context

theorem Snippet.render_erased (context : Context) (snippet : Snippet) :
    (snippet.erased context).render context = (snippet.render context).erased := by
  match snippet with
  | ⟨head, slots, misuse⟩ =>
    rw [Snippet.erased, Snippet.render, Snippet.render, erased_append, erased_append, erased_check,
      erased_ofText, renderSlots_erased context slots]

theorem renderSlots_erased (context : Context) (slots : List Slot) :
    renderSlots context (erasedSlots context slots) = (renderSlots context slots).erased := by
  match slots with
  | [] => rfl
  | ⟨operand, after⟩ :: rest =>
    rw [erasedSlots, renderSlots, renderSlots, erased_append, erased_append, erased_ofText,
      operand.renderValue_erased context .array, renderSlots_erased context rest]

theorem Renaming.render_erased (context : Context) (item : Renaming) :
    (item.erased context).render context = (item.render context).erased := by
  match item with
  | ⟨target, name⟩ =>
    rw [Renaming.erased, Renaming.render, Renaming.render, erased_append, erased_ofText,
      target.renderName_erased context]

/-- A condition: which members are left out and which are put in parentheses does not
change. -/
theorem Condition.render_erased (context : Context) (condition : Condition) :
    (condition.erased context).render context = (condition.render context).erased := by
  match condition with
  | .all members | .any members =>
    rw [Condition.erased, Condition.render, Condition.render, erased_joinPresent,
      renderMembers_erased context members]
  | .negation inner =>
    rw [Condition.erased, Condition.render, Condition.render, inner.render_erased context]
    refine (erased_ifPresent _ _ ?_).symm
    rw [erased_append, erased_parenthesized, erased_ofText]
  | .existence query =>
    rw [Condition.erased, Condition.render, Condition.render, erased_append, erased_ofText,
      erased_parenthesized, query.isStatement_erased, query.render_erased]
  | .test column comparison =>
    rw [Condition.erased, Condition.render, Condition.render, comparison.isValid_erased]
    split
    · rw [erased_append, erased_append, erased_ofText, column.renderName_erased context,
        comparison.render_erased context]
    · rfl
  | .plain inner => exact inner.render_erased context

theorem renderMembers_erased (context : Context) (members : List Condition) :
    renderMembers context (erasedMembers context members) =
      (renderMembers context members).map erased := by
  match members with
  | [] => rfl
  | member :: rest =>
    rw [erasedMembers, renderMembers, renderMembers, List.map_cons, member.isGroup_erased,
      renderMembers_erased context rest, member.render_erased context]
    split
    · rw [erased_ifPresent _ _ (erased_parenthesized _)]
    · rfl

/-- A comparison without its column. Lists are taken apart, because an empty one has no
text. -/
theorem Comparison.render_erased (context : Context) (comparison : Comparison) :
    (comparison.erased context).render context = (comparison.render context).erased := by
  match comparison with
  | .relation relation operand none =>
    rw [Comparison.erased, Comparison.render, Comparison.render, erased_append, erased_ofText,
      operand.renderValue_erased context .array]
  | .relation relation operand (some quantifier) =>
    rw [Comparison.erased, Comparison.render, Comparison.render, erased_append, erased_ofText,
      operand.renderValue_erased context .array, operand.isStatement_erasedValue]
    split
    · rfl
    · rw [erased_parenthesized]
  | .nullity negated => rfl
  | .like pattern insensitive =>
    rw [Comparison.erased, Comparison.render, Comparison.render, erased_append, erased_ofText,
      pattern.renderValue_erased context .array]
  | .between low high =>
    rw [Comparison.erased, Comparison.render, Comparison.render, erased_append, erased_append,
      erased_append, erased_ofText, erased_ofText, low.renderValue_erased context .array,
      high.renderValue_erased context .array]
  | .membership (.list []) negated => rfl
  | .membership (.list (first :: rest)) negated =>
    rw [Comparison.erased, erasedValues, Comparison.render, Comparison.render, erased_append,
      erased_ofText, erased_listed, List.map_cons, first.renderValue_erased context .row,
      renderValues_erased context .row rest]
  | .membership (.node inner) negated =>
    rw [Comparison.erased, Comparison.render, Comparison.render, erased_append, erased_ofText,
      erased_parenthesized, inner.isStatement_erased, inner.render_erased]
  | .membership (.value scalar) negated =>
    rw [Comparison.erased, Comparison.render, Comparison.render, erased_append, erased_ofText,
      erased_parenthesized]
    rfl

theorem ColumnMap.cells_erased (context : Context) (map : ColumnMap) :
    (map.erasedValues context).cells context = (map.cells context).map erasedCell := by
  match map with
  | ⟨fields⟩ => exact renderCells_erased context fields

theorem renderCells_erased (context : Context) (fields : List Field) :
    renderCells context (erasedFields context fields) =
      (renderCells context fields).map erasedCell := by
  match fields with
  | [] => rfl
  | ⟨column, operand⟩ :: rest =>
    rw [erasedFields, renderCells, renderCells, List.map_cons,
      operand.renderValue_erased context .array, renderCells_erased context rest]
    rfl

theorem ColumnMap.nameCells_erased (context : Context) (map : ColumnMap) :
    (map.erasedNames context).nameCells context = (map.nameCells context).map erasedCell := by
  match map with
  | ⟨fields⟩ => exact renderNameCells_erased context fields

theorem renderNameCells_erased (context : Context) (fields : List Field) :
    renderNameCells context (erasedNameFields context fields) =
      (renderNameCells context fields).map erasedCell := by
  match fields with
  | [] => rfl
  | ⟨column, operand⟩ :: rest =>
    rw [erasedNameFields, renderNameCells, renderNameCells, List.map_cons,
      operand.renderName_erased context, renderNameCells_erased context rest]
    rfl

theorem renderItems_erased (context : Context) (qualifier : Option String)
    (items : List JsonItem) :
    renderItems context qualifier (erasedJsonItems context items) =
      (renderItems context qualifier items).map erased := by
  match items with
  | [] => rfl
  | .key key :: rest =>
    rw [erasedJsonItems, renderItems, renderItems, List.map_cons,
      renderItems_erased context qualifier rest]
    rfl
  | .keys keys :: rest =>
    have texts : (keys.map (renderJsonKey qualifier)).map erased =
        keys.map (renderJsonKey qualifier) := by
      rw [List.map_map]
      rfl
    rw [erasedJsonItems, renderItems, renderItems, List.map_append, texts,
      renderItems_erased context qualifier rest]
  | .map columns :: rest =>
    rw [erasedJsonItems, renderItems, renderItems, List.map_append,
      erased_map _ erased_renderJsonMember, columns.nameCells_erased context,
      renderItems_erased context qualifier rest]

theorem JsonObject.render_erased (context : Context) (object : JsonObject) :
    (object.erased context).render context = (object.render context).erased := by
  match object with
  | ⟨items, qualifier, binary⟩ =>
    rw [JsonObject.erased, JsonObject.render, JsonObject.render, erased_append, erased_ofText,
      erased_parenthesized, erased_commaSeparated, renderItems_erased context qualifier items]

theorem renderRows_erased (context : Context) (rows : List ColumnMap) :
    renderRows context (erasedRows context rows) =
      (renderRows context rows).map fun row => row.map erasedCell := by
  match rows with
  | [] => rfl
  | row :: rest =>
    rw [erasedRows, renderRows, renderRows, List.map_cons, row.cells_erased context,
      renderRows_erased context rest]

/-- A list of values fails for the same reasons after the erasure as before it. -/
theorem ValuesList.render_erased (context : Context) (list : ValuesList) :
    (list.erased context).render context = (list.render context).erased := by
  match list with
  | ⟨rows, name⟩ =>
    unfold ValuesList.erased ValuesList.render
    rw [renderRows_erased context rows]
    match name, renderRows context rows with
    | none, _ => rfl
    | some _, [] => rfl
    | some _, [] :: _ => rfl
    | some name, (first :: others) :: rest =>
      exact (erased_valuesText name (first :: others) rest).symm

/-- A joined table. Its condition was erased in the context in which it is rendered. -/
theorem Join.render_erased (context : Context) (join : Join) :
    (join.erased context).render context = (join.render context).erased := by
  match join with
  | ⟨kind, table, condition⟩ =>
    rw [Join.erased, Join.render, Join.render, erased_append, erased_append, erased_ofText,
      erased_clause, table.renderName_erased context, condition.render_erased .joinCondition]

theorem renderJoins_erased (context : Context) (joins : List Join) :
    renderJoins context (erasedJoins context joins) = (renderJoins context joins).erased := by
  match joins with
  | [] => rfl
  | join :: rest =>
    rw [erasedJoins, renderJoins, renderJoins, erased_append, erased_append, erased_ofText,
      join.render_erased context, renderJoins_erased context rest]

theorem renderSources_erased (context : Context) (sources : List Source) :
    renderSources context (erasedSources context sources) =
      (renderSources context sources).map erased := by
  match sources with
  | [] => rfl
  | ⟨table, joins⟩ :: rest =>
    rw [erasedSources, renderSources, renderSources, List.map_cons, erased_append,
      table.renderName_erased context, renderJoins_erased context joins,
      renderSources_erased context rest]

theorem SourceList.render_erased (context : Context) (list : SourceList) :
    (list.erased context).render context = (list.render context).erased := by
  match list with
  | ⟨sources, misuse⟩ =>
    rw [SourceList.erased, SourceList.render, SourceList.render, erased_append, erased_check,
      erased_commaSeparated, renderSources_erased context sources]

theorem renderOrderKeys_erased (context : Context) (keys : List OrderKey) :
    renderOrderKeys context (erasedOrderKeys context keys) =
      (renderOrderKeys context keys).map erased := by
  match keys with
  | [] => rfl
  | ⟨key, none⟩ :: rest =>
    rw [erasedOrderKeys, renderOrderKeys, renderOrderKeys, List.map_cons,
      renderOrderKeys_erased context rest]
    exact congrArg (· :: _) (key.renderName_erased context)
  | ⟨key, some direction⟩ :: rest =>
    rw [erasedOrderKeys, renderOrderKeys, renderOrderKeys, List.map_cons,
      renderOrderKeys_erased context rest, erased_append, erased_ofText,
      key.renderName_erased context]

/-- Keys of distinct rows. An empty list of them means something else than none. -/
theorem renderDistinct_erased (context : Context) (distinct : Option (List Operand)) :
    renderDistinct context (erasedOptionalNames context distinct) =
      (renderDistinct context distinct).erased := by
  match distinct with
  | none => rfl
  | some [] => rfl
  | some (first :: rest) =>
    rw [erasedOptionalNames, erasedNames, renderDistinct, renderDistinct, erased_append,
      erased_append, erased_ofText, erased_ofText, erased_listed, List.map_cons,
      first.renderName_erased context, renderNames_erased context rest]

theorem renderColumns_erased (context : Context) (columns : List Operand) :
    renderColumns context (erasedNames context columns) =
      (renderColumns context columns).erased := by
  match columns with
  | [] => rfl
  | first :: rest =>
    rw [erasedNames, renderColumns, renderColumns, erased_commaSeparated, List.map_cons,
      first.renderName_erased context, renderNames_erased context rest]

theorem renderTarget_erased (context : Context) (target : Option Operand) :
    renderTarget context (erasedTarget context target) = (renderTarget context target).erased := by
  match target with
  | none => rfl
  | some table =>
    rw [erasedTarget, renderTarget, renderTarget, erased_append, erased_ofText,
      table.renderName_erased context]

theorem Select.render_erased (context : Context) (statement : Select) :
    (statement.erased context).render context = (statement.render context).erased := by
  match statement with
  | ⟨columns, distinct, target, ⟨sources, misuse⟩, condition, grouping, groupCondition,
      ordering, limit, offset⟩ =>
    rw [Select.erased, Select.render, Select.render, erased_selectText,
      renderDistinct_erased context distinct, renderColumns_erased context columns,
      renderTarget_erased context target, renderSources_erased context sources,
      condition.render_erased context, renderNames_erased context grouping,
      groupCondition.render_erased context, renderOrderKeys_erased context ordering]

/-- The body of an insertion under columns that are rendered by then. -/
theorem InsertBody.render_erased (context : Context) (columns : List Rendering)
    (body : InsertBody) :
    (body.erased context).render context (columns.map erased) =
      (body.render context columns).erased := by
  match body with
  | .query query =>
    rw [InsertBody.erased, InsertBody.render, InsertBody.render, erased_append, erased_append,
      erased_ofText, query.isStatement_erased, query.render_erased, List.isEmpty_map]
    split
    · rfl
    · rw [erased_append, erased_ofText, erased_listed]
  | .rows rows =>
    unfold InsertBody.erased InsertBody.render
    rw [renderRows_erased context rows]
    match renderRows context rows with
    | [] => rfl
    | [] :: _ => rfl
    | (first :: others) :: rest =>
      exact (erased_rowsText (first :: others) rest).symm

/-- What a conflict is about. -/
theorem renderConflict_erased (context : Context) (constraint : Option String)
    (conflict : Option (List Operand)) :
    renderConflict context constraint (erasedOptionalNames context conflict) =
      (renderConflict context constraint conflict).erased := by
  match constraint, conflict with
  | some name, _ =>
    unfold renderConflict
    rfl
  | none, some (first :: rest) =>
    rw [erasedOptionalNames, erasedNames, renderConflict, renderConflict, erased_append,
      erased_ofText, erased_listed, List.map_cons, first.renderName_erased context,
      renderNames_erased context rest]
  | none, some [] => rfl
  | none, none => rfl

/-- An insertion. -/
theorem Insert.render_erased (context : Context) (statement : Insert) :
    (statement.erased context).render context = (statement.render context).erased := by
  match statement with
  | ⟨table, columns, body, conflict, constraint, update, returning, misuse⟩ =>
    rw [Insert.erased, Insert.render, Insert.render, erased_insertText,
      table.renderName_erased context, renderNames_erased context columns,
      InsertBody.render_erased context _ body, renderConflict_erased context constraint conflict,
      update.cells_erased context, renderNames_erased context returning]
    cases conflict <;> rfl

/-- An update. -/
theorem Update.render_erased (context : Context) (statement : Update) :
    (statement.erased context).render context = (statement.render context).erased := by
  match statement with
  | ⟨table, assignments, sources, condition, returning⟩ =>
    unfold Update.erased Update.render
    rw [assignments.cells_erased context]
    match assignments.cells context with
    | [] => rfl
    | cell :: rest =>
      dsimp only [List.map_cons]
      rw [erased_updateText, table.renderName_erased context, renderNames_erased context sources,
        condition.render_erased context, renderNames_erased context returning]
      rfl

theorem Delete.render_erased (context : Context) (statement : Delete) :
    (statement.erased context).render context = (statement.render context).erased := by
  match statement with
  | ⟨table, sources, condition, returning⟩ =>
    rw [Delete.erased, Delete.render, Delete.render, erased_deleteText,
      table.renderName_erased context, renderNames_erased context sources,
      condition.render_erased context, renderNames_erased context returning]

end

end SqlTree
