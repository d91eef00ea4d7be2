/-
This file proves that no tree hides what a builder in it has recorded. If a part
of a tree that is written holds a builder with a misuse, at any depth, the tree
fails to be written in both ways. The parts that are never written do hide a
misuse; for each kind of them there is a tree that shows it.

A rendering fails with each of its parts, as the first lemmas have it for every
way to put renderings together. So it is enough to find a part that is written and
fails, and the question for misuses, which runs through the tree in the same way
as the rendering, leads to one. It is no question about texts: a part that turns
out to have no text is rendered all the same, and a rendering that fails is never
taken for one without text. Which parts are not rendered is the whole difficulty.
Rows are the only place where it takes an argument, since the first row decides
for the later ones.
-/

import SqlTree.Proofs.Legible
import SqlTree.Proofs.Misuse.Tree
import SqlTree.Proofs.Modes
import SqlTree.Tree.Change
import SqlTree.Tree.Query
import SqlTree.Tree.Snippet

namespace SqlTree

namespace Rendering

/-- Whether the rendering ends in a fault. -/
def fails (rendering : Rendering) : Bool :=
  rendering.fault.isSome

/-- A whole fails with either of its parts. -/
@[simp] theorem fails_append (first second : Rendering) :
    (first ++ second).fails = (first.fails || second.fails) := by
  show (append first second).fails = _
  obtain ⟨pieces, fault⟩ := first
  cases fault <;> rfl

@[simp] theorem fails_empty : empty.fails = false := rfl

@[simp] theorem fails_ofText (text : String) : (ofText text).fails = false := rfl

@[simp] theorem fails_ofValue (value : Value) : (ofValue value).fails = false := rfl

@[simp] theorem fails_fail (fault : Fault) : (fail fault).fails = true := rfl

/-- A builder fails if it has recorded something. -/
@[simp] theorem fails_check (misuse : Option Misuse) : (check misuse).fails = misuse.isSome := by
  cases misuse <;> rfl

/-- What fails is not left out for want of a text. -/
theorem isBlank_eq_false_of_fails {rendering : Rendering} (fails : rendering.fails) :
    rendering.isBlank = false := by
  obtain ⟨pieces, fault⟩ := rendering
  cases fault with
  | none => cases fails
  | some fault => rfl

/-- A rendering that fails is never taken for one without text. -/
theorem fails_ifPresent {rendering : Rendering} {change : Rendering → Rendering}
    (kept : (change rendering).fails = rendering.fails) :
    (rendering.ifPresent change).fails = rendering.fails := by
  unfold ifPresent
  split
  · next blank =>
    cases fails : rendering.fails with
    | false => rfl
    | true => rw [isBlank_eq_false_of_fails fails] at blank; cases blank
  · exact kept

/-- A list fails with one of its items. -/
@[simp] theorem fails_join (separator : String) (renderings : List Rendering) :
    (join separator renderings).fails = renderings.any fails := by
  induction renderings with
  | nil => rfl
  | cons rendering rest inductionHypothesis =>
    cases rest with
    | nil => exact (Bool.or_false _).symm
    | cons next others =>
      show (rendering ++ ofText separator ++ join separator (next :: others)).fails = _
      rw [fails_append, fails_append, fails_ofText, Bool.or_false, inductionHypothesis]
      rfl

/-- No fault is left out with the parts that have no text. -/
@[simp] theorem fails_joinPresent (separator : String) (renderings : List Rendering) :
    (joinPresent separator renderings).fails = renderings.any fails := by
  rw [joinPresent, fails_join, List.any_filter]
  congr 1
  funext rendering
  cases fails : rendering.fails with
  | false => exact Bool.and_false _
  | true => rw [isBlank_eq_false_of_fails fails]; rfl

@[simp] theorem fails_commaSeparated (renderings : List Rendering) :
    (commaSeparated renderings).fails = renderings.any fails :=
  fails_join ", " renderings

@[simp] theorem fails_parenthesized (rendering : Rendering) :
    (parenthesized rendering).fails = rendering.fails := by
  simp [parenthesized]

@[simp] theorem fails_listed (form : ListForm) (items : List Rendering) :
    (listed form items).fails = items.any fails := by
  cases form <;> simp [listed]

/-- A clause fails with what is in it, whether it gets its keyword or not. -/
@[simp] theorem fails_clause (keyword : String) (rendering : Rendering) :
    (clause keyword rendering).fails = rendering.fails :=
  fails_ifPresent (by simp)

@[simp] theorem fails_listClause (keyword : String) (items : List Rendering) :
    (listClause keyword items).fails = items.any fails := by
  cases items <;> simp [listClause]

@[simp] theorem fails_renderCount (keyword : String) (count : Option UInt64) :
    (renderCount keyword count).fails = false := by
  cases count <;> rfl

/-! ### Cells -/

/-- Rows fail with a cell under one of the columns, and with no other cell. -/
@[simp] theorem fails_rowsOf (columns : List String) (missing : Rendering)
    (rows : List (List Cell)) :
    (rowsOf columns missing rows).fails =
      rows.any fun row => columns.any fun column => (cellOf row missing column).fails := by
  simp [rowsOf, rowOf, List.any_map, Function.comp_def]

@[simp] theorem fails_renderJsonMember (cell : Cell) :
    (renderJsonMember cell).fails = cell.2.fails := by
  simp [renderJsonMember]

@[simp] theorem fails_renderAssignment (cell : Cell) :
    (renderAssignment cell).fails = cell.2.fails := by
  simp [renderAssignment]

/-- Assignments on a conflict fail with one of their operands. -/
@[simp] theorem fails_renderResolution (assignments : List Cell) :
    (renderResolution assignments).fails = assignments.any fun cell => cell.2.fails := by
  cases assignments <;> simp [renderResolution, List.any_map, Function.comp_def]

end Rendering

open Rendering

/-- Nothing but its column can be wrong with a test that has no text. -/
theorem Comparison.hasMisuse_of_invalid (comparison : Comparison)
    (invalid : comparison.isValid = false) : comparison.hasMisuse false = false := by
  match comparison with
  | .relation _ _ _ | .nullity _ | .like _ _ | .between _ _ => cases invalid
  | .membership (.list (_ :: _)) _ | .membership (.node _) _ | .membership (.value _) _ =>
    cases invalid
  | .membership (.list []) _ => rfl

/-- The columns of the cells are those of the fields. -/
theorem map_fst_renderCells (context : Context) (fields : List Field) :
    (renderCells context fields).map Prod.fst = fields.map Field.column :=
  ColumnMap.map_fst_cells context ⟨fields⟩

/-- The first field of a column is the one that is written. -/
theorem cellOf_cons_self (column : String) (rendering missing : Rendering) (row : List Cell) :
    cellOf ((column, rendering) :: row) missing column = rendering := by
  simp [cellOf]

/-- A field of another column does not count. -/
theorem cellOf_cons_of_ne {column other : String} (differs : other ≠ column)
    (rendering missing : Rendering) (row : List Cell) :
    cellOf ((column, rendering) :: row) missing other = cellOf row missing other := by
  simp [cellOf, differs.symm]

/-- What an insertion does about conflicts fails if a part of it fails that is
written. -/
theorem fails_handling (context : Context) (constraint : Option String)
    {conflict : Option (List Operand)} {assignments : List Cell} {inConflict inUpdate : Bool}
    (conflictFails : inConflict → (renderConflict context none conflict).fails)
    (updateFails : inUpdate → assignments.any fun cell => cell.2.fails)
    (misused : constraint.isNone && inConflict
      || (conflict.isSome || constraint.isSome) && inUpdate) :
    (if conflict.isSome || constraint.isSome then
      ofText " ON CONFLICT" ++ renderConflict context constraint conflict
        ++ renderResolution assignments
      else empty).fails := by
  rw [Bool.or_eq_true] at misused
  cases constraint with
  | some name =>
    have inUpdate := misused.resolve_left Bool.false_ne_true
    rw [Option.isSome_some, Bool.or_true] at inUpdate ⊢
    rw [if_pos rfl, fails_append, fails_renderResolution, Bool.or_eq_true]
    exact Or.inr (updateFails inUpdate)
  | none =>
    cases conflict with
    | none => cases conflictFails (misused.resolve_right Bool.false_ne_true)
    | some columns =>
      simp only [Option.isSome_some, Bool.true_or, if_true, fails_append, fails_ofText,
        Bool.false_or, fails_renderResolution, Bool.or_eq_true]
      exact misused.imp conflictFails updateFails

/-! ### The tree -/

mutual

/-- An operand where a value is wanted. -/
theorem Operand.fails_renderValue (context : Context) (form : ListForm) (operand : Operand)
    (misused : operand.hasMisuse false) : (operand.renderValue context form).fails := by
  match operand with
  | .value _ => cases misused
  | .list items =>
    rw [Operand.renderValue, fails_listed]
    exact fails_renderValues context form items misused
  | .node (.unresolved inner) =>
    rw [Operand.renderValue]
    split
    · exact inner.fails_renderName context misused
    · exact inner.fails_renderValue context form misused
  | .node (.identifier _) | .node (.literal _) | .node (.snippet _) | .node (.renamed _)
  | .node (.condition _) | .node (.comparison _) | .node (.jsonObject _) | .node (.values _)
  | .node (.sources _) | .node (.join _) => exact Node.fails_render context _ misused
  | .node (.select _) | .node (.insert _) | .node (.update _) | .node (.delete _) =>
    exact (fails_parenthesized _).trans (Node.fails_render .ordinary _ misused)

/-- An operand where a name is wanted. -/
theorem Operand.fails_renderName (context : Context) (operand : Operand)
    (misused : operand.hasMisuse false) : (operand.renderName context).fails := by
  match operand with
  | .value _ => cases misused
  | .list items =>
    rw [Operand.renderName, fails_listed]
    exact fails_renderNames context items misused
  | .node inner =>
    rw [Operand.renderName]
    split
    · exact (fails_parenthesized _).trans (inner.fails_render .ordinary misused)
    · exact inner.fails_render context misused

theorem fails_renderValues (context : Context) (form : ListForm) (operands : List Operand)
    (misused : haveMisuse false operands) :
    (renderValues context form operands).any Rendering.fails := by
  match operands with
  | [] => cases misused
  | operand :: rest =>
    rw [haveMisuse, Bool.or_eq_true] at misused
    rw [renderValues, List.any_cons, Bool.or_eq_true]
    exact misused.imp (operand.fails_renderValue context form)
      (fails_renderValues context form rest)

theorem fails_renderNames (context : Context) (operands : List Operand)
    (misused : haveMisuse false operands) : (renderNames context operands).any Rendering.fails := by
  match operands with
  | [] => cases misused
  | operand :: rest =>
    rw [haveMisuse, Bool.or_eq_true] at misused
    rw [renderNames, List.any_cons, Bool.or_eq_true]
    exact misused.imp (operand.fails_renderName context) (fails_renderNames context rest)

/-- A node fails if a builder in a part of it that is written has recorded a
misuse. -/
theorem Node.fails_render (context : Context) (node : Node) (misused : node.hasMisuse false) :
    (node.render context).fails := by
  match node with
  | .identifier _ | .literal _ => cases misused
  | .snippet snippet => exact snippet.fails_render context misused
  | .unresolved _ => exact fails_fail .unresolved
  | .renamed item => exact item.fails_render context misused
  | .condition condition => exact condition.fails_render context misused
  | .comparison comparison => exact comparison.fails_render context misused
  | .jsonObject object => exact object.fails_render context misused
  | .values list => exact list.fails_render context misused
  | .sources list => exact list.fails_render context misused
  | .join join => exact join.fails_render context misused
  | .select statement => exact statement.fails_render context misused
  | .insert statement => exact statement.fails_render context misused
  | .update statement => exact statement.fails_render context misused
  | .delete statement => exact statement.fails_render context misused

/-- A snippet fails with what it has recorded, or with one of its operands. -/
theorem Snippet.fails_render (context : Context) (snippet : Snippet)
    (misused : snippet.hasMisuse false) : (snippet.render context).fails := by
  match snippet with
  | ⟨head, slots, misuse⟩ =>
    rw [Snippet.hasMisuse, Bool.or_eq_true] at misused
    simp only [Snippet.render, fails_append, fails_check, fails_ofText, Bool.or_false,
      Bool.or_eq_true]
    exact misused.imp_right (fails_renderSlots context slots)

theorem fails_renderSlots (context : Context) (slots : List Slot)
    (misused : slotsHaveMisuse false slots) : (renderSlots context slots).fails := by
  match slots with
  | [] => cases misused
  | ⟨operand, after⟩ :: rest =>
    rw [slotsHaveMisuse, Bool.or_eq_true] at misused
    simp only [renderSlots, fails_append, fails_ofText, Bool.or_false, Bool.or_eq_true]
    exact misused.imp (operand.fails_renderValue context .array) (fails_renderSlots context rest)

theorem Renaming.fails_render (context : Context) (item : Renaming)
    (misused : item.hasMisuse false) : (item.render context).fails := by
  match item with
  | ⟨target, name⟩ =>
    rw [Renaming.render, fails_append, Bool.or_eq_true]
    exact Or.inl (target.fails_renderName context misused)

/-- A condition. A test with an empty list is not written, and nothing in it counts. -/
theorem Condition.fails_render (context : Context) (condition : Condition)
    (misused : condition.hasMisuse false) : (condition.render context).fails := by
  match condition with
  | .all members | .any members =>
    rw [Condition.render, fails_joinPresent]
    exact fails_renderMembers context members misused
  | .negation inner =>
    rw [Condition.render, fails_ifPresent (by simp)]
    exact inner.fails_render context misused
  | .existence query =>
    rw [Condition.render, fails_append, fails_parenthesized, Bool.or_eq_true]
    exact Or.inr (query.fails_render _ misused)
  | .test column comparison =>
    cases valid : comparison.isValid with
    | false =>
      rw [Condition.hasMisuse, valid, comparison.hasMisuse_of_invalid valid] at misused
      cases misused
    | true =>
      rw [Condition.hasMisuse, valid] at misused
      simp only [Bool.or_true, Bool.true_and, Bool.or_eq_true] at misused
      rw [Condition.render, if_pos valid]
      simp only [fails_append, fails_ofText, Bool.or_false, Bool.or_eq_true]
      exact misused.imp (column.fails_renderName context) (comparison.fails_render context)
  | .plain inner => exact inner.fails_render context misused

/-- A member that fails keeps its place in the group. -/
theorem fails_renderMembers (context : Context) (members : List Condition)
    (misused : membersHaveMisuse false members) :
    (renderMembers context members).any Rendering.fails := by
  match members with
  | [] => cases misused
  | member :: rest =>
    rw [membersHaveMisuse, Bool.or_eq_true] at misused
    rw [renderMembers, List.any_cons, Bool.or_eq_true]
    refine misused.imp (fun inMember => ?_) (fails_renderMembers context rest)
    split
    · exact (fails_ifPresent (fails_parenthesized _)).trans (member.fails_render context inMember)
    · exact member.fails_render context inMember

/-- What a column is compared with. -/
theorem Comparison.fails_render (context : Context) (comparison : Comparison)
    (misused : comparison.hasMisuse false) : (comparison.render context).fails := by
  match comparison with
  | .relation relation operand none =>
    rw [Comparison.render, fails_append, Bool.or_eq_true]
    exact Or.inr (operand.fails_renderValue context .array misused)
  | .relation relation operand (some quantifier) =>
    have fails := operand.fails_renderValue context .array misused
    rw [Comparison.render, fails_append, Bool.or_eq_true]
    refine Or.inr ?_
    split
    · exact fails
    · exact (fails_parenthesized _).trans fails
  | .nullity _ => cases misused
  | .like pattern insensitive =>
    rw [Comparison.render, fails_append, Bool.or_eq_true]
    exact Or.inr (pattern.fails_renderValue context .array misused)
  | .between low high =>
    rw [Comparison.hasMisuse, Bool.or_eq_true] at misused
    simp only [Comparison.render, fails_append, fails_ofText, Bool.false_or, Bool.or_false,
      Bool.or_eq_true]
    exact misused.imp (low.fails_renderValue context .array) (high.fails_renderValue context .array)
  | .membership (.list []) _ | .membership (.value _) _ => cases misused
  | .membership (.list (first :: rest)) negated =>
    rw [Comparison.hasMisuse, Operand.hasMisuse, haveMisuse, Bool.or_eq_true] at misused
    simp only [Comparison.render, fails_append, fails_ofText, fails_listed, List.any_cons,
      Bool.false_or, Bool.or_eq_true]
    exact misused.imp (first.fails_renderValue context .row) (fails_renderValues context .row rest)
  | .membership (.node inner) negated =>
    rw [Comparison.render, fails_append, fails_parenthesized, Bool.or_eq_true]
    exact Or.inr (inner.fails_render _ misused)

theorem ColumnMap.fails_cells (context : Context) (map : ColumnMap)
    (misused : map.hasMisuse false) : (map.cells context).any fun cell => cell.2.fails := by
  match map with
  | ⟨fields⟩ => exact fails_renderCells context fields misused

/-- A row fails with one of its operands, where all of them are written. -/
theorem fails_renderCells (context : Context) (fields : List Field)
    (misused : fieldsHaveMisuse false fields) :
    (renderCells context fields).any fun cell => cell.2.fails := by
  match fields with
  | [] => cases misused
  | ⟨column, operand⟩ :: rest =>
    rw [fieldsHaveMisuse, Bool.or_eq_true] at misused
    rw [renderCells, List.any_cons, Bool.or_eq_true]
    exact misused.imp (operand.fails_renderValue context .array) (fails_renderCells context rest)

theorem ColumnMap.fails_nameCells (context : Context) (map : ColumnMap)
    (misused : map.hasMisuse false) : (map.nameCells context).any fun cell => cell.2.fails := by
  match map with
  | ⟨fields⟩ => exact fails_renderNameCells context fields misused

theorem fails_renderNameCells (context : Context) (fields : List Field)
    (misused : fieldsHaveMisuse false fields) :
    (renderNameCells context fields).any fun cell => cell.2.fails := by
  match fields with
  | [] => cases misused
  | ⟨column, operand⟩ :: rest =>
    rw [fieldsHaveMisuse, Bool.or_eq_true] at misused
    rw [renderNameCells, List.any_cons, Bool.or_eq_true]
    exact misused.imp (operand.fails_renderName context) (fails_renderNameCells context rest)

/-- A row under the columns of another one. The induction is on its fields; a column that
is found is no longer looked for, so the later fields of this column do not count. -/
theorem fails_cellOf (context : Context) (missing : Rendering) (columns : List String)
    (fields : List Field) (misused : rowHasMisuse false columns fields) :
    columns.any fun column => (cellOf (renderCells context fields) missing column).fails := by
  match fields with
  | [] => cases misused
  | ⟨column, operand⟩ :: rest =>
    rw [rowHasMisuse, Bool.false_or, Bool.or_eq_true, Bool.and_eq_true] at misused
    rw [renderCells, List.any_eq_true]
    obtain ⟨wanted, inOperand⟩ | inRest := misused
    · refine ⟨column, List.contains_iff_mem.mp wanted, ?_⟩
      rw [cellOf_cons_self]
      exact operand.fails_renderValue context .array inOperand
    · have laterFails := fails_cellOf context missing _ rest inRest
      obtain ⟨later, wanted, fails⟩ := List.any_eq_true.mp laterFails
      obtain ⟨wanted, differs⟩ := List.mem_filter.mp wanted
      refine ⟨later, wanted, ?_⟩
      rwa [cellOf_cons_of_ne (of_decide_eq_true differs)]

/-- Later rows under the columns of the first. -/
theorem fails_renderRows (context : Context) (missing : Rendering) (columns : List String)
    (rows : List ColumnMap) (misused : rowsHaveMisuse false columns rows) :
    (renderRows context rows).any fun row =>
      columns.any fun column => (cellOf row missing column).fails := by
  match rows with
  | [] => cases misused
  | ⟨fields⟩ :: rest =>
    rw [rowsHaveMisuse, Bool.or_eq_true] at misused
    rw [renderRows, List.any_cons, Bool.or_eq_true]
    exact misused.imp (fails_cellOf context missing columns fields)
      (fails_renderRows context missing columns rest)

/-- Rows under the columns of the first one. -/
theorem fails_renderTable (context : Context) (missing : Rendering) (rows : List ColumnMap)
    (misused : tableHasMisuse false rows) :
    ∃ first rest, renderRows context rows = first :: rest ∧
      (rowsOf (first.map Prod.fst) missing (first :: rest)).fails := by
  match rows with
  | [] => cases misused
  | ⟨fields⟩ :: rest =>
    rw [tableHasMisuse, Bool.or_eq_true] at misused
    refine ⟨renderCells context fields, renderRows context rest, rfl, ?_⟩
    rw [map_fst_renderCells, fails_rowsOf, List.any_cons, Bool.or_eq_true]
    exact misused.imp (fails_cellOf context missing _ fields)
      (fails_renderRows context missing _ rest)

theorem fails_renderItems (context : Context) (qualifier : Option String) (items : List JsonItem)
    (misused : itemsHaveMisuse false items) :
    (renderItems context qualifier items).any Rendering.fails := by
  match items with
  | [] => cases misused
  | .key _ :: rest =>
    rw [renderItems, List.any_cons, Bool.or_eq_true]
    exact Or.inr (fails_renderItems context qualifier rest misused)
  | .keys _ :: rest =>
    rw [renderItems, List.any_append, Bool.or_eq_true]
    exact Or.inr (fails_renderItems context qualifier rest misused)
  | .map columns :: rest =>
    rw [itemsHaveMisuse, Bool.or_eq_true] at misused
    rw [renderItems, List.any_append, List.any_map, Bool.or_eq_true]
    refine misused.imp (fun inColumns => ?_) (fails_renderItems context qualifier rest)
    simpa only [Function.comp_def, fails_renderJsonMember] using
      columns.fails_nameCells context inColumns

theorem JsonObject.fails_render (context : Context) (object : JsonObject)
    (misused : object.hasMisuse false) : (object.render context).fails := by
  match object with
  | ⟨items, qualifier, binary⟩ =>
    rw [JsonObject.render, fails_append, fails_parenthesized, fails_commaSeparated,
      Bool.or_eq_true]
    exact Or.inr (fails_renderItems context qualifier items misused)

/-- A list of values without a name or columns fails in any case. -/
theorem ValuesList.fails_render (context : Context) (list : ValuesList)
    (misused : list.hasMisuse false) : (list.render context).fails := by
  match list with
  | ⟨rows, name⟩ =>
    obtain ⟨first, rest, rendered, fails⟩ :=
      fails_renderTable context (ofValue .null) rows misused
    unfold ValuesList.render
    rw [rendered]
    match name, first with
    | none, _ => exact fails_fail .valuesWithoutName
    | some _, [] => exact fails_fail .valuesWithoutColumns
    | some name, cell :: cells =>
      simp only [fails_append, fails_ofText, Bool.false_or, Bool.or_false]
      exact fails

/-- A join fails with its table or with its condition. -/
theorem Join.fails_render (context : Context) (join : Join) (misused : join.hasMisuse false) :
    (join.render context).fails := by
  match join with
  | ⟨kind, table, condition⟩ =>
    rw [Join.hasMisuse, Bool.or_eq_true] at misused
    simp only [Join.render, fails_append, fails_ofText, fails_clause, Bool.false_or,
      Bool.or_eq_true]
    exact misused.imp (table.fails_renderName context) (condition.fails_render .joinCondition)

theorem fails_renderJoins (context : Context) (joins : List Join)
    (misused : joinsHaveMisuse false joins) : (renderJoins context joins).fails := by
  match joins with
  | [] => cases misused
  | join :: rest =>
    rw [joinsHaveMisuse, Bool.or_eq_true] at misused
    simp only [renderJoins, fails_append, fails_ofText, Bool.false_or, Bool.or_eq_true]
    exact misused.imp (join.fails_render context) (fails_renderJoins context rest)

theorem fails_renderSources (context : Context) (sources : List Source)
    (misused : sourcesHaveMisuse false sources) :
    (renderSources context sources).any Rendering.fails := by
  match sources with
  | [] => cases misused
  | ⟨table, joins⟩ :: rest =>
    rw [sourcesHaveMisuse, Bool.or_eq_true, Bool.or_eq_true] at misused
    rw [renderSources, List.any_cons, fails_append, Bool.or_eq_true, Bool.or_eq_true]
    exact misused.imp (.imp (table.fails_renderName context) (fails_renderJoins context joins))
      (fails_renderSources context rest)

theorem SourceList.fails_render (context : Context) (list : SourceList)
    (misused : list.hasMisuse false) : (list.render context).fails := by
  match list with
  | ⟨sources, misuse⟩ =>
    rw [SourceList.hasMisuse, Bool.or_eq_true] at misused
    rw [SourceList.render, fails_append, fails_check, fails_commaSeparated, Bool.or_eq_true]
    exact misused.imp_right (fails_renderSources context sources)

theorem fails_renderOrderKeys (context : Context) (keys : List OrderKey)
    (misused : orderKeysHaveMisuse false keys) :
    (renderOrderKeys context keys).any Rendering.fails := by
  match keys with
  | [] => cases misused
  | ⟨key, direction⟩ :: rest =>
    rw [orderKeysHaveMisuse, Bool.or_eq_true] at misused
    have inRest := fails_renderOrderKeys context rest
    cases direction with
    | none =>
      rw [renderOrderKeys, List.any_cons, Bool.or_eq_true]
      exact misused.imp (key.fails_renderName context) inRest
    | some direction =>
      rw [renderOrderKeys, List.any_cons, fails_append, fails_ofText, Bool.or_false,
        Bool.or_eq_true]
      exact misused.imp (key.fails_renderName context) inRest

theorem fails_renderDistinct (context : Context) (keys : Option (List Operand))
    (misused : keysHaveMisuse false keys) : (renderDistinct context keys).fails := by
  match keys with
  | none | some [] => cases misused
  | some (first :: rest) =>
    rw [keysHaveMisuse, haveMisuse, Bool.or_eq_true] at misused
    simp only [renderDistinct, fails_append, fails_ofText, fails_listed, List.any_cons,
      Bool.false_or, Bool.or_false, Bool.or_eq_true]
    exact misused.imp (first.fails_renderName context) (fails_renderNames context rest)

theorem fails_renderColumns (context : Context) (columns : List Operand)
    (misused : haveMisuse false columns) : (renderColumns context columns).fails := by
  match columns with
  | [] => cases misused
  | first :: rest =>
    rw [haveMisuse, Bool.or_eq_true] at misused
    rw [renderColumns, fails_commaSeparated, List.any_cons, Bool.or_eq_true]
    exact misused.imp (first.fails_renderName context) (fails_renderNames context rest)

theorem fails_renderTarget (context : Context) (target : Option Operand)
    (misused : targetHasMisuse false target) : (renderTarget context target).fails := by
  match target with
  | none => cases misused
  | some table =>
    rw [renderTarget, fails_append, fails_ofText, Bool.false_or]
    exact table.fails_renderName context misused

/-- A query fails with each of its clauses. -/
theorem Select.fails_render (context : Context) (query : Select)
    (misused : query.hasMisuse false) : (query.render context).fails := by
  match query with
  | ⟨columns, distinct, target, ⟨sources, misuse⟩, condition, grouping, groupCondition,
      ordering, limit, offset⟩ =>
    have inDistinct := fails_renderDistinct context distinct
    have inColumns := fails_renderColumns context columns
    have inTarget := fails_renderTarget context target
    have inSources := fails_renderSources context sources
    have inCondition := condition.fails_render context
    have inGrouping := fails_renderNames context grouping
    have inGroupCondition := groupCondition.fails_render context
    have inOrdering := fails_renderOrderKeys context ordering
    simp only [Select.hasMisuse, Bool.or_eq_true] at misused
    simp only [Select.render, fails_append, fails_check, fails_ofText, fails_clause,
      fails_listClause, fails_renderCount, Bool.or_false, Bool.or_eq_true]
    grind

/-- The body of an insertion. Its columns count before a query only; there they are
written even if they are many. -/
theorem InsertBody.fails_render (context : Context) (columns : List Rendering)
    (columnsMisused : Bool) (columnsFail : columnsMisused → columns.any Rendering.fails)
    (body : InsertBody) (misused : body.hasMisuse false columnsMisused) :
    (body.render context columns).fails := by
  match body with
  | .query inner =>
    rw [InsertBody.hasMisuse, Bool.or_eq_true] at misused
    simp only [InsertBody.render, fails_append, fails_ofText, Bool.or_false, Bool.or_eq_true]
    refine misused.imp (fun misused => ?_) (inner.fails_render _)
    have fails := columnsFail misused
    cases columns with
    | nil => cases fails
    | cons first rest => exact (fails_listed .row (first :: rest)).trans fails
  | .rows list =>
    obtain ⟨first, rest, rendered, fails⟩ :=
      fails_renderTable context (ofText "DEFAULT") list misused
    unfold InsertBody.render
    rw [rendered]
    cases first with
    | nil => exact fails_fail .insertWithoutColumns
    | cons cell cells => exact fails

/-- The columns of a conflict, where no constraint hides them. -/
theorem fails_renderConflict (context : Context) (conflict : Option (List Operand))
    (misused : keysHaveMisuse false conflict) : (renderConflict context none conflict).fails := by
  match conflict with
  | none | some [] => cases misused
  | some (first :: rest) =>
    rw [keysHaveMisuse, haveMisuse, Bool.or_eq_true] at misused
    simp only [renderConflict, fails_append, fails_ofText, fails_listed, List.any_cons,
      Bool.false_or, Bool.or_eq_true]
    exact misused.imp (first.fails_renderName context) (fails_renderNames context rest)

/-- An insertion fails with each of the parts that it writes. -/
theorem Insert.fails_render (context : Context) (statement : Insert)
    (misused : statement.hasMisuse false) : (statement.render context).fails := by
  match statement with
  | ⟨table, columns, body, conflict, constraint, update, returning, misuse⟩ =>
    have inTable := table.fails_renderName context
    have inBody := body.fails_render context _ _ (fails_renderNames context columns)
    have inConflict := fails_renderConflict context conflict
    have inUpdate := update.fails_cells context
    have inReturning := fails_renderNames context returning
    have inHandling := fails_handling context constraint inConflict inUpdate
    simp only [Insert.hasMisuse, Bool.false_or] at misused
    simp only [Insert.render, fails_append, fails_check, fails_ofText, fails_listClause,
      Bool.or_false]
    grind

/-- An update without assignments fails in any case. -/
theorem Update.fails_render (context : Context) (statement : Update)
    (misused : statement.hasMisuse false) : (statement.render context).fails := by
  match statement with
  | ⟨table, assignments, sources, condition, returning⟩ =>
    have inTable := table.fails_renderName context
    have inAssignments := assignments.fails_cells context
    have inSources := fails_renderNames context sources
    have inCondition := condition.fails_render context
    have inReturning := fails_renderNames context returning
    simp only [Update.hasMisuse, Bool.or_eq_true] at misused
    unfold Update.render
    cases cells : assignments.cells context with
    | nil => exact fails_fail .updateWithoutAssignments
    | cons cell rest =>
      rw [cells] at inAssignments
      simp only [fails_append, fails_ofText, fails_commaSeparated, List.any_map,
        Function.comp_def, fails_renderAssignment, fails_clause, fails_listClause, Bool.false_or,
        Bool.or_false, Bool.or_eq_true]
      grind

theorem Delete.fails_render (context : Context) (statement : Delete)
    (misused : statement.hasMisuse false) : (statement.render context).fails := by
  match statement with
  | ⟨table, sources, condition, returning⟩ =>
    have inTable := table.fails_renderName context
    have inSources := fails_renderNames context sources
    have inCondition := condition.fails_render context
    have inReturning := fails_renderNames context returning
    simp only [Delete.hasMisuse, Bool.or_eq_true] at misused
    simp only [Delete.render, fails_append, fails_ofText, fails_clause, fails_listClause,
      Bool.false_or, Bool.or_eq_true]
    grind

end

/-- If a builder in a part of a tree that is written has recorded a misuse, the
tree fails to be written in both ways. -/
theorem Node.error_of_hasMisuse (node : Node) (misused : node.hasMisuse false) :
    ∃ fault, node.toText = .error fault ∧ node.prepare = .error fault := by
  have fails := node.fails_render .ordinary misused
  obtain ⟨fault, faulty⟩ := Option.isSome_iff_exists.mp fails
  refine ⟨fault, ?_, ?_⟩
  · rw [node.toText_eq, faulty]
  · rw [node.prepare_eq, faulty]

/-! ### A misuse that is told and misuses that are not -/

/-- The current time, with an argument that no marker takes. -/
def overfilled : Operand :=
  .node (.snippet (.ofMarkers "now()" [.text "UTC"]))

/-- A person of a given name. -/
def person (name : String) : Insert :=
  (Insert.ofTable (.text "Person")).addRow ⟨[⟨"Name", .text name⟩]⟩

/-- A person since the time that a query finds under another name. -/
def personSince : Node :=
  .insert ((Insert.ofTable (.text "Person")).addRow ⟨[⟨"Since",
    .node (.select (Select.empty.addColumns [.node (.renamed ⟨overfilled, "Today"⟩)]))⟩]⟩)

/-- A misuse in a query that is the value of a column, two builders down. -/
theorem error_personSince : personSince.hasMisuse false ∧
    ∃ fault, personSince.toText = .error fault ∧ personSince.prepare = .error fault :=
  ⟨rfl, personSince.error_of_hasMisuse rfl⟩

/-- A misuse in each of the parts that are never written. -/
def idleMisuses : List Node :=
  [.condition (.test overfilled (.membership (.list []) false)),
    .insert ((person "Ada").addRow ⟨[⟨"Name", .text "Alan"⟩, ⟨"Since", overfilled⟩]⟩),
    .insert ((person "Ada").addColumns [overfilled]),
    .insert (((person "Ada").onConflict [overfilled]).onConstraint "Known"),
    .insert ((person "Ada").addUpdate ⟨[⟨"Since", overfilled⟩]⟩)]

/-- Each of the five trees has a misuse in it and a text all the same. -/
theorem idleMisuses_written :
    (idleMisuses.all fun node => node.hasMisuse true) ∧
      idleMisuses.map Node.toText =
        [.ok "",
          .ok "INSERT INTO \"Person\" (\"Name\") VALUES ('Ada'), ('Alan')",
          .ok "INSERT INTO \"Person\" (\"Name\") VALUES ('Ada')",
          .ok ("INSERT INTO \"Person\" (\"Name\") VALUES ('Ada')"
            ++ " ON CONFLICT ON CONSTRAINT \"Known\" DO NOTHING"),
          .ok "INSERT INTO \"Person\" (\"Name\") VALUES ('Ada')"] ∧
      idleMisuses.map Node.prepare =
        [.ok ⟨"", []⟩,
          .ok ⟨"INSERT INTO \"Person\" (\"Name\") VALUES ($1), ($2)",
            [.text "Ada", .text "Alan"]⟩,
          .ok ⟨"INSERT INTO \"Person\" (\"Name\") VALUES ($1)", [.text "Ada"]⟩,
          .ok ⟨"INSERT INTO \"Person\" (\"Name\") VALUES ($1)"
            ++ " ON CONFLICT ON CONSTRAINT \"Known\" DO NOTHING", [.text "Ada"]⟩,
          .ok ⟨"INSERT INTO \"Person\" (\"Name\") VALUES ($1)", [.text "Ada"]⟩] :=
  ⟨rfl, rfl, rfl⟩

end SqlTree
