/-
This file proves that a tree without SQL of its own can be read: its rendering
has lexemes, whatever its names contain and however its scalars are spelled.
Every seam between two texts is looked at once, where the rendering of a node
is put together; the induction follows the tree.

There are four things that a rendering can be good for, from the least to the
most: it can be read on its own, it lets any text follow, it can follow any text,
and it can stand between any two. A part is asked for no more than its place
needs. An operand is read on its own and stands behind a text that lets it follow;
a clause begins with a space and so follows anything. The statements come first,
as texts around renderings that are good for their places. The tree then has
little left to say but where each part stands.

A hypothesis on names is needed wherever a path is written, and on operators
wherever a comparison is. Values need none: their literals and placeholders can be
read whatever they are.
-/

import SqlTree.Proofs.Reading.Clause

namespace SqlTree

namespace Rendering

open Reading

/-! ### Statements

Each says that a statement can be read if its parts can, whatever they are. -/

/-- A query can be read if its columns, conditions and keys can. Each of its clauses
begins with a space, so nothing that is open at the end of one runs into the next. -/
theorem reads_selectText (misuse : Option Misuse)
    {distinct columns target condition groupCondition : Rendering}
    {sources grouping ordering : List Rendering} (limit offset : Option UInt64)
    (opensDistinct : distinct.Opens) (readsColumns : columns.Reads)
    (followsTarget : target.Follows) (readsSources : ∀ source ∈ sources, source.Reads)
    (readsCondition : condition.Reads) (readsGrouping : ∀ name ∈ grouping, name.Reads)
    (readsGroupCondition : groupCondition.Reads) (readsOrdering : ∀ key ∈ ordering, key.Reads) :
    (check misuse ++ ofText "SELECT " ++ distinct ++ columns ++ target
        ++ listClause " FROM " sources ++ clause " WHERE " condition
        ++ listClause " GROUP BY " grouping ++ clause " HAVING " groupCondition
        ++ listClause " ORDER BY " ordering ++ renderCount " LIMIT " limit
        ++ renderCount " OFFSET " offset).Reads := by
  have opened : (check misuse ++ ofText "SELECT " ++ distinct).Opens :=
    ((opens_check misuse).append_opens (opens_ofText (by decide))).append_opens opensDistinct
  refine Reads.append_follows ?_ (follows_renderCount (by decide) offset)
  refine Reads.append_follows ?_ (follows_renderCount (by decide) limit)
  refine Reads.append_follows ?_ (follows_listClause (by decide) readsOrdering)
  refine Reads.append_follows ?_ (follows_clause (by decide) readsGroupCondition)
  refine Reads.append_follows ?_ (follows_listClause (by decide) readsGrouping)
  refine Reads.append_follows ?_ (follows_clause (by decide) readsCondition)
  refine Reads.append_follows ?_ (follows_listClause (by decide) readsSources)
  exact (opened.append_reads readsColumns).append_follows followsTarget

/-- An insertion can be read if what comes behind its table can follow a name. -/
theorem reads_insertText (misuse : Option Misuse) {table body handling : Rendering}
    {returning : List Rendering} (readsTable : table.Reads) (followsBody : body.Follows)
    (followsHandling : handling.Follows) (readsReturning : ∀ name ∈ returning, name.Reads) :
    (check misuse ++ ofText "INSERT INTO " ++ table ++ body ++ handling
        ++ listClause " RETURNING " returning).Reads := by
  have opened : (check misuse ++ ofText "INSERT INTO ").Opens :=
    (opens_check misuse).append_opens (opens_ofText (by decide))
  refine Reads.append_follows ?_ (follows_listClause (by decide) readsReturning)
  exact ((opened.append_reads readsTable).append_follows followsBody).append_follows followsHandling

/-- What is done about conflicts begins with a space. The columns that are assigned to
are the only paths in it. -/
theorem follows_handling {handled : Bool} {conflict : Rendering} {update : List Cell}
    (followsConflict : conflict.Follows) (plain : ∀ cell ∈ update, isPlainPath cell.1)
    (readsUpdate : ∀ cell ∈ update, cell.2.Reads) :
    (if handled then ofText " ON CONFLICT" ++ conflict ++ renderResolution update
      else empty).Follows := by
  have opening : (ofText " ON CONFLICT").Follows := follows_ofText (by decide) (by decide)
  split
  · exact (opening.append_follows followsConflict).append_follows
      (follows_renderResolution plain readsUpdate)
  · exact follows_empty

/-- An update with assignments, whose columns are paths. -/
theorem reads_updateText {table condition : Rendering} {assignments : List Cell}
    {sources returning : List Rendering} (readsTable : table.Reads)
    (plain : ∀ cell ∈ assignments, isPlainPath cell.1)
    (readsAssignments : ∀ cell ∈ assignments, cell.2.Reads)
    (readsSources : ∀ source ∈ sources, source.Reads) (readsCondition : condition.Reads)
    (readsReturning : ∀ name ∈ returning, name.Reads) :
    (ofText "UPDATE " ++ table
        ++ ofText " SET " ++ commaSeparated (assignments.map renderAssignment)
        ++ listClause " FROM " sources ++ clause " WHERE " condition
        ++ listClause " RETURNING " returning).Reads := by
  have opened : (ofText "UPDATE ").Opens := opens_ofText (by decide)
  have assigned : (commaSeparated (assignments.map renderAssignment)).Reads := by
    refine reads_commaSeparated fun rendering member => ?_
    obtain ⟨cell, inAssignments, rfl⟩ := List.mem_map.mp member
    exact reads_renderAssignment (plain cell inAssignments) (readsAssignments cell inAssignments)
  refine Reads.append_follows ?_ (follows_listClause (by decide) readsReturning)
  refine Reads.append_follows ?_ (follows_clause (by decide) readsCondition)
  refine Reads.append_follows ?_ (follows_listClause (by decide) readsSources)
  refine Opens.append_reads ?_ assigned
  exact (opened.append_reads readsTable).append_separates (separates_ofText (by decide))

/-- A deletion. -/
theorem reads_deleteText {table condition : Rendering} {sources returning : List Rendering}
    (readsTable : table.Reads) (readsSources : ∀ source ∈ sources, source.Reads)
    (readsCondition : condition.Reads) (readsReturning : ∀ name ∈ returning, name.Reads) :
    (ofText "DELETE FROM " ++ table ++ listClause " USING " sources
        ++ clause " WHERE " condition ++ listClause " RETURNING " returning).Reads := by
  have opened : (ofText "DELETE FROM ").Opens := opens_ofText (by decide)
  refine Reads.append_follows ?_ (follows_listClause (by decide) readsReturning)
  refine Reads.append_follows ?_ (follows_clause (by decide) readsCondition)
  refine Reads.append_follows ?_ (follows_listClause (by decide) readsSources)
  exact opened.append_reads readsTable

/-- A list of values. Its name and its columns are quoted as single names, so nothing is
asked of them. -/
theorem reads_valuesText (name : String) (columns : List String) {rows : Rendering}
    (readsRows : rows.Reads) :
    (ofText "(VALUES " ++ rows
      ++ ofText (") " ++ quoteName name ++ "(" ++ columnNames columns ++ ")")).Reads := by
  have opening : Reading.Opens "(VALUES ".toList [.mark '(', .word "VALUES".toList] := rfl
  have closing : Reading.Separates ") ".toList [.mark ')'] := ⟨rfl, ')', rfl, rfl⟩
  have opened : (ofText "(VALUES " ++ rows).Lexes
      (Having Reading.Reads (BalancedBut Bracket.opened? .parentheses)) :=
    Lexes.append_having Reading.Opens.append_reads BalancedBut.append
      (lexes_ofText_bracket opening rfl rfl) readsRows
  have named : (ofText (") " ++ quoteName name)).Lexes
      (Having Reading.Follows (BalancedBut Bracket.closed? .parentheses)) :=
    lexes_ofText_append (Lexes.append_having Reading.Separates.append_reads BalancedBut.append
      (lexes_ofText_bracket closing rfl rfl) (reads_quoteName name))
  have listed : (ofText ("(" ++ columnNames columns)).Lexes
      (Having Reading.Follows (BalancedBut Bracket.opened? .parentheses)) :=
    lexes_ofText_append (Lexes.append_having Reading.Separates.append_reads BalancedBut.append
      separates_opening (reads_columnNames columns))
  have enclosed : (ofText ("(" ++ columnNames columns ++ ")")).Separates :=
    lexes_ofText_append (Lexes.append_having Reading.Follows.append_separates BalancedBut.close
      listed separates_closing)
  have both : (ofText (") " ++ quoteName name ++ ("(" ++ columnNames columns ++ ")"))).Lexes
      (Having Reading.Follows (BalancedBut Bracket.closed? .parentheses)) :=
    lexes_ofText_append (Lexes.append_having Reading.Follows.append_follows BalancedBut.append
      named enclosed.follows)
  rw [← String.append_assoc, ← String.append_assoc] at both
  exact Lexes.append_having Reading.Reads.append_follows BalancedBut.close opened both

/-- The rows of an insertion, under columns of which nothing is asked. -/
theorem follows_rowsText (columns : List String) {rows : Rendering} (readsRows : rows.Reads) :
    (ofText (" (" ++ columnNames columns ++ ") VALUES ") ++ rows).Follows := by
  have opening : Reading.Separates " (".toList [.mark '('] := ⟨rfl, ' ', rfl, rfl⟩
  have closing : Reading.Separates ") VALUES ".toList [.mark ')', .word "VALUES".toList] :=
    ⟨rfl, ')', rfl, rfl⟩
  have opened : (ofText (" (" ++ columnNames columns)).Lexes
      (Having Reading.Follows (BalancedBut Bracket.opened? .parentheses)) :=
    lexes_ofText_append (Lexes.append_having Reading.Separates.append_reads BalancedBut.append
      (lexes_ofText_bracket opening rfl rfl) (reads_columnNames columns))
  have closed : (ofText (" (" ++ columnNames columns ++ ") VALUES ")).Separates :=
    lexes_ofText_append (Lexes.append_having Reading.Follows.append_separates BalancedBut.close
      opened (lexes_ofText_bracket closing rfl rfl))
  exact closed.append_reads readsRows

end Rendering

open Rendering

/-! ### Leaves -/

mutual

/-- A scalar as a name. Only a text is a path, and only a path can have a trailer. -/
theorem Value.reads_renderName (value : Value) (rawFree : value.isRawFreeName) :
    value.renderName.Reads := by
  match value with
  | .null | .bytes _ | .json _ => exact lexes_fail _ _
  | .bool _ | .integer _ | .float _ | .timestamp _ | .uuid _ => exact reads_quoteName _
  | .text path => exact reads_quotePath rawFree
  | .array items => exact (opens_listed .row (Value.reads_renderItemNames items rawFree)).reads

theorem Value.reads_renderItemNames (items : List Value) (rawFree : Value.areRawFreeNames items) :
    ∀ rendering ∈ Value.renderItemNames items, rendering.Reads := by
  match items with
  | [] => exact List.forall_mem_nil _
  | item :: rest =>
    obtain ⟨first, others⟩ := Bool.and_eq_true_iff.mp rawFree
    exact List.forall_mem_cons.mpr
      ⟨item.reads_renderName first, Value.reads_renderItemNames rest others⟩

end

/-- A literal without a cast is a scalar like any other. -/
theorem Literal.reads_render (literal : Literal) (rawFree : literal.cast.isNone) :
    literal.render.Reads := by
  rw [Literal.render, Option.isNone_iff_eq_none.mp rawFree]
  exact reads_ofValue _

/-- What an operator is written with in front of its operand ends on a seam. -/
theorem Relation.isOpening_symbol (relation : Relation) (named : relation.isNamed) :
    isOpening (relation.symbol ++ " ") := by
  have each : ∀ relation ∈ Relation.named, isOpening (relation.symbol ++ " ") := by decide
  exact each relation (relation.mem_named named)

/-- An operator of the library with a quantifier behind it. The operators are few, so
each is looked at. -/
theorem Relation.isOpening_quantified (relation : Relation) (named : relation.isNamed)
    (quantifier : Quantifier) :
    isOpening (relation.symbol ++ " " ++ quantifier.keyword ++ " ") := by
  have each : ∀ relation ∈ Relation.named,
      isOpening (relation.symbol ++ " " ++ quantifier.keyword ++ " ") := by
    cases quantifier <;> decide
  exact each relation (relation.mem_named named)

/-- The columns of the cells are those of the map, in its order. -/
theorem ColumnMap.map_fst_cells (context : Context) (map : ColumnMap) :
    (map.cells context).map Prod.fst = map.columns := by
  obtain ⟨fields⟩ := map
  show (renderCells context fields).map Prod.fst = fields.map Field.column
  induction fields with
  | nil => rfl
  | cons field rest inductionHypothesis =>
    obtain ⟨column, operand⟩ := field
    exact congrArg (column :: ·) inductionHypothesis

/-- Where all columns are paths without a trailer, each cell has one. -/
theorem ColumnMap.isPlainPath_of_mem_cells (context : Context) {map : ColumnMap}
    (plain : map.columns.all isPlainPath) : ∀ cell ∈ map.cells context, isPlainPath cell.1 := by
  intro cell member
  rw [← map.map_fst_cells context] at plain
  exact List.all_eq_true.mp plain cell.1 (List.mem_map_of_mem member)

/-! ### The tree -/

mutual

/-- An operand where a value is wanted: a scalar in place, a list with its brackets, or
a node. -/
theorem Operand.reads_renderValue (context : Context) (form : ListForm) (operand : Operand)
    (rawFree : operand.isRawFreeValue context) : (operand.renderValue context form).Reads := by
  match operand with
  | .value scalar => exact reads_ofValue scalar
  | .list items => exact (opens_listed form (reads_renderValues context form items rawFree)).reads
  | .node (.unresolved inner) =>
    rw [Operand.isRawFreeValue] at rawFree
    rw [Operand.renderValue]
    split
    · next names =>
      rw [if_pos names] at rawFree
      exact inner.reads_renderName context rawFree
    · next values =>
      rw [if_neg values] at rawFree
      exact inner.reads_renderValue context form rawFree
  | .node (.identifier _) | .node (.literal _) | .node (.snippet _) | .node (.renamed _)
  | .node (.condition _) | .node (.comparison _) | .node (.jsonObject _) | .node (.values _)
  | .node (.sources _) | .node (.join _) => exact Node.reads_render context _ rawFree
  | .node (.select _) | .node (.insert _) | .node (.update _) | .node (.delete _) =>
    exact (opens_parenthesized (Node.reads_render .ordinary _ rawFree)).reads

/-- An operand where a name is wanted. -/
theorem Operand.reads_renderName (context : Context) (operand : Operand)
    (rawFree : operand.isRawFreeName context) : (operand.renderName context).Reads := by
  match operand with
  | .value scalar => exact scalar.reads_renderName rawFree
  | .list items => exact (opens_listed .row (reads_renderNames context items rawFree)).reads
  | .node inner =>
    rw [Operand.isRawFreeName] at rawFree
    rw [Operand.renderName]
    split
    · next statement =>
      rw [if_pos statement] at rawFree
      exact (opens_parenthesized (inner.reads_render .ordinary rawFree)).reads
    · next other =>
      rw [if_neg other] at rawFree
      exact inner.reads_render context rawFree

theorem reads_renderValues (context : Context) (form : ListForm) (operands : List Operand)
    (rawFree : areRawFreeValues context operands) :
    ∀ rendering ∈ renderValues context form operands, rendering.Reads := by
  match operands with
  | [] => exact List.forall_mem_nil _
  | operand :: rest =>
    obtain ⟨first, others⟩ := Bool.and_eq_true_iff.mp rawFree
    exact List.forall_mem_cons.mpr
      ⟨operand.reads_renderValue context form first, reads_renderValues context form rest others⟩

theorem reads_renderNames (context : Context) (operands : List Operand)
    (rawFree : areRawFreeNames context operands) :
    ∀ rendering ∈ renderNames context operands, rendering.Reads := by
  match operands with
  | [] => exact List.forall_mem_nil _
  | operand :: rest =>
    obtain ⟨first, others⟩ := Bool.and_eq_true_iff.mp rawFree
    exact List.forall_mem_cons.mpr
      ⟨operand.reads_renderName context first, reads_renderNames context rest others⟩

/-- A node without SQL of its own can be read. -/
theorem Node.reads_render (context : Context) (node : Node) (rawFree : node.isRawFree context) :
    (node.render context).Reads := by
  match node with
  | .identifier identifier => exact reads_identifier rawFree
  | .literal literal => exact literal.reads_render rawFree
  | .snippet _ => cases rawFree
  | .unresolved _ => exact lexes_fail _ _
  | .renamed item => exact item.reads_render context rawFree
  | .condition condition => exact condition.reads_render context rawFree
  | .comparison comparison => exact comparison.reads_render context rawFree
  | .jsonObject object => exact object.reads_render context rawFree
  | .values list => exact list.reads_render context rawFree
  | .sources list => exact list.reads_render context rawFree
  | .join join => exact join.reads_render context rawFree
  | .select statement => exact statement.reads_render context rawFree
  | .insert statement => exact statement.reads_render context rawFree
  | .update statement => exact statement.reads_render context rawFree
  | .delete statement => exact statement.reads_render context rawFree

/-- The new name is quoted, whatever it is. -/
theorem Renaming.reads_render (context : Context) (item : Renaming)
    (rawFree : item.isRawFree context) : (item.render context).Reads := by
  match item with
  | ⟨target, name⟩ =>
    refine Reads.append_follows (target.reads_renderName context rawFree) ?_
    exact lexes_ofText_append ((separates_ofText (by decide)).append_reads (reads_quoteName name))

/-- A condition. The words between its members have spaces on both sides. -/
theorem Condition.reads_render (context : Context) (condition : Condition)
    (rawFree : condition.isRawFree context) : (condition.render context).Reads := by
  match condition with
  | .all members | .any members =>
    exact reads_joinPresent (by decide) (reads_renderMembers context members rawFree)
  | .negation inner =>
    refine lexes_ifPresent opens_empty.reads ?_
    exact ((opens_ofText (by decide)).append_opens
      (opens_parenthesized (inner.reads_render context rawFree))).reads
  | .existence query =>
    exact ((opens_ofText (by decide)).append_opens
      (opens_parenthesized (query.reads_render _ rawFree))).reads
  | .test column comparison =>
    obtain ⟨columnRawFree, comparisonRawFree⟩ := Bool.and_eq_true_iff.mp rawFree
    rw [Condition.render]
    split
    · exact ((column.reads_renderName context columnRawFree).append_separates
        (separates_ofText (by decide))).append_reads
        (comparison.reads_render context comparisonRawFree)
    · exact opens_empty.reads
  | .plain inner => exact inner.reads_render context rawFree

/-- A member in parentheses can be read like one without. -/
theorem reads_renderMembers (context : Context) (members : List Condition)
    (rawFree : areRawFreeMembers context members) :
    ∀ rendering ∈ renderMembers context members, rendering.Reads := by
  match members with
  | [] => exact List.forall_mem_nil _
  | member :: rest =>
    obtain ⟨first, others⟩ := Bool.and_eq_true_iff.mp rawFree
    have reads := member.reads_render context first
    refine List.forall_mem_cons.mpr ⟨?_, reads_renderMembers context rest others⟩
    split
    · exact lexes_ifPresent opens_empty.reads (opens_parenthesized reads).reads
    · exact reads

/-- What a column is compared with. Each operator lets its operand follow, which is why
it has to be one of the library. -/
theorem Comparison.reads_render (context : Context) (comparison : Comparison)
    (rawFree : comparison.isRawFree context) : (comparison.render context).Reads := by
  match comparison with
  | .relation relation operand none =>
    obtain ⟨named, operandRawFree⟩ := Bool.and_eq_true_iff.mp rawFree
    refine Opens.append_reads ?_ (operand.reads_renderValue context .array operandRawFree)
    exact opens_ofText (relation.isOpening_symbol named)
  | .relation relation operand (some quantifier) =>
    obtain ⟨named, operandRawFree⟩ := Bool.and_eq_true_iff.mp rawFree
    have reads := operand.reads_renderValue context .array operandRawFree
    refine Opens.append_reads (opens_ofText (relation.isOpening_quantified named quantifier)) ?_
    split
    · exact reads
    · exact (opens_parenthesized reads).reads
  | .nullity negated =>
    exact reads_ofText (by cases negated <;> decide)
  | .like pattern insensitive =>
    refine Opens.append_reads ?_ (pattern.reads_renderValue context .array rawFree)
    exact opens_ofText (by cases insensitive <;> decide)
  | .between low high =>
    obtain ⟨lowRawFree, highRawFree⟩ := Bool.and_eq_true_iff.mp rawFree
    have opened := ((opens_ofText (by decide : isOpening "BETWEEN ")).append_reads
      (low.reads_renderValue context .array lowRawFree)).append_separates
      (separates_ofText (by decide : isSeparating " AND "))
    exact opened.append_reads (high.reads_renderValue context .array highRawFree)
  | .membership (.list []) negated => exact opens_empty.reads
  | .membership (.list (first :: rest)) negated =>
    obtain ⟨inFirst, inRest⟩ := Bool.and_eq_true_iff.mp rawFree
    have values := opens_listed .row (List.forall_mem_cons.mpr
      ⟨first.reads_renderValue context .row inFirst, reads_renderValues context .row rest inRest⟩)
    exact (Opens.append_opens (opens_ofText (by cases negated <;> decide)) values).reads
  | .membership (.node inner) negated =>
    refine (Opens.append_opens (opens_ofText (by cases negated <;> decide)) ?_).reads
    exact opens_parenthesized (inner.reads_render _ rawFree)
  | .membership (.value scalar) negated =>
    refine (Opens.append_opens (opens_ofText (by cases negated <;> decide)) ?_).reads
    exact opens_parenthesized (reads_ofValue scalar)

/-- The cells of a row. -/
theorem ColumnMap.reads_cells (context : Context) (map : ColumnMap)
    (rawFree : map.areRawFreeValues context) : ∀ cell ∈ map.cells context, cell.2.Reads := by
  match map with
  | ⟨fields⟩ => exact reads_renderCells context fields rawFree

theorem reads_renderCells (context : Context) (fields : List Field)
    (rawFree : areRawFreeCells context fields) :
    ∀ cell ∈ renderCells context fields, cell.2.Reads := by
  match fields with
  | [] => exact List.forall_mem_nil _
  | ⟨column, operand⟩ :: rest =>
    obtain ⟨first, others⟩ := Bool.and_eq_true_iff.mp rawFree
    exact List.forall_mem_cons.mpr
      ⟨operand.reads_renderValue context .array first, reads_renderCells context rest others⟩

theorem ColumnMap.reads_nameCells (context : Context) (map : ColumnMap)
    (rawFree : map.areRawFreeNames context) : ∀ cell ∈ map.nameCells context, cell.2.Reads := by
  match map with
  | ⟨fields⟩ => exact reads_renderNameCells context fields rawFree

theorem reads_renderNameCells (context : Context) (fields : List Field)
    (rawFree : areRawFreeNameCells context fields) :
    ∀ cell ∈ renderNameCells context fields, cell.2.Reads := by
  match fields with
  | [] => exact List.forall_mem_nil _
  | ⟨column, operand⟩ :: rest =>
    obtain ⟨first, others⟩ := Bool.and_eq_true_iff.mp rawFree
    exact List.forall_mem_cons.mpr
      ⟨operand.reads_renderName context first, reads_renderNameCells context rest others⟩

/-- The members of a JSON object. A key is a string behind which its path follows. -/
theorem reads_renderItems (context : Context) (qualifier : Option String) (items : List JsonItem)
    (rawFree : areRawFreeItems context qualifier items) :
    ∀ rendering ∈ renderItems context qualifier items, rendering.Reads := by
  match items with
  | [] => exact List.forall_mem_nil _
  | .key key :: rest =>
    obtain ⟨first, others⟩ := Bool.and_eq_true_iff.mp rawFree
    exact List.forall_mem_cons.mpr
      ⟨reads_renderJsonKey first, reads_renderItems context qualifier rest others⟩
  | .keys keys :: rest =>
    obtain ⟨first, others⟩ := Bool.and_eq_true_iff.mp rawFree
    refine List.forall_mem_append.mpr ⟨fun rendering member => ?_,
      reads_renderItems context qualifier rest others⟩
    obtain ⟨key, inKeys, rfl⟩ := List.mem_map.mp member
    exact reads_renderJsonKey (List.all_eq_true.mp first key inKeys)
  | .map columns :: rest =>
    obtain ⟨first, others⟩ := Bool.and_eq_true_iff.mp rawFree
    refine List.forall_mem_append.mpr ⟨fun rendering member => ?_,
      reads_renderItems context qualifier rest others⟩
    obtain ⟨cell, inCells, rfl⟩ := List.mem_map.mp member
    exact reads_renderJsonMember (columns.reads_nameCells context first cell inCells)

theorem JsonObject.reads_render (context : Context) (object : JsonObject)
    (rawFree : object.isRawFree context) : (object.render context).Reads := by
  match object with
  | ⟨items, qualifier, binary⟩ =>
    refine Reads.append_follows (reads_ofText (by cases binary <;> decide)) ?_
    exact (separates_parenthesized
      (reads_commaSeparated (reads_renderItems context qualifier items rawFree))).follows

theorem reads_renderRows (context : Context) (rows : List ColumnMap)
    (rawFree : areRawFreeRows context rows) :
    ∀ row ∈ renderRows context rows, ∀ cell ∈ row, cell.2.Reads := by
  match rows with
  | [] => exact List.forall_mem_nil _
  | row :: rest =>
    obtain ⟨first, others⟩ := Bool.and_eq_true_iff.mp rawFree
    exact List.forall_mem_cons.mpr
      ⟨row.reads_cells context first, reads_renderRows context rest others⟩

/-- A list of values, or its fault, which has nothing to read. -/
theorem ValuesList.reads_render (context : Context) (list : ValuesList)
    (rawFree : list.isRawFree context) : (list.render context).Reads := by
  match list with
  | ⟨rows, name⟩ =>
    have read := reads_renderRows context rows rawFree
    unfold ValuesList.render
    generalize renderRows context rows = rendered at read
    match name, rendered with
    | none, _ => exact lexes_fail _ _
    | some _, [] => exact lexes_fail _ _
    | some _, [] :: _ => exact lexes_fail _ _
    | some name, (first :: others) :: rest =>
      exact reads_valuesText name _ (reads_rowsOf _ (reads_ofValue .null) read)

/-- A joined table with its condition, in which unresolved texts are paths. -/
theorem Join.reads_render (context : Context) (join : Join)
    (rawFree : join.isRawFree context) : (join.render context).Reads := by
  match join with
  | ⟨kind, table, condition⟩ =>
    obtain ⟨tableRawFree, conditionRawFree⟩ := Bool.and_eq_true_iff.mp rawFree
    have readsTable := table.reads_renderName context tableRawFree
    refine Reads.append_follows (Opens.append_reads ?_ readsTable)
      (follows_clause (by decide) (condition.reads_render .joinCondition conditionRawFree))
    exact opens_ofText (by cases kind <;> decide)

/-- Joins begin with a space, so they can follow a table. -/
theorem follows_renderJoins (context : Context) (joins : List Join)
    (rawFree : areRawFreeJoins context joins) : (renderJoins context joins).Follows := by
  match joins with
  | [] => exact follows_empty
  | join :: rest =>
    obtain ⟨first, others⟩ := Bool.and_eq_true_iff.mp rawFree
    exact ((separates_ofText (by decide)).append_reads
      (join.reads_render context first)).append_follows (follows_renderJoins context rest others)

theorem reads_renderSources (context : Context) (sources : List Source)
    (rawFree : areRawFreeSources context sources) :
    ∀ rendering ∈ renderSources context sources, rendering.Reads := by
  match sources with
  | [] => exact List.forall_mem_nil _
  | ⟨table, joins⟩ :: rest =>
    obtain ⟨source, others⟩ := Bool.and_eq_true_iff.mp rawFree
    obtain ⟨tableRawFree, joinsRawFree⟩ := Bool.and_eq_true_iff.mp source
    exact List.forall_mem_cons.mpr
      ⟨(table.reads_renderName context tableRawFree).append_follows
        (follows_renderJoins context joins joinsRawFree), reads_renderSources context rest others⟩

theorem SourceList.reads_render (context : Context) (list : SourceList)
    (rawFree : list.isRawFree context) : (list.render context).Reads := by
  match list with
  | ⟨sources, misuse⟩ =>
    exact (opens_check misuse).append_reads
      (reads_commaSeparated (reads_renderSources context sources rawFree))

theorem reads_renderOrderKeys (context : Context) (keys : List OrderKey)
    (rawFree : areRawFreeOrderKeys context keys) :
    ∀ rendering ∈ renderOrderKeys context keys, rendering.Reads := by
  match keys with
  | [] => exact List.forall_mem_nil _
  | ⟨key, direction⟩ :: rest =>
    obtain ⟨first, others⟩ := Bool.and_eq_true_iff.mp rawFree
    have reads := key.reads_renderName context first
    refine List.forall_mem_cons.mpr ⟨?_, reads_renderOrderKeys context rest others⟩
    match direction with
    | none => exact reads
    | some .ascending | some .descending =>
      exact reads.append_follows (follows_ofText (by decide) (by decide))

/-- Keys of distinct rows end in a space, so the columns can follow. -/
theorem opens_renderDistinct (context : Context) (distinct : Option (List Operand))
    (rawFree : areRawFreeOptionalNames context distinct) :
    (renderDistinct context distinct).Opens := by
  match distinct with
  | none => exact opens_empty
  | some [] => exact opens_ofText (by decide)
  | some (first :: rest) =>
    obtain ⟨inFirst, inRest⟩ := Bool.and_eq_true_iff.mp rawFree
    have names := opens_listed .row (List.forall_mem_cons.mpr
      ⟨first.reads_renderName context inFirst, reads_renderNames context rest inRest⟩)
    exact (Opens.append_opens (opens_ofText (by decide)) names).append_opens
      (opens_ofText (by decide))

theorem reads_renderColumns (context : Context) (columns : List Operand)
    (rawFree : areRawFreeNames context columns) : (renderColumns context columns).Reads := by
  match columns with
  | [] => exact reads_ofText (by decide)
  | first :: rest =>
    obtain ⟨inFirst, inRest⟩ := Bool.and_eq_true_iff.mp rawFree
    exact reads_commaSeparated (List.forall_mem_cons.mpr
      ⟨first.reads_renderName context inFirst, reads_renderNames context rest inRest⟩)

theorem follows_renderTarget (context : Context) (target : Option Operand)
    (rawFree : isRawFreeTarget context target) : (renderTarget context target).Follows := by
  match target with
  | none => exact follows_empty
  | some table =>
    exact (separates_ofText (by decide)).append_reads (table.reads_renderName context rawFree)

/-- A query of which all clauses are without SQL of their own. -/
theorem Select.reads_render (context : Context) (statement : Select)
    (rawFree : statement.isRawFree context) : (statement.render context).Reads := by
  match statement with
  | ⟨columns, distinct, target, ⟨sources, misuse⟩, condition, grouping, groupCondition,
      ordering, limit, offset⟩ =>
    simp only [Select.isRawFree, Bool.and_eq_true] at rawFree
    obtain ⟨⟨⟨⟨⟨⟨⟨inColumns, inDistinct⟩, inTarget⟩, inSources⟩, inCondition⟩, inGrouping⟩,
      inGroupCondition⟩, inOrdering⟩ := rawFree
    exact reads_selectText misuse limit offset (opens_renderDistinct context distinct inDistinct)
      (reads_renderColumns context columns inColumns)
      (follows_renderTarget context target inTarget)
      (reads_renderSources context sources inSources) (condition.reads_render context inCondition)
      (reads_renderNames context grouping inGrouping)
      (groupCondition.reads_render context inGroupCondition)
      (reads_renderOrderKeys context ordering inOrdering)

/-- The body of an insertion begins with a space, be it rows or a query. -/
theorem InsertBody.follows_render (context : Context) (body : InsertBody) {columns : List Rendering}
    (readsColumns : ∀ column ∈ columns, column.Reads) (rawFree : body.isRawFree context) :
    (body.render context columns).Follows := by
  match body with
  | .query query =>
    refine Separates.append_reads (Follows.append_separates ?_ (separates_ofText (by decide)))
      (query.reads_render _ rawFree)
    split
    · exact follows_empty
    · exact (separates_ofText (by decide)).append_reads (opens_listed .row readsColumns).reads
  | .rows rows =>
    have read := reads_renderRows context rows rawFree
    unfold InsertBody.render
    generalize renderRows context rows = rendered at read
    match rendered with
    | [] => exact lexes_fail _ _
    | [] :: _ => exact lexes_fail _ _
    | (first :: others) :: rest =>
      exact follows_rowsText _ (reads_rowsOf _ (reads_ofText (by decide)) read)

/-- A constraint is a path; the columns of a conflict are names in parentheses. -/
theorem follows_renderConflict (context : Context) (constraint : Option String)
    (conflict : Option (List Operand)) (plain : constraint.all isPlainPath)
    (rawFree : areRawFreeOptionalNames context conflict) :
    (renderConflict context constraint conflict).Follows := by
  match constraint, conflict with
  | some name, _ =>
    unfold renderConflict
    exact lexes_ofText_append ((separates_ofText (by decide)).append_reads (reads_quotePath plain))
  | none, some (first :: rest) =>
    obtain ⟨inFirst, inRest⟩ := Bool.and_eq_true_iff.mp rawFree
    have names := opens_listed .row (List.forall_mem_cons.mpr
      ⟨first.reads_renderName context inFirst, reads_renderNames context rest inRest⟩)
    exact (separates_ofText (by decide)).append_reads names.reads
  | none, some [] => exact follows_empty
  | none, none => exact follows_empty

/-- An insertion. -/
theorem Insert.reads_render (context : Context) (statement : Insert)
    (rawFree : statement.isRawFree context) : (statement.render context).Reads := by
  match statement with
  | ⟨table, columns, body, conflict, constraint, update, returning, misuse⟩ =>
    simp only [Insert.isRawFree, Bool.and_eq_true] at rawFree
    obtain ⟨⟨⟨⟨⟨⟨⟨inTable, inColumns⟩, inBody⟩, inConflict⟩, inConstraint⟩, plain⟩, inUpdate⟩,
      inReturning⟩ := rawFree
    exact reads_insertText misuse (table.reads_renderName context inTable)
      (InsertBody.follows_render context body (reads_renderNames context columns inColumns) inBody)
      (follows_handling (follows_renderConflict context constraint conflict inConstraint inConflict)
        (ColumnMap.isPlainPath_of_mem_cells context plain) (update.reads_cells context inUpdate))
      (reads_renderNames context returning inReturning)

/-- An update, or its fault if it has no assignments. -/
theorem Update.reads_render (context : Context) (statement : Update)
    (rawFree : statement.isRawFree context) : (statement.render context).Reads := by
  match statement with
  | ⟨table, assignments, sources, condition, returning⟩ =>
    simp only [Update.isRawFree, Bool.and_eq_true] at rawFree
    obtain ⟨⟨⟨⟨⟨inTable, plain⟩, inAssignments⟩, inSources⟩, inCondition⟩, inReturning⟩ := rawFree
    have plainCells := ColumnMap.isPlainPath_of_mem_cells context plain
    have readsCells := assignments.reads_cells context inAssignments
    unfold Update.render
    generalize assignments.cells context = cells at plainCells readsCells
    match cells with
    | [] => exact lexes_fail _ _
    | cell :: rest =>
      exact reads_updateText (table.reads_renderName context inTable) plainCells readsCells
        (reads_renderNames context sources inSources) (condition.reads_render context inCondition)
        (reads_renderNames context returning inReturning)

theorem Delete.reads_render (context : Context) (statement : Delete)
    (rawFree : statement.isRawFree context) : (statement.render context).Reads := by
  match statement with
  | ⟨table, sources, condition, returning⟩ =>
    simp only [Delete.isRawFree, Bool.and_eq_true] at rawFree
    obtain ⟨⟨⟨inTable, inSources⟩, inCondition⟩, inReturning⟩ := rawFree
    exact reads_deleteText (table.reads_renderName context inTable)
      (reads_renderNames context sources inSources) (condition.reads_render context inCondition)
      (reads_renderNames context returning inReturning)

end

end SqlTree
