/-
This file builds queries and what they read from: sources with joins, rows as a
table, and JSON objects. A join belongs to the source that came last before it.

A join that comes before every source is recorded, the first time only, and is not
kept. The steps of a query may be taken in any order: each clause of the statement
has a field of its own, and steps about one clause add to it in the order in which
they are taken, save for what can be said only once, where the last step counts.
-/

import SqlTree.Tree.Condition

namespace SqlTree

/-! ### Sources and joins -/

/-- A join. A clause that asks for nothing leaves no condition. -/
def Join.ofClause (kind : JoinKind) (table : Operand) (clause : Clause) : Join :=
  let condition := clause.condition .all
  { kind := kind
    table := table
    condition := if condition.isEmpty then .nothing else condition }

namespace SourceList

/-- The list without sources. -/
def empty : SourceList :=
  ⟨[], none⟩

/-- Adds a table at the end. -/
def addSource (list : SourceList) (table : Operand) : SourceList :=
  { list with sources := list.sources ++ [⟨table, []⟩] }

/-- Puts a join after those of the last source. -/
def joinLast (join : Join) : List Source → List Source
  | [] => []
  | [⟨table, joins⟩] => [⟨table, joins ++ [join]⟩]
  | source :: rest => source :: joinLast join rest

/-- Joins a table to the last source; without a source the step is recorded as
misuse and nothing else changes. -/
def addJoin (list : SourceList) (join : Join) : SourceList :=
  if list.sources.isEmpty then { list with misuse := list.misuse.or (some .joinBeforeSource) }
  else { list with sources := joinLast join list.sources }

end SourceList

/-! ### Rows as a table -/

namespace ValuesList

/-- The table without rows and without a name. -/
def empty : ValuesList :=
  ⟨[], none⟩

/-- Adds rows at the end. -/
def addRows (list : ValuesList) (rows : List ColumnMap) : ValuesList :=
  { list with rows := list.rows ++ rows }

/-- Names the table; the last name stays. -/
def named (list : ValuesList) (name : String) : ValuesList :=
  { list with name := some name }

end ValuesList

/-! ### JSON objects -/

namespace JsonObject

/-- An object with one item. -/
def ofItem (item : JsonItem) (binary : Bool) : JsonObject :=
  ⟨[item], none, binary⟩

/-- Adds an item at the end. -/
def addItem (object : JsonObject) (item : JsonItem) : JsonObject :=
  { object with items := object.items ++ [item] }

/-- Takes the columns under their own names from a table; the last table stays. -/
def qualified (object : JsonObject) (table : String) : JsonObject :=
  { object with qualifier := some table }

end JsonObject

/-! ### Queries -/

namespace Select

/-- The query of all columns of nothing. -/
def empty : Select :=
  { columns := []
    distinct := none
    target := none
    sources := .empty
    condition := .nothing
    grouping := []
    groupCondition := .nothing
    ordering := []
    limit := none
    offset := none }

variable (query : Select)

/-- Adds columns to those that are asked for. -/
def addColumns (columns : List Operand) : Select :=
  { query with columns := query.columns ++ columns }

/-- Keeps one of equal rows, or one row for each value of the keys. -/
def distinctOn (keys : List Operand) : Select :=
  { query with distinct := some keys }

/-- Stores the rows in a new table. -/
def into (table : Operand) : Select :=
  { query with target := some table }

/-- Reads from a further table. -/
def addSource (table : Operand) : Select :=
  { query with sources := query.sources.addSource table }

def addJoin (join : Join) : Select :=
  { query with sources := query.sources.addJoin join }

/-- Asks for one more clause of every row. -/
def addCondition (clause : Clause) : Select :=
  { query with condition := query.condition.and clause }

/-- Asks for one more clause of every group. -/
def addGroupCondition (clause : Clause) : Select :=
  { query with groupCondition := query.groupCondition.and clause }

/-- Groups by further columns. -/
def addGrouping (columns : List Operand) : Select :=
  { query with grouping := query.grouping ++ columns }

/-- Adds a key after those that come first in the order. -/
def addOrderKey (key : Operand) (direction : Option Direction) : Select :=
  { query with ordering := query.ordering ++ [⟨key, direction⟩] }

/-- At most so many rows; the last call counts. -/
def withLimit (count : UInt64) : Select :=
  { query with limit := some count }

/-- Leaves out so many rows; the last call counts. -/
def withOffset (count : UInt64) : Select :=
  { query with offset := some count }

/-- The largest count of rows. -/
def largestCount : Nat := 18446744073709551615

/-- The product of two counts, or the largest count where it is larger than that. -/
def saturatingProduct (left right : UInt64) : UInt64 :=
  UInt64.ofNat (min (left.toNat * right.toNat) largestCount)

/-- One page of rows. Pages are counted from one, and page zero and the page
size zero are taken for one. -/
def paginate (page size : UInt64) : Select :=
  let page := max page 1
  let size := max size 1
  { query with limit := some size, offset := some (saturatingProduct (page - 1) size) }

end Select

end SqlTree
