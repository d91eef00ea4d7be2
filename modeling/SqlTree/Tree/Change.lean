/-
This file builds the statements that change tables: insertions, updates and
deletions. An assignment stays as it was first made. An insertion takes its
rows from a list or from a query but not from both, and the first step that
would mix them is recorded.

Each step is a function from a statement to the next one, and no step fails. What
a step of an insertion cannot take is recorded in the statement, the first time
only, and the rest of the statement stays as it is. The columns of an insertion
are those that a query fills; rows carry their own, and the first row decides
which there are.
-/

import SqlTree.Tree.ColumnMap
import SqlTree.Tree.Condition

namespace SqlTree

/-! ### Insertions -/

namespace Insert

/-- An insertion into the table, with nothing to insert yet. -/
def ofTable (table : Operand) : Insert :=
  { table := table
    columns := []
    body := .rows []
    conflict := none
    constraint := none
    update := .empty
    returning := []
    misuse := none }

variable (statement : Insert)

/-- Keeps the first misuse. -/
def record (misuse : Misuse) : Insert :=
  { statement with misuse := statement.misuse.or (some misuse) }

/-- Adds a row, unless there is a query. -/
def addRow (row : ColumnMap) : Insert :=
  match statement.body with
  | .rows rows => { statement with body := .rows (rows ++ [row]) }
  | .query _ => statement.record .queryExists

/-- Adds rows one by one. -/
def addRows (rows : List ColumnMap) : Insert :=
  rows.foldl addRow statement

/-- Takes the rows from a query. -/
def fromQuery (query : Node) : Insert :=
  match statement.body with
  | .query _ => statement.record .queryExists
  | .rows [] => { statement with body := .query query }
  | .rows _ => statement.record .rowsExist

/-- The columns that a query fills. -/
def addColumns (columns : List Operand) : Insert :=
  { statement with columns := statement.columns ++ columns }

/-- Handles conflicts on some columns; the last set of columns stays. -/
def onConflict (columns : List Operand) : Insert :=
  { statement with conflict := some columns }

/-- Handles conflicts with a constraint, which goes before columns. -/
def onConstraint (name : String) : Insert :=
  { statement with constraint := some name }

/-- Assigns on conflict. -/
def addUpdate (assignments : ColumnMap) : Insert :=
  { statement with update := statement.update.insertNewAll assignments }

/-- The column of the row that was proposed for insertion. -/
def proposed (column : String) : Operand :=
  .path ("EXCLUDED." ++ column)

/-- Assigns on conflict what was proposed for insertion. -/
def addUpdateColumns (columns : List String) : Insert :=
  { statement with
    update := columns.foldl (fun update column => update.insertNew column (proposed column))
      statement.update }

/-- Returns further columns. -/
def addReturning (columns : List Operand) : Insert :=
  { statement with returning := statement.returning ++ columns }

end Insert

/-! ### Updates -/

namespace Update

/-- An update of all rows of the table, with nothing assigned yet. -/
def ofTable (table : Operand) : Update :=
  { table := table
    assignments := .empty
    sources := []
    condition := .nothing
    returning := [] }

variable (statement : Update)

/-- Assigns the operand, unless the column is assigned already. -/
def assign (column : String) (operand : Operand) : Update :=
  { statement with assignments := statement.assignments.insertNew column operand }

/-- Assigns what the map has, column by column. -/
def assignAll (assignments : ColumnMap) : Update :=
  { statement with assignments := statement.assignments.insertNewAll assignments }

/-- Reads from a further table. -/
def addSource (table : Operand) : Update :=
  { statement with sources := statement.sources ++ [table] }

/-- Adds to what the rows have to satisfy. -/
def addCondition (clause : Clause) : Update :=
  { statement with condition := statement.condition.and clause }

/-- Returns further columns. -/
def addReturning (columns : List Operand) : Update :=
  { statement with returning := statement.returning ++ columns }

end Update

/-! ### Deletions -/

namespace Delete

/-- A deletion of all rows of the table. -/
def ofTable (table : Operand) : Delete :=
  { table := table
    sources := []
    condition := .nothing
    returning := [] }

variable (statement : Delete)

/-- Reads from a further table. -/
def addSource (table : Operand) : Delete :=
  { statement with sources := statement.sources ++ [table] }

/-- Adds to what the rows have to satisfy. -/
def addCondition (clause : Clause) : Delete :=
  { statement with condition := statement.condition.and clause }

/-- Returns further columns. -/
def addReturning (columns : List Operand) : Delete :=
  { statement with returning := statement.returning ++ columns }

end Delete

end SqlTree
