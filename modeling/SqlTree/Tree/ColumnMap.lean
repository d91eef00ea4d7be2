/-
This file holds the operations on maps of columns. A column keeps the place
where it first came; setting it again changes its operand there, and removing
it makes room at the end.

The fields are a list, so that the order of the columns is part of the map and two
maps with the same fields in another order are two maps. What is under a column is
the first field with the column; the operations keep it the only one.
-/

import SqlTree.Tree.Basic

namespace SqlTree.ColumnMap

/-- The map without columns. -/
def empty : ColumnMap :=
  ⟨[]⟩

/-- The columns in their order. -/
def columns (map : ColumnMap) : List String :=
  map.fields.map Field.column

/-- How many columns there are. -/
def size (map : ColumnMap) : Nat :=
  map.fields.length

/-- Whether there are none. -/
def isEmpty (map : ColumnMap) : Bool :=
  map.fields.isEmpty

/-- What is under the column, if anything is. -/
def get? (map : ColumnMap) (column : String) : Option Operand :=
  (map.fields.find? fun field => field.column = column).map Field.operand

/-- Whether something is under the column. -/
def contains (map : ColumnMap) (column : String) : Bool :=
  (map.get? column).isSome

/-- Puts a field in the place of the one with its column, or else at the end. -/
def insertField (new : Field) : List Field → List Field
  | [] => [new]
  | field :: rest =>
    if field.column = new.column then new :: rest else field :: insertField new rest

/-- Puts the operand under the column. -/
def insert (map : ColumnMap) (column : String) (operand : Operand) : ColumnMap :=
  ⟨insertField ⟨column, operand⟩ map.fields⟩

/-- Removes the column. -/
def erase (map : ColumnMap) (column : String) : ColumnMap :=
  ⟨map.fields.filter fun field => field.column ≠ column⟩

/-- Sets a column to an operand that is there, or removes it. -/
def insertOptional (map : ColumnMap) (column : String) : Option Operand → ColumnMap
  | some operand => map.insert column operand
  | none => map.erase column

/-- Sets a column that the map does not have yet. -/
def insertNew (map : ColumnMap) (column : String) (operand : Operand) : ColumnMap :=
  if map.contains column then map else map.insert column operand

/-- Sets the columns of another map that this one does not have yet. -/
def insertNewAll (map other : ColumnMap) : ColumnMap :=
  other.fields.foldl (fun map field => map.insertNew field.column field.operand) map

/-- The map of a list of columns with their operands, the last of each column. -/
def ofList (entries : List (String × Operand)) : ColumnMap :=
  entries.foldl (fun map entry => map.insert entry.1 entry.2) empty

end SqlTree.ColumnMap
