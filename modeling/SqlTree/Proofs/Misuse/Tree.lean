/-
This file says in which trees a builder has recorded a misuse: a snippet with
operands that no marker takes, sources with a join before the first of them,
alone or in a query, and an insertion that was handed rows and a query. Some
parts of a tree are never written and idle in that sense. They count on demand:

- the column of a test for membership in an empty list;
- the operands of a row under columns that the first row does not have;
- the columns of an insertion that has rows;
- the columns of a conflict that is about a constraint;
- the assignments of an insertion that handles no conflict.
-/

import SqlTree.Tree.ColumnMap

namespace SqlTree

-- Whether parts that are never written count.
variable (idle : Bool)

mutual

/-- Whether a builder in the operand has recorded a misuse. -/
def Operand.hasMisuse : Operand → Bool
  | .value _ => false
  | .list items => haveMisuse items
  | .node inner => inner.hasMisuse

/-- Operands of a list, in either place. -/
def haveMisuse : List Operand → Bool
  | [] => false
  | operand :: rest => operand.hasMisuse || haveMisuse rest

/-- A node by its builder and by everything in it. -/
def Node.hasMisuse : Node → Bool
  | .identifier _ => false
  | .literal _ => false
  | .snippet snippet => snippet.hasMisuse
  | .unresolved operand => operand.hasMisuse
  | .renamed item => item.hasMisuse
  | .condition condition => condition.hasMisuse
  | .comparison comparison => comparison.hasMisuse
  | .jsonObject object => object.hasMisuse
  | .values list => list.hasMisuse
  | .sources list => list.hasMisuse
  | .join join => join.hasMisuse
  | .select statement => statement.hasMisuse
  | .insert statement => statement.hasMisuse
  | .update statement => statement.hasMisuse
  | .delete statement => statement.hasMisuse

/-- A snippet records that it has operands which no marker takes. -/
def Snippet.hasMisuse : Snippet → Bool
  | ⟨_, slots, misuse⟩ => misuse.isSome || slotsHaveMisuse slots

/-- The operands between stretches of text. -/
def slotsHaveMisuse : List Slot → Bool
  | [] => false
  | ⟨operand, _⟩ :: rest => operand.hasMisuse || slotsHaveMisuse rest

/-- An operand under a new name. -/
def Renaming.hasMisuse : Renaming → Bool
  | ⟨target, _⟩ => target.hasMisuse

/-- A condition. The column of a test without text counts on demand; the test has an empty
list on its other side, in which nothing is recorded. -/
def Condition.hasMisuse : Condition → Bool
  | .all members | .any members => membersHaveMisuse members
  | .negation inner => inner.hasMisuse
  | .existence query => query.hasMisuse
  | .test column comparison =>
    ((idle || comparison.isValid) && column.hasMisuse) || comparison.hasMisuse
  | .plain inner => inner.hasMisuse

/-- The members of a group. -/
def membersHaveMisuse : List Condition → Bool
  | [] => false
  | member :: rest => member.hasMisuse || membersHaveMisuse rest

/-- What a column is compared with. -/
def Comparison.hasMisuse : Comparison → Bool
  | .relation _ operand _ => operand.hasMisuse
  | .nullity _ => false
  | .like pattern _ => pattern.hasMisuse
  | .between low high => low.hasMisuse || high.hasMisuse
  | .membership operand _ => operand.hasMisuse

/-- Columns with their operands. -/
def ColumnMap.hasMisuse : ColumnMap → Bool
  | ⟨fields⟩ => fieldsHaveMisuse fields

/-- Fields, one after another. -/
def fieldsHaveMisuse : List Field → Bool
  | [] => false
  | ⟨_, operand⟩ :: rest => operand.hasMisuse || fieldsHaveMisuse rest

/-- The fields of a row that is written under some columns. Once a column is
found, it is not looked for any further. -/
def rowHasMisuse (columns : List String) : List Field → Bool
  | [] => false
  | ⟨column, operand⟩ :: rest =>
    ((idle || columns.contains column) && operand.hasMisuse)
      || rowHasMisuse (columns.filter (· ≠ column)) rest

/-- Later rows under the columns of the first one. -/
def rowsHaveMisuse (columns : List String) : List ColumnMap → Bool
  | [] => false
  | ⟨fields⟩ :: rest => rowHasMisuse columns fields || rowsHaveMisuse columns rest

/-- Rows that are written under the columns of the first one. -/
def tableHasMisuse : List ColumnMap → Bool
  | [] => false
  | ⟨fields⟩ :: rest =>
    rowHasMisuse (fields.map Field.column) fields
      || rowsHaveMisuse (fields.map Field.column) rest

/-- Members of a JSON object. A key records nothing. -/
def itemsHaveMisuse : List JsonItem → Bool
  | [] => false
  | .key _ :: rest | .keys _ :: rest => itemsHaveMisuse rest
  | .map columns :: rest => columns.hasMisuse || itemsHaveMisuse rest

/-- A JSON object built by the database. -/
def JsonObject.hasMisuse : JsonObject → Bool
  | ⟨items, _, _⟩ => itemsHaveMisuse items

/-- Rows as a table. -/
def ValuesList.hasMisuse : ValuesList → Bool
  | ⟨rows, _⟩ => tableHasMisuse rows

/-- A joined table and its condition. -/
def Join.hasMisuse : Join → Bool
  | ⟨_, table, condition⟩ => table.hasMisuse || condition.hasMisuse

/-- Joins, one after another. -/
def joinsHaveMisuse : List Join → Bool
  | [] => false
  | join :: rest => join.hasMisuse || joinsHaveMisuse rest

/-- Tables with what is joined to them. -/
def sourcesHaveMisuse : List Source → Bool
  | [] => false
  | ⟨table, joins⟩ :: rest =>
    table.hasMisuse || joinsHaveMisuse joins || sourcesHaveMisuse rest

/-- Sources record a join that comes before the first of them. -/
def SourceList.hasMisuse : SourceList → Bool
  | ⟨sources, misuse⟩ => misuse.isSome || sourcesHaveMisuse sources

/-- Keys of an order. -/
def orderKeysHaveMisuse : List OrderKey → Bool
  | [] => false
  | ⟨key, _⟩ :: rest => key.hasMisuse || orderKeysHaveMisuse rest

/-- Some keys, if there are any. -/
def keysHaveMisuse : Option (List Operand) → Bool
  | none => false
  | some operands => haveMisuse operands

/-- The table that rows are stored in, if there is one. -/
def targetHasMisuse : Option Operand → Bool
  | none => false
  | some table => table.hasMisuse

/-- A query has its sources and with them what they have recorded. -/
def Select.hasMisuse : Select → Bool
  | ⟨columns, distinct, target, ⟨sources, misuse⟩, condition, grouping, groupCondition,
      ordering, _, _⟩ =>
    misuse.isSome || keysHaveMisuse distinct || haveMisuse columns || targetHasMisuse target
      || sourcesHaveMisuse sources || condition.hasMisuse || haveMisuse grouping
      || groupCondition.hasMisuse || orderKeysHaveMisuse ordering

/-- The body of an insertion with the columns that a query fills. -/
def InsertBody.hasMisuse (columns : Bool) : InsertBody → Bool
  | .rows rows => (idle && columns) || tableHasMisuse rows
  | .query query => columns || query.hasMisuse

/-- An insertion records rows and a query together. Its columns and what it does about
conflicts count on demand where they are not written. -/
def Insert.hasMisuse : Insert → Bool
  | ⟨table, columns, body, conflict, constraint, update, returning, misuse⟩ =>
    misuse.isSome || table.hasMisuse || body.hasMisuse (haveMisuse columns)
      || ((idle || constraint.isNone) && keysHaveMisuse conflict)
      || ((idle || conflict.isSome || constraint.isSome) && update.hasMisuse)
      || haveMisuse returning

/-- An update records nothing of its own. -/
def Update.hasMisuse : Update → Bool
  | ⟨table, assignments, sources, condition, returning⟩ =>
    table.hasMisuse || assignments.hasMisuse || haveMisuse sources || condition.hasMisuse
      || haveMisuse returning

/-- A deletion records nothing of its own. -/
def Delete.hasMisuse : Delete → Bool
  | ⟨table, sources, condition, returning⟩ =>
    table.hasMisuse || haveMisuse sources || condition.hasMisuse || haveMisuse returning

end

end SqlTree
