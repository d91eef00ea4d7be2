/-
This file says which scalars a tree supplies: those that stand where values are
wanted, in the order in which the text comes to them. It is read off the tree
alone, without a look at what is written, so it says whose scalars they are that
a later file finds in the text or in the list of parameters.

An operand stands in one of two places. Where a value is wanted it supplies its
scalars, an array as a single one; where a name is wanted it supplies none, except
for the scalars of a node in its place. Inside the condition of a join an
unresolved text is a name. A statement inside another one starts anew.

Five parts supply nothing, because they are never written: what is compared with
an empty list, the operands of a later row that the first row has no column for,
the columns of an insertion that has rows of its own, the columns of a conflict
about a constraint, and the assignments for conflicts of an insertion that speaks
of no conflict. A row that lacks a column has something in its place: in a list of
values a null, which is supplied like any other, and in an insertion the default,
which is no scalar.
-/

import SqlTree.Tree.Render

namespace SqlTree

/-! ### Rows -/

/-- A column with the scalars that its operand supplies. -/
abbrev SuppliedCell := String × List Value

/-- What a row supplies under a column, or a substitute where it lacks the column. -/
def suppliedUnder (row : List SuppliedCell) (missing : List Value) (column : String) : List Value :=
  ((row.find? fun cell => cell.1 = column).map Prod.snd).getD missing

/-- What rows supply under the columns of the first one, row by row. -/
def suppliedByTable (missing : List Value) : List (List SuppliedCell) → List Value
  | [] => []
  | first :: rest =>
    (first :: rest).flatMap fun row => (first.map Prod.fst).flatMap (suppliedUnder row missing)

/-! ### The tree -/

mutual

/-- An operand where a value is wanted. -/
def Operand.suppliedAsValue (context : Context) : Operand → List Value
  | .value scalar => [scalar]
  | .list items => suppliedAsValues context items
  | .node (.unresolved operand) =>
    if context = .joinCondition ∧ operand.isText then [] else operand.suppliedAsValue context
  | .node inner => if inner.isStatement then inner.supplied .ordinary else inner.supplied context

/-- An operand where a name is wanted. -/
def Operand.suppliedAsName (context : Context) : Operand → List Value
  | .value _ => []
  | .list items => suppliedAsNames context items
  | .node inner => if inner.isStatement then inner.supplied .ordinary else inner.supplied context

/-- The items of a list where values are wanted, whether it is written as an array or as a
row. -/
def suppliedAsValues (context : Context) : List Operand → List Value
  | [] => []
  | operand :: rest => operand.suppliedAsValue context ++ suppliedAsValues context rest

/-- The items of a list where names are wanted: their own scalars are names as well. -/
def suppliedAsNames (context : Context) : List Operand → List Value
  | [] => []
  | operand :: rest => operand.suppliedAsName context ++ suppliedAsNames context rest

/-- The scalars of a tree that stand where values are wanted. -/
def Node.supplied (context : Context) : Node → List Value
  | .identifier _ => []
  | .literal literal => [literal.value]
  | .snippet snippet => snippet.supplied context
  | .unresolved _ => []
  | .renamed item => item.supplied context
  | .condition condition => condition.supplied context
  | .comparison comparison => comparison.supplied context
  | .jsonObject object => object.supplied context
  | .values list => list.supplied context
  | .sources list => list.supplied context
  | .join join => join.supplied context
  | .select statement => statement.supplied context
  | .insert statement => statement.supplied context
  | .update statement => statement.supplied context
  | .delete statement => statement.supplied context

/-- A snippet: its own text supplies nothing. -/
def Snippet.supplied (context : Context) : Snippet → List Value
  | ⟨_, slots, _⟩ => suppliedBySlots context slots

/-- The operands between stretches of text are values whatever the text says. -/
def suppliedBySlots (context : Context) : List Slot → List Value
  | [] => []
  | ⟨operand, _⟩ :: rest => operand.suppliedAsValue context ++ suppliedBySlots context rest

/-- An operand under a new name is a name itself. -/
def Renaming.supplied (context : Context) : Renaming → List Value
  | ⟨target, _⟩ => target.suppliedAsName context

/-- A condition. A test that compares with an empty list has no text. -/
def Condition.supplied (context : Context) : Condition → List Value
  | .all members | .any members => suppliedByMembers context members
  | .negation inner => inner.supplied context
  | .existence query => query.supplied (if query.isStatement then .ordinary else context)
  | .test column comparison =>
    if comparison.isValid then column.suppliedAsName context ++ comparison.supplied context else []
  | .plain inner => inner.supplied context

/-- The members of a group, also those that turn out to have no text: these have no
scalars either. -/
def suppliedByMembers (context : Context) : List Condition → List Value
  | [] => []
  | member :: rest => member.supplied context ++ suppliedByMembers context rest

/-- What a column is compared with. A list that a column is a member of is written as a
row, and a query in parentheses; both supply what is in them. -/
def Comparison.supplied (context : Context) : Comparison → List Value
  | .relation _ operand _ => operand.suppliedAsValue context
  | .nullity _ => []
  | .like pattern _ => pattern.suppliedAsValue context
  | .between low high => low.suppliedAsValue context ++ high.suppliedAsValue context
  | .membership (.list items) _ => suppliedAsValues context items
  | .membership (.node inner) _ =>
    inner.supplied (if inner.isStatement then .ordinary else context)
  | .membership (.value scalar) _ => [scalar]

/-- The columns with what their operands supply as values. -/
def ColumnMap.suppliedCells (context : Context) : ColumnMap → List SuppliedCell
  | ⟨fields⟩ => suppliedByCells context fields

/-- Each column keeps what its operand supplies to itself, so rows can be put in the order
of other columns. -/
def suppliedByCells (context : Context) : List Field → List SuppliedCell
  | [] => []
  | ⟨column, operand⟩ :: rest =>
    (column, operand.suppliedAsValue context) :: suppliedByCells context rest

/-- What the operands of columns supply as names. -/
def ColumnMap.suppliedAsNames (context : Context) : ColumnMap → List Value
  | ⟨fields⟩ => suppliedByFields context fields

/-- Columns whose operands are names, one after another. -/
def suppliedByFields (context : Context) : List Field → List Value
  | [] => []
  | ⟨_, operand⟩ :: rest => operand.suppliedAsName context ++ suppliedByFields context rest

/-- Members of a JSON object. A key names a column, and so does an operand under a given
key. -/
def suppliedByItems (context : Context) : List JsonItem → List Value
  | [] => []
  | .key _ :: rest => suppliedByItems context rest
  | .keys _ :: rest => suppliedByItems context rest
  | .map columns :: rest => columns.suppliedAsNames context ++ suppliedByItems context rest

/-- A JSON object, in which the keys are texts of the statement and not scalars. -/
def JsonObject.supplied (context : Context) : JsonObject → List Value
  | ⟨items, _, _⟩ => suppliedByItems context items

/-- Rows, each with all of its columns; which of them are written is up to the
first row. -/
def suppliedRows (context : Context) : List ColumnMap → List (List SuppliedCell)
  | [] => []
  | row :: rest => row.suppliedCells context :: suppliedRows context rest

/-- Rows as a table, with a null for what a row lacks. -/
def ValuesList.supplied (context : Context) : ValuesList → List Value
  | ⟨rows, _⟩ => suppliedByTable [.null] (suppliedRows context rows)

/-- A joined table. Its condition is the place where unresolved texts are names. -/
def Join.supplied (context : Context) : Join → List Value
  | ⟨_, table, condition⟩ => table.suppliedAsName context ++ condition.supplied .joinCondition

/-- Joins, one after another. -/
def suppliedByJoins (context : Context) : List Join → List Value
  | [] => []
  | join :: rest => join.supplied context ++ suppliedByJoins context rest

/-- Tables with what is joined to them. -/
def suppliedBySources (context : Context) : List Source → List Value
  | [] => []
  | ⟨table, joins⟩ :: rest =>
    table.suppliedAsName context ++ suppliedByJoins context joins ++ suppliedBySources context rest

/-- A list of sources as a node of its own. -/
def SourceList.supplied (context : Context) : SourceList → List Value
  | ⟨sources, _⟩ => suppliedBySources context sources

/-- Keys of an order are names, whatever their direction. -/
def suppliedByOrderKeys (context : Context) : List OrderKey → List Value
  | [] => []
  | ⟨key, _⟩ :: rest => key.suppliedAsName context ++ suppliedByOrderKeys context rest

/-- Some names, if there are any. -/
def suppliedAsOptionalNames (context : Context) : Option (List Operand) → List Value
  | none => []
  | some operands => suppliedAsNames context operands

/-- The table that the rows of a query are stored in, if there is one. -/
def suppliedByTarget (context : Context) : Option Operand → List Value
  | none => []
  | some table => table.suppliedAsName context

/-- A query. The clauses stand here in the order of the text, in which the keys of
distinct rows come before the columns; its limits are numbers of the statement and not
scalars. -/
def Select.supplied (context : Context) : Select → List Value
  | ⟨columns, distinct, target, ⟨sources, _⟩, condition, grouping, groupCondition, ordering,
      _, _⟩ =>
    suppliedAsOptionalNames context distinct ++ suppliedAsNames context columns
      ++ suppliedByTarget context target ++ suppliedBySources context sources
      ++ condition.supplied context ++ suppliedAsNames context grouping
      ++ groupCondition.supplied context ++ suppliedByOrderKeys context ordering

/-- The rows of an insertion, with nothing for what a row lacks, or a query after
what the columns supply that it fills. -/
def InsertBody.supplied (context : Context) (byColumns : List Value) : InsertBody → List Value
  | .query query =>
    byColumns ++ query.supplied (if query.isStatement then .ordinary else context)
  | .rows rows => suppliedByTable [] (suppliedRows context rows)

/-- An insertion. A constraint goes before the columns of a conflict, and without
either nothing is done about conflicts. -/
def Insert.supplied (context : Context) : Insert → List Value
  | ⟨table, columns, body, conflict, constraint, update, returning, _⟩ =>
    table.suppliedAsName context ++ body.supplied context (suppliedAsNames context columns)
      ++ (if conflict.isSome || constraint.isSome then
            (if constraint.isSome then [] else suppliedAsOptionalNames context conflict)
              ++ (update.suppliedCells context).flatMap Prod.snd
          else [])
      ++ suppliedAsNames context returning

/-- An update: its assignments come before the tables and the condition. -/
def Update.supplied (context : Context) : Update → List Value
  | ⟨table, assignments, sources, condition, returning⟩ =>
    table.suppliedAsName context ++ (assignments.suppliedCells context).flatMap Prod.snd
      ++ suppliedAsNames context sources ++ condition.supplied context
      ++ suppliedAsNames context returning

/-- A deletion. -/
def Delete.supplied (context : Context) : Delete → List Value
  | ⟨table, sources, condition, returning⟩ =>
    table.suppliedAsName context ++ suppliedAsNames context sources
      ++ condition.supplied context ++ suppliedAsNames context returning

end

end SqlTree
