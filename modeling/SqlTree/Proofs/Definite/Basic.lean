/-
This file says which trees are definite: no operand in them is left open between
a name and a value. A text that is unresolved names a column in a join condition
and is a value elsewhere; everything else that is unresolved is a value wherever
it stands.

The question is one about the tree alone and has no context in it, unlike the
rendering. It goes into every part, whether it is written or not, and also into
statements and conditions of joins, where the context around the tree has no say
any more. So it asks for more than a tree needs that is written in the same way in
either context. What it gives in return is easy to see to: a tree is definite if
it was put together without unresolved texts, however it was put together.
-/

import SqlTree.Tree.Basic

namespace SqlTree

mutual

/-- Whether no text in the operand is unresolved. -/
def Operand.isDefinite : Operand → Bool
  | .value _ => true
  | .list items => areDefinite items
  | .node inner => inner.isDefinite

/-- Operands of a list, in either place. -/
def areDefinite : List Operand → Bool
  | [] => true
  | operand :: rest => operand.isDefinite && areDefinite rest

/-- Whether no text in the node is unresolved, at any depth. -/
def Node.isDefinite : Node → Bool
  | .identifier _ | .literal _ => true
  | .snippet snippet => snippet.isDefinite
  | .unresolved operand => !operand.isText && operand.isDefinite
  | .renamed item => item.isDefinite
  | .condition condition => condition.isDefinite
  | .comparison comparison => comparison.isDefinite
  | .jsonObject object => object.isDefinite
  | .values list => list.isDefinite
  | .sources list => list.isDefinite
  | .join join => join.isDefinite
  | .select statement => statement.isDefinite
  | .insert statement => statement.isDefinite
  | .update statement => statement.isDefinite
  | .delete statement => statement.isDefinite

/-- A snippet, by its operands. -/
def Snippet.isDefinite : Snippet → Bool
  | ⟨_, slots, _⟩ => areDefiniteSlots slots

/-- The operands between stretches of text. -/
def areDefiniteSlots : List Slot → Bool
  | [] => true
  | ⟨operand, _⟩ :: rest => operand.isDefinite && areDefiniteSlots rest

/-- An operand under a new name. -/
def Renaming.isDefinite : Renaming → Bool
  | ⟨target, _⟩ => target.isDefinite

/-- A condition, by what its tests compare. -/
def Condition.isDefinite : Condition → Bool
  | .all members | .any members => areDefiniteMembers members
  | .negation inner => inner.isDefinite
  | .existence query => query.isDefinite
  | .test column comparison => column.isDefinite && comparison.isDefinite
  | .plain inner => inner.isDefinite

/-- The members of a group. -/
def areDefiniteMembers : List Condition → Bool
  | [] => true
  | member :: rest => member.isDefinite && areDefiniteMembers rest

/-- What a column is compared with. This is where unresolved texts stand as a rule. -/
def Comparison.isDefinite : Comparison → Bool
  | .relation _ operand _ | .like operand _ | .membership operand _ => operand.isDefinite
  | .nullity _ => true
  | .between low high => low.isDefinite && high.isDefinite

/-- Columns with their operands. -/
def ColumnMap.isDefinite : ColumnMap → Bool
  | ⟨fields⟩ => areDefiniteFields fields

/-- Fields, one after another. -/
def areDefiniteFields : List Field → Bool
  | [] => true
  | ⟨_, operand⟩ :: rest => operand.isDefinite && areDefiniteFields rest

/-- Members of a JSON object. A key is settled. -/
def areDefiniteItems : List JsonItem → Bool
  | [] => true
  | .key _ :: rest | .keys _ :: rest => areDefiniteItems rest
  | .map columns :: rest => columns.isDefinite && areDefiniteItems rest

/-- A JSON object built by the database. -/
def JsonObject.isDefinite : JsonObject → Bool
  | ⟨items, _, _⟩ => areDefiniteItems items

/-- Rows, with all of their columns. -/
def areDefiniteRows : List ColumnMap → Bool
  | [] => true
  | row :: rest => row.isDefinite && areDefiniteRows rest

/-- Rows as a table. -/
def ValuesList.isDefinite : ValuesList → Bool
  | ⟨rows, _⟩ => areDefiniteRows rows

/-- A joined table. Its condition is in the context of a join wherever the join itself
stands, and is asked all the same. -/
def Join.isDefinite : Join → Bool
  | ⟨_, table, condition⟩ => table.isDefinite && condition.isDefinite

/-- Joins, one after another. -/
def areDefiniteJoins : List Join → Bool
  | [] => true
  | join :: rest => join.isDefinite && areDefiniteJoins rest

/-- Tables with what is joined to them. -/
def areDefiniteSources : List Source → Bool
  | [] => true
  | ⟨table, joins⟩ :: rest =>
    table.isDefinite && areDefiniteJoins joins && areDefiniteSources rest

/-- A list of sources as a node of its own. -/
def SourceList.isDefinite : SourceList → Bool
  | ⟨sources, _⟩ => areDefiniteSources sources

/-- Keys of an order. -/
def areDefiniteOrderKeys : List OrderKey → Bool
  | [] => true
  | ⟨key, _⟩ :: rest => key.isDefinite && areDefiniteOrderKeys rest

/-- Some keys, if there are any. -/
def areDefiniteKeys : Option (List Operand) → Bool
  | none => true
  | some operands => areDefinite operands

/-- The table that rows are stored in, if there is one. -/
def isDefiniteTarget : Option Operand → Bool
  | none => true
  | some table => table.isDefinite

/-- A query, clause by clause. -/
def Select.isDefinite : Select → Bool
  | ⟨columns, distinct, target, ⟨sources, _⟩, condition, grouping, groupCondition, ordering,
      _, _⟩ =>
    areDefinite columns && areDefiniteKeys distinct && isDefiniteTarget target
      && areDefiniteSources sources && condition.isDefinite && areDefinite grouping
      && groupCondition.isDefinite && areDefiniteOrderKeys ordering

/-- Where the rows of an insertion come from. -/
def InsertBody.isDefinite : InsertBody → Bool
  | .query query => query.isDefinite
  | .rows rows => areDefiniteRows rows

/-- An insertion. -/
def Insert.isDefinite : Insert → Bool
  | ⟨table, columns, body, conflict, _, update, returning, _⟩ =>
    table.isDefinite && areDefinite columns && body.isDefinite && areDefiniteKeys conflict
      && update.isDefinite && areDefinite returning

/-- An update. -/
def Update.isDefinite : Update → Bool
  | ⟨table, assignments, sources, condition, returning⟩ =>
    table.isDefinite && assignments.isDefinite && areDefinite sources && condition.isDefinite
      && areDefinite returning

/-- A deletion. -/
def Delete.isDefinite : Delete → Bool
  | ⟨table, sources, condition, returning⟩ =>
    table.isDefinite && areDefinite sources && condition.isDefinite && areDefinite returning

end

end SqlTree
