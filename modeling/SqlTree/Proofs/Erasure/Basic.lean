/-
This file erases the texts that stand where values are wanted. Two trees that
are the same once these texts are erased differ in nothing else. Texts that
stand where names are wanted are left alone.

Where an operand stands decides what becomes of its texts, so the erasure goes the
way that the rendering goes: it takes operands as values or as names, carries the
context of a join condition along, and starts anew with each statement. It is made
without a look at what is written. Texts in parts that are never written are
erased like the others, which makes two trees that differ in these only the same.

Nothing but texts changes. The items of an array stay as many as they were, a null
stays a null, and so does every name, key and count, as the later files need it:
what is written of a tree and of the erased tree has the same shape.
-/

import SqlTree.Tree.Render

namespace SqlTree

/-! ### Scalars -/

mutual

/-- The scalar with its texts emptied, also those in an array. -/
def Value.erased : Value → Value
  | .text _ => .text ""
  | .array items => .array (erasedItems items)
  | .null => .null
  | .bool value => .bool value
  | .integer value => .integer value
  | .float value => .float value
  | .bytes value => .bytes value
  | .json value => .json value
  | .timestamp value => .timestamp value
  | .uuid value => .uuid value

/-- The items of an array, each with its texts emptied. -/
def Value.erasedItems : List Value → List Value
  | [] => []
  | item :: rest => item.erased :: erasedItems rest

end

/-! ### The tree -/

mutual

/-- An operand where a value is wanted. -/
def Operand.erasedValue (context : Context) : Operand → Operand
  | .value scalar => .value scalar.erased
  | .list items => .list (erasedValues context items)
  | .node (.unresolved operand) =>
    .node (.unresolved (if context = .joinCondition ∧ operand.isText then operand.erasedName context
      else operand.erasedValue context))
  | .node inner =>
    .node (if inner.isStatement then inner.erased .ordinary else inner.erased context)

/-- An operand where a name is wanted: its scalars stay as they are. -/
def Operand.erasedName (context : Context) : Operand → Operand
  | .value scalar => .value scalar
  | .list items => .list (erasedNames context items)
  | .node inner =>
    .node (if inner.isStatement then inner.erased .ordinary else inner.erased context)

/-- Operands where values are wanted. -/
def erasedValues (context : Context) : List Operand → List Operand
  | [] => []
  | operand :: rest => operand.erasedValue context :: erasedValues context rest

/-- Operands where names are wanted. -/
def erasedNames (context : Context) : List Operand → List Operand
  | [] => []
  | operand :: rest => operand.erasedName context :: erasedNames context rest

/-- The tree with the texts emptied that stand where values are wanted. -/
def Node.erased (context : Context) : Node → Node
  | .identifier identifier => .identifier identifier
  | .literal ⟨value, cast⟩ => .literal ⟨value.erased, cast⟩
  | .snippet snippet => .snippet (snippet.erased context)
  | .unresolved operand => .unresolved operand
  | .renamed item => .renamed (item.erased context)
  | .condition condition => .condition (condition.erased context)
  | .comparison comparison => .comparison (comparison.erased context)
  | .jsonObject object => .jsonObject (object.erased context)
  | .values list => .values (list.erased context)
  | .sources list => .sources (list.erased context)
  | .join join => .join (join.erased context)
  | .select statement => .select (statement.erased context)
  | .insert statement => .insert (statement.erased context)
  | .update statement => .update (statement.erased context)
  | .delete statement => .delete (statement.erased context)

/-- A snippet keeps its text and what it has recorded. -/
def Snippet.erased (context : Context) : Snippet → Snippet
  | ⟨head, slots, misuse⟩ => ⟨head, erasedSlots context slots, misuse⟩

/-- The operands of a snippet are values. -/
def erasedSlots (context : Context) : List Slot → List Slot
  | [] => []
  | ⟨operand, after⟩ :: rest => ⟨operand.erasedValue context, after⟩ :: erasedSlots context rest

/-- An operand under a new name is a name, and so is the new one. -/
def Renaming.erased (context : Context) : Renaming → Renaming
  | ⟨target, name⟩ => ⟨target.erasedName context, name⟩

/-- A condition keeps its form. No member gets lost or comes without a text that
had one. -/
def Condition.erased (context : Context) : Condition → Condition
  | .all members => .all (erasedMembers context members)
  | .any members => .any (erasedMembers context members)
  | .negation inner => .negation (inner.erased context)
  | .existence query =>
    .existence (query.erased (if query.isStatement then .ordinary else context))
  | .test column comparison => .test (column.erasedName context) (comparison.erased context)
  | .plain inner => .plain (inner.erased context)

/-- The members of a group. -/
def erasedMembers (context : Context) : List Condition → List Condition
  | [] => []
  | member :: rest => member.erased context :: erasedMembers context rest

/-- The operands of a comparison are values. A list stays a list of as many items, so it
is empty if it was. -/
def Comparison.erased (context : Context) : Comparison → Comparison
  | .relation relation operand quantifier =>
    .relation relation (operand.erasedValue context) quantifier
  | .nullity negated => .nullity negated
  | .like pattern insensitive => .like (pattern.erasedValue context) insensitive
  | .between low high => .between (low.erasedValue context) (high.erasedValue context)
  | .membership (.list items) negated => .membership (.list (erasedValues context items)) negated
  | .membership (.node inner) negated =>
    .membership (.node (inner.erased (if inner.isStatement then .ordinary else context))) negated
  | .membership (.value scalar) negated => .membership (.value scalar.erased) negated

/-- Columns with their operands as values. -/
def ColumnMap.erasedValues (context : Context) : ColumnMap → ColumnMap
  | ⟨fields⟩ => ⟨erasedFields context fields⟩

/-- Fields whose operands are values. -/
def erasedFields (context : Context) : List Field → List Field
  | [] => []
  | ⟨column, operand⟩ :: rest => ⟨column, operand.erasedValue context⟩ :: erasedFields context rest

/-- Columns with their operands as names. -/
def ColumnMap.erasedNames (context : Context) : ColumnMap → ColumnMap
  | ⟨fields⟩ => ⟨erasedNameFields context fields⟩

/-- Fields whose operands are names. -/
def erasedNameFields (context : Context) : List Field → List Field
  | [] => []
  | ⟨column, operand⟩ :: rest =>
    ⟨column, operand.erasedName context⟩ :: erasedNameFields context rest

/-- Members of a JSON object. Keys are texts of the object's own and stay. -/
def erasedJsonItems (context : Context) : List JsonItem → List JsonItem
  | [] => []
  | .key key :: rest => .key key :: erasedJsonItems context rest
  | .keys keys :: rest => .keys keys :: erasedJsonItems context rest
  | .map columns :: rest => .map (columns.erasedNames context) :: erasedJsonItems context rest

/-- A JSON object built by the database. -/
def JsonObject.erased (context : Context) : JsonObject → JsonObject
  | ⟨items, qualifier, binary⟩ => ⟨erasedJsonItems context items, qualifier, binary⟩

/-- Rows with the same columns as before. -/
def erasedRows (context : Context) : List ColumnMap → List ColumnMap
  | [] => []
  | row :: rest => row.erasedValues context :: erasedRows context rest

/-- Rows as a table. -/
def ValuesList.erased (context : Context) : ValuesList → ValuesList
  | ⟨rows, name⟩ => ⟨erasedRows context rows, name⟩

/-- A joined table, with its condition in the context that makes names of unresolved
texts. -/
def Join.erased (context : Context) : Join → Join
  | ⟨kind, table, condition⟩ =>
    ⟨kind, table.erasedName context, condition.erased .joinCondition⟩

/-- Joins, one after another. -/
def erasedJoins (context : Context) : List Join → List Join
  | [] => []
  | join :: rest => join.erased context :: erasedJoins context rest

/-- Tables with what is joined to them. -/
def erasedSources (context : Context) : List Source → List Source
  | [] => []
  | ⟨table, joins⟩ :: rest =>
    ⟨table.erasedName context, erasedJoins context joins⟩ :: erasedSources context rest

/-- A list of sources as a node of its own. -/
def SourceList.erased (context : Context) : SourceList → SourceList
  | ⟨sources, misuse⟩ => ⟨erasedSources context sources, misuse⟩

/-- Keys of an order with their directions. -/
def erasedOrderKeys (context : Context) : List OrderKey → List OrderKey
  | [] => []
  | ⟨key, direction⟩ :: rest => ⟨key.erasedName context, direction⟩ :: erasedOrderKeys context rest

/-- Some names, if there are any. -/
def erasedOptionalNames (context : Context) : Option (List Operand) → Option (List Operand)
  | none => none
  | some operands => some (erasedNames context operands)

/-- The table that rows are stored in, if there is one. -/
def erasedTarget (context : Context) : Option Operand → Option Operand
  | none => none
  | some table => some (table.erasedName context)

/-- A query. -/
def Select.erased (context : Context) : Select → Select
  | ⟨columns, distinct, target, ⟨sources, misuse⟩, condition, grouping, groupCondition,
      ordering, limit, offset⟩ =>
    ⟨erasedNames context columns, erasedOptionalNames context distinct,
      erasedTarget context target, ⟨erasedSources context sources, misuse⟩,
      condition.erased context, erasedNames context grouping, groupCondition.erased context,
      erasedOrderKeys context ordering, limit, offset⟩

/-- Where the rows of an insertion come from. -/
def InsertBody.erased (context : Context) : InsertBody → InsertBody
  | .query query => .query (query.erased (if query.isStatement then .ordinary else context))
  | .rows rows => .rows (erasedRows context rows)

/-- An insertion keeps what it has recorded. -/
def Insert.erased (context : Context) : Insert → Insert
  | ⟨table, columns, body, conflict, constraint, update, returning, misuse⟩ =>
    ⟨table.erasedName context, erasedNames context columns, body.erased context,
      erasedOptionalNames context conflict, constraint, update.erasedValues context,
      erasedNames context returning, misuse⟩

/-- An update. -/
def Update.erased (context : Context) : Update → Update
  | ⟨table, assignments, sources, condition, returning⟩ =>
    ⟨table.erasedName context, assignments.erasedValues context, erasedNames context sources,
      condition.erased context, erasedNames context returning⟩

/-- A deletion. -/
def Delete.erased (context : Context) : Delete → Delete
  | ⟨table, sources, condition, returning⟩ =>
    ⟨table.erasedName context, erasedNames context sources, condition.erased context,
      erasedNames context returning⟩

end

end SqlTree
