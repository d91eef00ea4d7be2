/-
This file writes the statement tree into a sink. There is one traversal for
every sink: it hands the scalars over in the order in which their texts stand
in the statement, and it tells a condition that asks for nothing from others by
its text.

The cells of a row are actions that have not been run yet. The columns are known
before any of them is run, and so is what is missing in a row; then the cells are
run in the order in which they are written, each once. A statement that fails has
handed over the scalars before the fault.
-/

import SqlTree.Sink
import SqlTree.Tree.Render

namespace SqlTree

open Writing

/-! ### Texts -/

/-- A text in parentheses. -/
def parenthesizedText (text : String) : String :=
  "(" ++ text ++ ")"

/-- Texts with commas between them. -/
def commaText (texts : List String) : String :=
  ", ".intercalate texts

/-- Items as a row or as an array. -/
def listText (form : ListForm) (texts : List String) : String :=
  match form with
  | .array => "ARRAY[" ++ commaText texts ++ "]"
  | .row => parenthesizedText (commaText texts)

/-- A keyword and what follows it, or nothing if nothing follows. -/
def clauseText (keyword text : String) : String :=
  if text.isEmpty then "" else keyword ++ text

/-- A keyword and a list, or nothing for an empty list. -/
def listClauseText (keyword : String) (texts : List String) : String :=
  if texts.isEmpty then "" else keyword ++ commaText texts

/-- A number after a keyword, if there is one. -/
def countText (keyword : String) : Option UInt64 → String
  | some count => keyword ++ String.ofList (Digits.natural count.toNat)
  | none => ""

variable {State : Type}

/-! ### Cells -/

/-- A column with the action that writes its operand. -/
abbrev CellWriting (State : Type) := String × Writing State String

/-- A member of a JSON object under a given key. -/
def writeJsonMember (cell : CellWriting State) : Writing State String :=
  return quoteText cell.1 ++ ", " ++ (← cell.2)

/-- An assignment of a cell to its column. -/
def writeAssignment (cell : CellWriting State) : Writing State String :=
  return quotePath cell.1 ++ " = " ++ (← cell.2)

/-- What is done about a conflict. -/
def writeResolution (assignments : List (CellWriting State)) : Writing State String :=
  if assignments.isEmpty then return " DO NOTHING"
  else return " DO UPDATE SET " ++ commaText (← assignments.mapM writeAssignment)

/-- The cell of a column, or a substitute where the row lacks the column. -/
def writeCellOf (row : List (CellWriting State)) (missing : Writing State String)
    (column : String) : Writing State String :=
  ((row.find? fun cell => cell.1 = column).map Prod.snd).getD missing

/-- One row of cells in the order of the columns. -/
def writeRowOf (columns : List String) (missing : Writing State String)
    (row : List (CellWriting State)) : Writing State String :=
  return parenthesizedText (commaText (← columns.mapM (writeCellOf row missing)))

/-- Rows of cells, each in the order of the columns. -/
def writeRowsOf (columns : List String) (missing : Writing State String)
    (rows : List (List (CellWriting State))) : Writing State String :=
  return commaText (← rows.mapM (writeRowOf columns missing))

/-! ### Names -/

mutual

/-- A scalar where a name is wanted; no scalar is handed over for it. -/
def Value.writeName : Value → Writing State String
  | .null => throw (.unnameable .null)
  | .bool value => return quoteName (if value then "t" else "f")
  | .integer value => return quoteName (String.ofList (Digits.integer value.toInt))
  | .float value => return quoteName (String.ofList value.plain)
  | .text value => return quotePath value
  | .bytes value => throw (.unnameable (.bytes value))
  | .json value => throw (.unnameable (.json value))
  | .timestamp value => return quoteName (String.ofList value.plain)
  | .uuid value => return quoteName (String.ofList value.text)
  | .array items => return listText .row (← writeItemNames items)

/-- The items as names, one after another. -/
def Value.writeItemNames : List Value → Writing State (List String)
  | [] => return []
  | item :: rest => return (← item.writeName) :: (← writeItemNames rest)

end

/-! ### The tree -/

variable (sink : Sink State)

/-- A scalar with its cast. -/
def Literal.write (literal : Literal) : Writing State String := do
  let text ← sink.write literal.value
  match literal.cast with
  | some type => return text ++ "::" ++ type
  | none => return text

mutual

/-- An operand where a value is wanted. -/
def Operand.writeValue (context : Context) (form : ListForm) : Operand → Writing State String
  | .value scalar => sink.write scalar
  | .list items => return listText form (← writeValues context form items)
  | .node (.unresolved operand) =>
    if context = .joinCondition ∧ operand.isText then operand.writeName context
    else operand.writeValue context form
  | .node inner =>
    if inner.isStatement then return parenthesizedText (← inner.write .ordinary)
    else inner.write context

/-- An operand where a name is wanted. -/
def Operand.writeName (context : Context) : Operand → Writing State String
  | .value scalar => scalar.writeName
  | .list items => return listText .row (← writeNames context items)
  | .node inner =>
    if inner.isStatement then return parenthesizedText (← inner.write .ordinary)
    else inner.write context

/-- Operands as values, one after another. -/
def writeValues (context : Context) (form : ListForm) : List Operand → Writing State (List String)
  | [] => return []
  | operand :: rest =>
    return (← operand.writeValue context form) :: (← writeValues context form rest)

/-- Operands as names, one after another. -/
def writeNames (context : Context) : List Operand → Writing State (List String)
  | [] => return []
  | operand :: rest => return (← operand.writeName context) :: (← writeNames context rest)

/-- A node as it stands. -/
def Node.write (context : Context) : Node → Writing State String
  | .identifier identifier => return identifier.text
  | .literal literal => literal.write sink
  | .snippet snippet => snippet.write context
  | .unresolved _ => throw .unresolved
  | .renamed item => item.write context
  | .condition condition => condition.write context
  | .comparison comparison => comparison.write context
  | .jsonObject object => object.write context
  | .values list => list.write context
  | .sources list => list.write context
  | .join join => join.write context
  | .select statement => statement.write context
  | .insert statement => statement.write context
  | .update statement => statement.write context
  | .delete statement => statement.write context

/-- A snippet, if nothing is recorded. Its operands are values. -/
def Snippet.write (context : Context) : Snippet → Writing State String
  | ⟨head, slots, misuse⟩ => do
    check misuse
    return head ++ (← writeSlots context slots)

/-- Operands as values, each with the text after it. -/
def writeSlots (context : Context) : List Slot → Writing State String
  | [] => return ""
  | ⟨operand, after⟩ :: rest =>
    return (← operand.writeValue context .array) ++ after ++ (← writeSlots context rest)

/-- What is renamed, with its new name. -/
def Renaming.write (context : Context) : Renaming → Writing State String
  | ⟨target, name⟩ => return (← target.writeName context) ++ " AS " ++ quoteName name

/-- A condition. A group inside a group keeps its parentheses. -/
def Condition.write (context : Context) : Condition → Writing State String
  | .all members => return " AND ".intercalate (← writeMembers context members)
  | .any members => return " OR ".intercalate (← writeMembers context members)
  | .negation inner => do
    let text ← inner.write context
    return if text.isEmpty then "" else "NOT " ++ parenthesizedText text
  | .existence query =>
    return "EXISTS " ++
      parenthesizedText (← query.write (if query.isStatement then .ordinary else context))
  | .test column comparison =>
    if comparison.isValid then
      return (← column.writeName context) ++ " " ++ (← comparison.write context)
    else return ""
  | .plain inner => inner.write context

/-- The members of a group that have a text. -/
def writeMembers (context : Context) : List Condition → Writing State (List String)
  | [] => return []
  | member :: rest => do
    let text ← member.write context
    let texts ← writeMembers context rest
    return if text.isEmpty then texts
      else (if member.isGroup then parenthesizedText text else text) :: texts

/-- A comparison without its column. -/
def Comparison.write (context : Context) : Comparison → Writing State String
  | .relation relation operand quantifier => do
    let text ← operand.writeValue context .array
    match quantifier with
    | none => return relation.symbol ++ " " ++ text
    | some quantifier =>
      return relation.symbol ++ " " ++ quantifier.keyword ++ " "
        ++ (if operand.isStatement then text else parenthesizedText text)
  | .nullity negated => return nullityText negated
  | .like pattern insensitive =>
    return likeKeyword insensitive ++ " " ++ (← pattern.writeValue context .array)
  | .between low high =>
    return "BETWEEN " ++ (← low.writeValue context .array)
      ++ " AND " ++ (← high.writeValue context .array)
  | .membership (.list []) _ => return ""
  | .membership (.list (first :: rest)) negated =>
    return membershipKeyword negated ++ " "
      ++ listText .row ((← first.writeValue context .row) :: (← writeValues context .row rest))
  | .membership (.node inner) negated =>
    return membershipKeyword negated ++ " "
      ++ parenthesizedText (← inner.write (if inner.isStatement then .ordinary else context))
  | .membership (.value scalar) negated =>
    return membershipKeyword negated ++ " " ++ parenthesizedText (← sink.write scalar)

/-- The columns with their operands as values. -/
def ColumnMap.writeCells (context : Context) : ColumnMap → List (CellWriting State)
  | ⟨fields⟩ => writeFields context fields

/-- The fields of a map with their operands as values. -/
def writeFields (context : Context) : List Field → List (CellWriting State)
  | [] => []
  | ⟨column, operand⟩ :: rest =>
    (column, operand.writeValue context .array) :: writeFields context rest

/-- The columns with their operands as names. -/
def ColumnMap.writeNameCells (context : Context) : ColumnMap → List (CellWriting State)
  | ⟨fields⟩ => writeNameFields context fields

/-- The fields of a map with their operands as names. -/
def writeNameFields (context : Context) : List Field → List (CellWriting State)
  | [] => []
  | ⟨column, operand⟩ :: rest =>
    (column, operand.writeName context) :: writeNameFields context rest

/-- The members of a JSON object. A map has columns under keys of its own. -/
def writeItems (context : Context) (qualifier : Option String) :
    List JsonItem → Writing State (List String)
  | [] => return []
  | .key key :: rest => return jsonKeyText qualifier key :: (← writeItems context qualifier rest)
  | .keys keys :: rest =>
    return keys.map (jsonKeyText qualifier) ++ (← writeItems context qualifier rest)
  | .map columns :: rest =>
    return (← (columns.writeNameCells context).mapM writeJsonMember)
      ++ (← writeItems context qualifier rest)

/-- An object as a call of the function that builds it. -/
def JsonObject.write (context : Context) : JsonObject → Writing State String
  | ⟨items, qualifier, binary⟩ =>
    return (if binary then "jsonb_build_object" else "json_build_object")
      ++ parenthesizedText (commaText (← writeItems context qualifier items))

/-- The cells of rows, row by row. -/
def writeRows (context : Context) : List ColumnMap → List (List (CellWriting State))
  | [] => []
  | row :: rest => row.writeCells context :: writeRows context rest

/-- Rows as a table. The first row has the columns; a later row that lacks one
has null in its place. -/
def ValuesList.write (context : Context) : ValuesList → Writing State String
  | ⟨rows, name⟩ =>
    match name, writeRows context rows with
    | none, _ => throw .valuesWithoutName
    | some _, [] => throw .valuesWithoutRows
    | some _, [] :: _ => throw .valuesWithoutColumns
    | some name, first :: rest => do
      let columns := first.map Prod.fst
      let rows ← writeRowsOf columns (sink.write .null) (first :: rest)
      return "(VALUES " ++ rows ++ ") " ++ quoteName name ++ "(" ++ columnNames columns ++ ")"

/-- A join, with its condition where unresolved texts are names. -/
def Join.write (context : Context) : Join → Writing State String
  | ⟨kind, table, condition⟩ => do
    let table ← table.writeName context
    return kind.keyword ++ " " ++ table ++ clauseText " ON " (← condition.write .joinCondition)

/-- The joins of a source, with a space before each. -/
def writeJoins (context : Context) : List Join → Writing State String
  | [] => return ""
  | join :: rest => return " " ++ (← join.write context) ++ (← writeJoins context rest)

/-- Sources, each with its joins. -/
def writeSources (context : Context) : List Source → Writing State (List String)
  | [] => return []
  | ⟨table, joins⟩ :: rest => do
    let text := (← table.writeName context) ++ (← writeJoins context joins)
    return text :: (← writeSources context rest)

/-- A list of sources, if nothing is recorded. -/
def SourceList.write (context : Context) : SourceList → Writing State String
  | ⟨sources, misuse⟩ => do
    check misuse
    return commaText (← writeSources context sources)

/-- The keys of an order, each with its direction if it has one. -/
def writeOrderKeys (context : Context) : List OrderKey → Writing State (List String)
  | [] => return []
  | ⟨key, direction⟩ :: rest => do
    let text ← key.writeName context
    let text := match direction with
      | some direction => text ++ " " ++ direction.keyword
      | none => text
    return text :: (← writeOrderKeys context rest)

/-- Whether equal rows are kept once, or one row for each value of some keys. -/
def writeDistinct (context : Context) : Option (List Operand) → Writing State String
  | none => return ""
  | some [] => return "DISTINCT "
  | some (first :: rest) =>
    return "DISTINCT ON "
      ++ listText .row ((← first.writeName context) :: (← writeNames context rest)) ++ " "

/-- The columns of a query; none stand for all of them. -/
def writeColumns (context : Context) : List Operand → Writing State String
  | [] => return "*"
  | first :: rest => return commaText ((← first.writeName context) :: (← writeNames context rest))

/-- The table that the rows of a query are stored in. -/
def writeTarget (context : Context) : Option Operand → Writing State String
  | none => return ""
  | some table => return " INTO " ++ (← table.writeName context)

/-- A query. Clauses that ask for nothing are left out. -/
def Select.write (context : Context) : Select → Writing State String
  | ⟨columns, distinct, target, ⟨sources, misuse⟩, condition, grouping, groupCondition,
      ordering, limit, offset⟩ => do
    check misuse
    let distinct ← writeDistinct context distinct
    let columns ← writeColumns context columns
    let target ← writeTarget context target
    let sources ← writeSources context sources
    let condition ← condition.write context
    let grouping ← writeNames context grouping
    let groupCondition ← groupCondition.write context
    let ordering ← writeOrderKeys context ordering
    return "SELECT " ++ distinct ++ columns ++ target ++ listClauseText " FROM " sources
      ++ clauseText " WHERE " condition ++ listClauseText " GROUP BY " grouping
      ++ clauseText " HAVING " groupCondition ++ listClauseText " ORDER BY " ordering
      ++ countText " LIMIT " limit ++ countText " OFFSET " offset

/-- The rows of an insertion with their columns. The first row has the columns;
a later row that lacks one has the default in its place. A query comes after
the columns that it fills, if there are any. -/
def InsertBody.write (context : Context) (columns : Writing State (List String)) :
    InsertBody → Writing State String
  | .query query => do
    let columns ← columns
    return (if columns.isEmpty then "" else " " ++ listText .row columns)
      ++ " " ++ (← query.write (if query.isStatement then .ordinary else context))
  | .rows rows =>
    match writeRows context rows with
    | [] => throw .insertWithoutRows
    | [] :: _ => throw .insertWithoutColumns
    | first :: rest => do
      let names := first.map Prod.fst
      return " (" ++ columnNames names ++ ") VALUES "
        ++ (← writeRowsOf names (return "DEFAULT") (first :: rest))

/-- What a conflict is about: a constraint, which goes first, or some columns. -/
def writeConflict (context : Context) :
    Option String → Option (List Operand) → Writing State String
  | some name, _ => return " ON CONSTRAINT " ++ quotePath name
  | none, some (first :: rest) =>
    return " " ++ listText .row ((← first.writeName context) :: (← writeNames context rest))
  | none, _ => return ""

/-- An insertion. Assignments apply on conflict only. -/
def Insert.write (context : Context) : Insert → Writing State String
  | ⟨table, columns, body, conflict, constraint, update, returning, misuse⟩ => do
    check misuse
    let table ← table.writeName context
    let body ← body.write context (writeNames context columns)
    let handling ← if conflict.isSome || constraint.isSome then do
        let conflict ← writeConflict context constraint conflict
        let resolution ← writeResolution (update.writeCells context)
        pure (" ON CONFLICT" ++ conflict ++ resolution)
      else pure ""
    let returning ← writeNames context returning
    return "INSERT INTO " ++ table ++ body ++ handling ++ listClauseText " RETURNING " returning

/-- An update, which has to assign something. -/
def Update.write (context : Context) : Update → Writing State String
  | ⟨table, assignments, sources, condition, returning⟩ =>
    match assignments.writeCells context with
    | [] => throw .updateWithoutAssignments
    | cells => do
      let table ← table.writeName context
      let assignments ← cells.mapM writeAssignment
      let sources ← writeNames context sources
      let condition ← condition.write context
      let returning ← writeNames context returning
      return "UPDATE " ++ table ++ " SET " ++ commaText assignments
        ++ listClauseText " FROM " sources ++ clauseText " WHERE " condition
        ++ listClauseText " RETURNING " returning

/-- A deletion. -/
def Delete.write (context : Context) : Delete → Writing State String
  | ⟨table, sources, condition, returning⟩ => do
    let table ← table.writeName context
    let sources ← writeNames context sources
    let condition ← condition.write context
    let returning ← writeNames context returning
    return "DELETE FROM " ++ table ++ listClauseText " USING " sources
      ++ clauseText " WHERE " condition ++ listClauseText " RETURNING " returning

end

end SqlTree
