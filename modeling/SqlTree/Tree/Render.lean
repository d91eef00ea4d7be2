/-
This file renders the statement tree. An operand stands in one of two places:
where a value is wanted its scalars are bound, where a name is wanted they are
quoted as names. The context says whether an unresolved text is a name or a
value, and a statement inside another one always starts anew.

A rendering is what the traversal into a sink would do, put down before it is
done: the functions go over the same tree in the same order, and a later file
proves that writing is reading a rendering into the sink. Where a text decides
about what is around it, as that of a condition does, a rendering is blank exactly
if its text is empty, since no scalar is written as nothing.
-/

import SqlTree.Quote.Literal
import SqlTree.Quote.Name
import SqlTree.Rendering
import SqlTree.Tree.Basic

namespace SqlTree

open Rendering

/-- Where a node is rendered. -/
inductive Context where
  | ordinary
  /-- Inside the condition of a join, where unresolved texts name columns. -/
  | joinCondition
  deriving DecidableEq

/-! ### Leaves -/

mutual

/-- A scalar where a name is wanted. Text is a path, an array is a row of
names, and null, bytes and JSON have no name. -/
def Value.renderName : Value → Rendering
  | .null => fail (.unnameable .null)
  | .bool value => ofText (quoteName (if value then "t" else "f"))
  | .integer value => ofText (quoteName (String.ofList (Digits.integer value.toInt)))
  | .float value => ofText (quoteName (String.ofList value.plain))
  | .text value => ofText (quotePath value)
  | .bytes value => fail (.unnameable (.bytes value))
  | .json value => fail (.unnameable (.json value))
  | .timestamp value => ofText (quoteName (String.ofList value.plain))
  | .uuid value => ofText (quoteName (String.ofList value.text))
  | .array items => listed .row (renderItemNames items)

/-- The items as names, one after another. -/
def Value.renderItemNames : List Value → List Rendering
  | [] => []
  | item :: rest => item.renderName :: renderItemNames rest

end

/-- The text of a path, with the word that leaves out inheriting tables. -/
def Identifier.text (identifier : Identifier) : String :=
  (if identifier.only then "ONLY " else "") ++ quotePath identifier.path

/-- A path is a text and no scalar. -/
def Identifier.render (identifier : Identifier) : Rendering :=
  ofText identifier.text

/-- A scalar with its cast. -/
def Literal.render (literal : Literal) : Rendering :=
  match literal.cast with
  | some type => ofValue literal.value ++ ofText ("::" ++ type)
  | none => ofValue literal.value

/-- The word in a comparison. -/
def Quantifier.keyword : Quantifier → String
  | .any => "ANY"
  | .all => "ALL"

/-- The words before the table. -/
def JoinKind.keyword : JoinKind → String
  | .inner => "INNER JOIN"
  | .left => "LEFT JOIN"
  | .right => "RIGHT JOIN"
  | .full => "FULL JOIN"
  | .cross => "CROSS JOIN"

/-- The word after the key. -/
def Direction.keyword : Direction → String
  | .ascending => "ASC"
  | .descending => "DESC"

/-- A test for null. -/
def nullityText (negated : Bool) : String :=
  if negated then "IS NOT NULL" else "IS NULL"

/-- The word before the pattern. -/
def likeKeyword (insensitive : Bool) : String :=
  if insensitive then "ILIKE" else "LIKE"

/-- The words before the list. -/
def membershipKeyword (negated : Bool) : String :=
  if negated then "NOT IN" else "IN"

/-- A member of a JSON object that is a column under its own name. -/
def jsonKeyText (qualifier : Option String) (key : String) : String :=
  match qualifier with
  | some table => quoteText key ++ ", " ++ quotePath table ++ "." ++ quotePath key
  | none => quoteText key ++ ", " ++ quotePath key

/-- A key of a JSON object with its column. -/
def renderJsonKey (qualifier : Option String) (key : String) : Rendering :=
  ofText (jsonKeyText qualifier key)

/-- A member of a JSON object under a given key. -/
def renderJsonMember (cell : Cell) : Rendering :=
  ofText (quoteText cell.1 ++ ", ") ++ cell.2

/-- An assignment of a cell to its column. -/
def renderAssignment (cell : Cell) : Rendering :=
  ofText (quotePath cell.1 ++ " = ") ++ cell.2

/-- What is done about a conflict. -/
def renderResolution (assignments : List Cell) : Rendering :=
  if assignments.isEmpty then ofText " DO NOTHING"
  else ofText " DO UPDATE SET " ++ commaSeparated (assignments.map renderAssignment)

/-- The names of columns, one after another. -/
def columnNames (columns : List String) : String :=
  ", ".intercalate (columns.map quoteName)

/-- A number after a keyword, if there is one. -/
def renderCount (keyword : String) : Option UInt64 → Rendering
  | some count => ofText (keyword ++ String.ofList (Digits.natural count.toNat))
  | none => empty

/-! ### The tree -/

mutual

/-- An operand where a value is wanted. -/
def Operand.renderValue (context : Context) (form : ListForm) : Operand → Rendering
  | .value scalar => ofValue scalar
  | .list items => listed form (renderValues context form items)
  | .node (.unresolved operand) =>
    if context = .joinCondition ∧ operand.isText then operand.renderName context
    else operand.renderValue context form
  | .node inner =>
    if inner.isStatement then parenthesized (inner.render .ordinary) else inner.render context

/-- An operand where a name is wanted. -/
def Operand.renderName (context : Context) : Operand → Rendering
  | .value scalar => scalar.renderName
  | .list items => listed .row (renderNames context items)
  | .node inner =>
    if inner.isStatement then parenthesized (inner.render .ordinary) else inner.render context

/-- Operands as values. -/
def renderValues (context : Context) (form : ListForm) : List Operand → List Rendering
  | [] => []
  | operand :: rest => operand.renderValue context form :: renderValues context form rest

/-- Operands as names. -/
def renderNames (context : Context) : List Operand → List Rendering
  | [] => []
  | operand :: rest => operand.renderName context :: renderNames context rest

/-- A node as it stands. -/
def Node.render (context : Context) : Node → Rendering
  | .identifier identifier => identifier.render
  | .literal literal => literal.render
  | .snippet snippet => snippet.render context
  | .unresolved _ => fail .unresolved
  | .renamed item => item.render context
  | .condition condition => condition.render context
  | .comparison comparison => comparison.render context
  | .jsonObject object => object.render context
  | .values list => list.render context
  | .sources list => list.render context
  | .join join => join.render context
  | .select statement => statement.render context
  | .insert statement => statement.render context
  | .update statement => statement.render context
  | .delete statement => statement.render context

/-- A snippet, or what is recorded in it. -/
def Snippet.render (context : Context) : Snippet → Rendering
  | ⟨head, slots, misuse⟩ => check misuse ++ ofText head ++ renderSlots context slots

/-- Operands as values, each with the text after it. -/
def renderSlots (context : Context) : List Slot → Rendering
  | [] => empty
  | ⟨operand, after⟩ :: rest =>
    operand.renderValue context .array ++ ofText after ++ renderSlots context rest

/-- What is renamed, with its new name. -/
def Renaming.render (context : Context) : Renaming → Rendering
  | ⟨target, name⟩ => target.renderName context ++ ofText (" AS " ++ quoteName name)

/-- A condition. A group inside a group keeps its parentheses. -/
def Condition.render (context : Context) : Condition → Rendering
  | .all members => joinPresent " AND " (renderMembers context members)
  | .any members => joinPresent " OR " (renderMembers context members)
  | .negation inner =>
    (inner.render context).ifPresent fun rendering => ofText "NOT " ++ parenthesized rendering
  | .existence query =>
    ofText "EXISTS " ++
      parenthesized (query.render (if query.isStatement then .ordinary else context))
  | .test column comparison =>
    if comparison.isValid then
      column.renderName context ++ ofText " " ++ comparison.render context
    else empty
  | .plain inner => inner.render context

/-- The members of a group, those in parentheses that are groups themselves. -/
def renderMembers (context : Context) : List Condition → List Rendering
  | [] => []
  | member :: rest =>
    (if member.isGroup then (member.render context).ifPresent parenthesized
      else member.render context) :: renderMembers context rest

/-- A comparison without its column. -/
def Comparison.render (context : Context) : Comparison → Rendering
  | .relation relation operand quantifier =>
    match quantifier with
    | none => ofText (relation.symbol ++ " ") ++ operand.renderValue context .array
    | some quantifier =>
      ofText (relation.symbol ++ " " ++ quantifier.keyword ++ " ")
        ++ (if operand.isStatement then operand.renderValue context .array
            else parenthesized (operand.renderValue context .array))
  | .nullity negated => ofText (nullityText negated)
  | .like pattern insensitive =>
    ofText (likeKeyword insensitive ++ " ") ++ pattern.renderValue context .array
  | .between low high =>
    ofText "BETWEEN " ++ low.renderValue context .array
      ++ ofText " AND " ++ high.renderValue context .array
  | .membership (.list []) _ => empty
  | .membership (.list (first :: rest)) negated =>
    ofText (membershipKeyword negated ++ " ")
      ++ listed .row (first.renderValue context .row :: renderValues context .row rest)
  | .membership (.node inner) negated =>
    ofText (membershipKeyword negated ++ " ")
      ++ parenthesized (inner.render (if inner.isStatement then .ordinary else context))
  | .membership (.value scalar) negated =>
    ofText (membershipKeyword negated ++ " ") ++ parenthesized (ofValue scalar)

/-- The columns with their operands as values. -/
def ColumnMap.cells (context : Context) : ColumnMap → List Cell
  | ⟨fields⟩ => renderCells context fields

/-- The fields of a map with their operands as values. -/
def renderCells (context : Context) : List Field → List Cell
  | [] => []
  | ⟨column, operand⟩ :: rest =>
    (column, operand.renderValue context .array) :: renderCells context rest

/-- The columns with their operands as names. -/
def ColumnMap.nameCells (context : Context) : ColumnMap → List Cell
  | ⟨fields⟩ => renderNameCells context fields

/-- The fields of a map with their operands as names. -/
def renderNameCells (context : Context) : List Field → List Cell
  | [] => []
  | ⟨column, operand⟩ :: rest =>
    (column, operand.renderName context) :: renderNameCells context rest

/-- The members of a JSON object. -/
def renderItems (context : Context) (qualifier : Option String) : List JsonItem → List Rendering
  | [] => []
  | .key key :: rest => renderJsonKey qualifier key :: renderItems context qualifier rest
  | .keys keys :: rest => keys.map (renderJsonKey qualifier) ++ renderItems context qualifier rest
  | .map columns :: rest =>
    (columns.nameCells context).map renderJsonMember ++ renderItems context qualifier rest

/-- An object as a call of the function that builds it. -/
def JsonObject.render (context : Context) : JsonObject → Rendering
  | ⟨items, qualifier, binary⟩ =>
    ofText (if binary then "jsonb_build_object" else "json_build_object")
      ++ parenthesized (commaSeparated (renderItems context qualifier items))

/-- The cells of rows, row by row. -/
def renderRows (context : Context) : List ColumnMap → List (List Cell)
  | [] => []
  | row :: rest => row.cells context :: renderRows context rest

/-- Rows as a table. The first row has the columns; a later row that lacks one
has null in its place. -/
def ValuesList.render (context : Context) : ValuesList → Rendering
  | ⟨rows, name⟩ =>
    match name, renderRows context rows with
    | none, _ => fail .valuesWithoutName
    | some _, [] => fail .valuesWithoutRows
    | some _, [] :: _ => fail .valuesWithoutColumns
    | some name, first :: rest =>
      let columns := first.map Prod.fst
      ofText "(VALUES " ++ rowsOf columns (ofValue .null) (first :: rest)
        ++ ofText (") " ++ quoteName name ++ "(" ++ columnNames columns ++ ")")

/-- A join, with its condition where unresolved texts are names. -/
def Join.render (context : Context) : Join → Rendering
  | ⟨kind, table, condition⟩ =>
    ofText (kind.keyword ++ " ") ++ table.renderName context
      ++ clause " ON " (condition.render .joinCondition)

/-- The joins of a source, with a space before each. -/
def renderJoins (context : Context) : List Join → Rendering
  | [] => empty
  | join :: rest => ofText " " ++ join.render context ++ renderJoins context rest

/-- Sources, each with its joins. -/
def renderSources (context : Context) : List Source → List Rendering
  | [] => []
  | ⟨table, joins⟩ :: rest =>
    (table.renderName context ++ renderJoins context joins) :: renderSources context rest

/-- A list of sources, or what is recorded in it. -/
def SourceList.render (context : Context) : SourceList → Rendering
  | ⟨sources, misuse⟩ => check misuse ++ commaSeparated (renderSources context sources)

/-- The keys of an order, each with its direction if it has one. -/
def renderOrderKeys (context : Context) : List OrderKey → List Rendering
  | [] => []
  | ⟨key, direction⟩ :: rest =>
    (match direction with
      | some direction => key.renderName context ++ ofText (" " ++ direction.keyword)
      | none => key.renderName context) :: renderOrderKeys context rest

/-- Whether equal rows are kept once, or one row for each value of some keys. -/
def renderDistinct (context : Context) : Option (List Operand) → Rendering
  | none => empty
  | some [] => ofText "DISTINCT "
  | some (first :: rest) =>
    ofText "DISTINCT ON "
      ++ listed .row (first.renderName context :: renderNames context rest) ++ ofText " "

/-- The columns of a query; none stand for all of them. -/
def renderColumns (context : Context) : List Operand → Rendering
  | [] => ofText "*"
  | first :: rest => commaSeparated (first.renderName context :: renderNames context rest)

/-- The table that the rows of a query are stored in. -/
def renderTarget (context : Context) : Option Operand → Rendering
  | none => empty
  | some table => ofText " INTO " ++ table.renderName context

/-- A query. Clauses that ask for nothing are left out. -/
def Select.render (context : Context) : Select → Rendering
  | ⟨columns, distinct, target, ⟨sources, misuse⟩, condition, grouping, groupCondition,
      ordering, limit, offset⟩ =>
    check misuse ++ ofText "SELECT " ++ renderDistinct context distinct
      ++ renderColumns context columns
      ++ renderTarget context target
      ++ listClause " FROM " (renderSources context sources)
      ++ clause " WHERE " (condition.render context)
      ++ listClause " GROUP BY " (renderNames context grouping)
      ++ clause " HAVING " (groupCondition.render context)
      ++ listClause " ORDER BY " (renderOrderKeys context ordering)
      ++ renderCount " LIMIT " limit
      ++ renderCount " OFFSET " offset

/-- The rows of an insertion with their columns. The first row has the columns;
a later row that lacks one has the default in its place. A query comes after
the columns that it fills, if there are any. -/
def InsertBody.render (context : Context) (columns : List Rendering) : InsertBody → Rendering
  | .query query =>
    (if columns.isEmpty then empty else ofText " " ++ listed .row columns)
      ++ ofText " " ++ query.render (if query.isStatement then .ordinary else context)
  | .rows rows =>
    match renderRows context rows with
    | [] => fail .insertWithoutRows
    | [] :: _ => fail .insertWithoutColumns
    | first :: rest =>
      let names := first.map Prod.fst
      ofText (" (" ++ columnNames names ++ ") VALUES ")
        ++ rowsOf names (ofText "DEFAULT") (first :: rest)

/-- What a conflict is about: a constraint, which goes first, or some columns. -/
def renderConflict (context : Context) :
    Option String → Option (List Operand) → Rendering
  | some name, _ => ofText (" ON CONSTRAINT " ++ quotePath name)
  | none, some (first :: rest) =>
    ofText " " ++ listed .row (first.renderName context :: renderNames context rest)
  | none, _ => empty

/-- An insertion. Assignments apply on conflict only. -/
def Insert.render (context : Context) : Insert → Rendering
  | ⟨table, columns, body, conflict, constraint, update, returning, misuse⟩ =>
    check misuse ++ ofText "INSERT INTO " ++ table.renderName context
      ++ body.render context (renderNames context columns)
      ++ (if conflict.isSome || constraint.isSome then
            ofText " ON CONFLICT" ++ renderConflict context constraint conflict
              ++ renderResolution (update.cells context)
          else empty)
      ++ listClause " RETURNING " (renderNames context returning)

/-- An update, which has to assign something. -/
def Update.render (context : Context) : Update → Rendering
  | ⟨table, assignments, sources, condition, returning⟩ =>
    match assignments.cells context with
    | [] => fail .updateWithoutAssignments
    | cells =>
      ofText "UPDATE " ++ table.renderName context
        ++ ofText " SET " ++ commaSeparated (cells.map renderAssignment)
        ++ listClause " FROM " (renderNames context sources)
        ++ clause " WHERE " (condition.render context)
        ++ listClause " RETURNING " (renderNames context returning)

/-- A deletion. -/
def Delete.render (context : Context) : Delete → Rendering
  | ⟨table, sources, condition, returning⟩ =>
    ofText "DELETE FROM " ++ table.renderName context
      ++ listClause " USING " (renderNames context sources)
      ++ clause " WHERE " (condition.render context)
      ++ listClause " RETURNING " (renderNames context returning)

end

end SqlTree
