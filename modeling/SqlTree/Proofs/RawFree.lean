/-
This file says which trees have no SQL of their own in them. Four things copy
a text into a statement as it is: a snippet, the type of a cast, the operator
of a comparison, and the trailer of a path, which is what stands after a space
in its last segment. A text is a path where a name is wanted, and a value
anywhere else, so the question follows the places that operands stand in.

A snippet is always SQL of the tree's own, and so is a cast. An operator is
not if it is one of those that the library makes comparisons with, and a path
is not if nothing in it stands after such a space. The test is a function of
the tree alone, so whoever takes names from elsewhere can run it before a tree
is written; what it promises about the text is proved in later files, which
ask for it and for nothing else.
-/

import Mathlib.Data.List.TakeWhile
import SqlTree.Tree.ColumnMap
import SqlTree.Tree.Render

namespace SqlTree

/-- Whether there is no space after the last dot. -/
def isPlainPath (path : String) : Bool :=
  match splitLast? '.' path.toList with
  | some (_, last) => !last.contains ' '
  | none => !path.toList.contains ' '

/-- A plain path has no trailer. -/
theorem trailer_eq_nil {path : String} (plain : isPlainPath path) :
    (Path.ofChars path.toList).trailer = [] := by
  have noTrailer (chars : List Char) (noSpace : !chars.contains ' ') :
      chars.dropWhile (· ≠ ' ') = [] := by
    rw [Bool.not_eq_true', ← Bool.not_eq_true, List.contains_iff_mem] at noSpace
    refine List.dropWhile_eq_nil_iff.mpr fun char member => decide_eq_true ?_
    rintro rfl
    exact noSpace member
  unfold isPlainPath at plain
  unfold Path.ofChars
  cases split : splitLast? '.' path.toList with
  | none =>
    rw [split] at plain
    exact noTrailer _ plain
  | some parts =>
    rw [split] at plain
    exact noTrailer _ plain

/-! ### Leaves -/

mutual

/-- A scalar where a name is wanted. -/
def Value.isRawFreeName : Value → Bool
  | .text path => isPlainPath path
  | .array items => areRawFreeNames items
  | .null | .bool _ | .integer _ | .float _ | .bytes _ | .json _ | .timestamp _ | .uuid _ => true

/-- Every item of the row of names has no trailer. -/
def Value.areRawFreeNames : List Value → Bool
  | [] => true
  | item :: rest => item.isRawFreeName && areRawFreeNames rest

end

/-- A key of a JSON object. It is written as a path behind the qualifier, which is a path
of its own. -/
def isRawFreeKey (qualifier : Option String) (key : String) : Bool :=
  qualifier.all isPlainPath && isPlainPath key

/-! ### The tree -/

mutual

/-- An operand where a value is wanted. -/
def Operand.isRawFreeValue (context : Context) : Operand → Bool
  | .value _ => true
  | .list items => areRawFreeValues context items
  | .node (.unresolved operand) =>
    if context = .joinCondition ∧ operand.isText then operand.isRawFreeName context
    else operand.isRawFreeValue context
  | .node inner => if inner.isStatement then inner.isRawFree .ordinary else inner.isRawFree context

/-- An operand where a name is wanted. -/
def Operand.isRawFreeName (context : Context) : Operand → Bool
  | .value scalar => scalar.isRawFreeName
  | .list items => areRawFreeNames context items
  | .node inner => if inner.isStatement then inner.isRawFree .ordinary else inner.isRawFree context

/-- Operands where values are wanted: their texts are quoted, so only nodes in
them count. -/
def areRawFreeValues (context : Context) : List Operand → Bool
  | [] => true
  | operand :: rest => operand.isRawFreeValue context && areRawFreeValues context rest

/-- Operands where names are wanted. -/
def areRawFreeNames (context : Context) : List Operand → Bool
  | [] => true
  | operand :: rest => operand.isRawFreeName context && areRawFreeNames context rest

/-- Whether no SQL of the tree's own is in it. An unresolved operand on its own
has no text. -/
def Node.isRawFree (context : Context) : Node → Bool
  | .identifier identifier => isPlainPath identifier.path
  | .literal literal => literal.cast.isNone
  | .snippet _ => false
  | .unresolved _ => true
  | .renamed item => item.isRawFree context
  | .condition condition => condition.isRawFree context
  | .comparison comparison => comparison.isRawFree context
  | .jsonObject object => object.isRawFree context
  | .values list => list.isRawFree context
  | .sources list => list.isRawFree context
  | .join join => join.isRawFree context
  | .select statement => statement.isRawFree context
  | .insert statement => statement.isRawFree context
  | .update statement => statement.isRawFree context
  | .delete statement => statement.isRawFree context

/-- The new name is quoted as a whole, so anything may stand in it. -/
def Renaming.isRawFree (context : Context) : Renaming → Bool
  | ⟨target, _⟩ => target.isRawFreeName context

/-- A condition, all of its parts, whether they turn out to have a text or not. -/
def Condition.isRawFree (context : Context) : Condition → Bool
  | .all members | .any members => areRawFreeMembers context members
  | .negation inner => inner.isRawFree context
  | .existence query => query.isRawFree (if query.isStatement then .ordinary else context)
  | .test column comparison => column.isRawFreeName context && comparison.isRawFree context
  | .plain inner => inner.isRawFree context

/-- The members of a group. -/
def areRawFreeMembers (context : Context) : List Condition → Bool
  | [] => true
  | member :: rest => member.isRawFree context && areRawFreeMembers context rest

/-- What a column is compared with: only the operators of the library are without SQL of
their own, and an operator is known by its text. -/
def Comparison.isRawFree (context : Context) : Comparison → Bool
  | .relation relation operand _ => relation.isNamed && operand.isRawFreeValue context
  | .nullity _ => true
  | .like pattern _ => pattern.isRawFreeValue context
  | .between low high => low.isRawFreeValue context && high.isRawFreeValue context
  | .membership (.list items) _ => areRawFreeValues context items
  | .membership (.node inner) _ =>
    inner.isRawFree (if inner.isStatement then .ordinary else context)
  | .membership (.value _) _ => true

/-- The operands of columns as values. The columns are asked for separately, because not
every place writes them as paths. -/
def ColumnMap.areRawFreeValues (context : Context) : ColumnMap → Bool
  | ⟨fields⟩ => areRawFreeCells context fields

/-- The fields of a row, whose columns are quoted as single names. -/
def areRawFreeCells (context : Context) : List Field → Bool
  | [] => true
  | ⟨_, operand⟩ :: rest => operand.isRawFreeValue context && areRawFreeCells context rest

/-- The operands of columns as names. -/
def ColumnMap.areRawFreeNames (context : Context) : ColumnMap → Bool
  | ⟨fields⟩ => areRawFreeNameCells context fields

/-- The fields of a JSON object, whose columns are keys and become strings. -/
def areRawFreeNameCells (context : Context) : List Field → Bool
  | [] => true
  | ⟨_, operand⟩ :: rest => operand.isRawFreeName context && areRawFreeNameCells context rest

/-- The members of a JSON object under its qualifier. -/
def areRawFreeItems (context : Context) (qualifier : Option String) : List JsonItem → Bool
  | [] => true
  | .key key :: rest => isRawFreeKey qualifier key && areRawFreeItems context qualifier rest
  | .keys keys :: rest =>
    keys.all (isRawFreeKey qualifier) && areRawFreeItems context qualifier rest
  | .map columns :: rest =>
    columns.areRawFreeNames context && areRawFreeItems context qualifier rest

/-- A JSON object built by the database. -/
def JsonObject.isRawFree (context : Context) : JsonObject → Bool
  | ⟨items, qualifier, _⟩ => areRawFreeItems context qualifier items

/-- Rows, with the cells under columns that the first row does not have. -/
def areRawFreeRows (context : Context) : List ColumnMap → Bool
  | [] => true
  | row :: rest => row.areRawFreeValues context && areRawFreeRows context rest

/-- Rows as a table. Its name and its columns are quoted as single names. -/
def ValuesList.isRawFree (context : Context) : ValuesList → Bool
  | ⟨rows, _⟩ => areRawFreeRows context rows

/-- A joined table. In its condition unresolved texts are names and are held to paths. -/
def Join.isRawFree (context : Context) : Join → Bool
  | ⟨_, table, condition⟩ => table.isRawFreeName context && condition.isRawFree .joinCondition

/-- Joins, one after another. -/
def areRawFreeJoins (context : Context) : List Join → Bool
  | [] => true
  | join :: rest => join.isRawFree context && areRawFreeJoins context rest

/-- Tables with what is joined to them. -/
def areRawFreeSources (context : Context) : List Source → Bool
  | [] => true
  | ⟨table, joins⟩ :: rest =>
    table.isRawFreeName context && areRawFreeJoins context joins && areRawFreeSources context rest

/-- A list of sources as a node of its own. -/
def SourceList.isRawFree (context : Context) : SourceList → Bool
  | ⟨sources, _⟩ => areRawFreeSources context sources

/-- Keys of an order. -/
def areRawFreeOrderKeys (context : Context) : List OrderKey → Bool
  | [] => true
  | ⟨key, _⟩ :: rest => key.isRawFreeName context && areRawFreeOrderKeys context rest

/-- Some names, if there are any. -/
def areRawFreeOptionalNames (context : Context) : Option (List Operand) → Bool
  | none => true
  | some operands => areRawFreeNames context operands

/-- The table that rows are stored in, if there is one. -/
def isRawFreeTarget (context : Context) : Option Operand → Bool
  | none => true
  | some table => table.isRawFreeName context

/-- A query, clause by clause. -/
def Select.isRawFree (context : Context) : Select → Bool
  | ⟨columns, distinct, target, ⟨sources, _⟩, condition, grouping, groupCondition, ordering,
      _, _⟩ =>
    areRawFreeNames context columns && areRawFreeOptionalNames context distinct
      && isRawFreeTarget context target && areRawFreeSources context sources
      && condition.isRawFree context && areRawFreeNames context grouping
      && groupCondition.isRawFree context && areRawFreeOrderKeys context ordering

/-- Where the rows of an insertion come from. Its columns are quoted as single names. -/
def InsertBody.isRawFree (context : Context) : InsertBody → Bool
  | .query query => query.isRawFree (if query.isStatement then .ordinary else context)
  | .rows rows => areRawFreeRows context rows

/-- An insertion. A constraint and the columns that are assigned to on a conflict are
written as paths; these are the only columns of an insertion that can bring SQL along. -/
def Insert.isRawFree (context : Context) : Insert → Bool
  | ⟨table, columns, body, conflict, constraint, update, returning, _⟩ =>
    table.isRawFreeName context && areRawFreeNames context columns && body.isRawFree context
      && areRawFreeOptionalNames context conflict && constraint.all isPlainPath
      && update.columns.all isPlainPath && update.areRawFreeValues context
      && areRawFreeNames context returning

/-- An update, in which the columns that are assigned to are paths. -/
def Update.isRawFree (context : Context) : Update → Bool
  | ⟨table, assignments, sources, condition, returning⟩ =>
    table.isRawFreeName context && assignments.columns.all isPlainPath
      && assignments.areRawFreeValues context && areRawFreeNames context sources
      && condition.isRawFree context && areRawFreeNames context returning

/-- A deletion. -/
def Delete.isRawFree (context : Context) : Delete → Bool
  | ⟨table, sources, condition, returning⟩ =>
    table.isRawFreeName context && areRawFreeNames context sources
      && condition.isRawFree context && areRawFreeNames context returning

end

end SqlTree
