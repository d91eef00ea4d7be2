/-
This file holds the statement tree: operands, nodes, conditions, and the four
statements with the clauses that they are made of. A statement can stand
wherever an operand can, so all of these types are defined together.

A builder is a value of the tree like any other: its steps return the next tree,
and a misuse is kept in a field of it until the tree is rendered. Nothing in the
types keeps an operand from a place where it has no text; where that is so,
rendering finds it.

The operator of a comparison, the type of a cast and the texts of a snippet are
texts that go into the statement as they are.
-/

import SqlTree.Fault

namespace SqlTree

/-! ### Leaves -/

/-- A dotted path; with `only` it leaves out the tables that inherit from it. -/
structure Identifier where
  path : String
  only : Bool
  deriving DecidableEq

/-- A scalar with the type that it is cast to, if any. -/
structure Literal where
  value : Value
  cast : Option String

/-- A comparison of two scalars by an operator, which is written as its symbol. -/
structure Relation where
  symbol : String
  deriving DecidableEq

namespace Relation

def equal : Relation := ⟨"="⟩

def unequal : Relation := ⟨"<>"⟩

def less : Relation := ⟨"<"⟩

def lessOrEqual : Relation := ⟨"<="⟩

def greater : Relation := ⟨">"⟩

def greaterOrEqual : Relation := ⟨">="⟩

/-- The operators that comparisons are made with unless one is put together by hand. -/
def named : List Relation :=
  [equal, unequal, less, lessOrEqual, greater, greaterOrEqual]

/-- Whether the operator is one of the named ones. -/
def isNamed (relation : Relation) : Bool :=
  relation ∈ named

/-- Such an operator is in the list. -/
theorem mem_named (relation : Relation) (isNamed : relation.isNamed) : relation ∈ named :=
  of_decide_eq_true isNamed

end Relation

/-- How many elements of an array or a query a comparison has to hold for. -/
inductive Quantifier where
  | any
  | all
  deriving DecidableEq

/-- How the rows of a joined table are matched. -/
inductive JoinKind where
  | inner
  | left
  | right
  | full
  | cross
  deriving DecidableEq

/-- The direction of an order. -/
inductive Direction where
  | ascending
  | descending
  deriving DecidableEq

/-! ### The tree -/

mutual

/-- What may stand where a scalar or a name is wanted. -/
inductive Operand where
  | value (value : Value)
  /-- Operands written as a row or as an array. -/
  | list (items : List Operand)
  | node (node : Node)

/-- A piece of SQL. -/
inductive Node where
  | identifier (identifier : Identifier)
  | literal (literal : Literal)
  | snippet (snippet : Snippet)
  /-- An operand that names a column in a join condition and is a value elsewhere. -/
  | unresolved (operand : Operand)
  | renamed (item : Renaming)
  | condition (condition : Condition)
  | comparison (comparison : Comparison)
  | jsonObject (object : JsonObject)
  | values (values : ValuesList)
  | sources (sources : SourceList)
  | join (join : Join)
  | select (statement : Select)
  | insert (statement : Insert)
  | update (statement : Update)
  | delete (statement : Delete)

/-- SQL text as it is, with operands in between. -/
structure Snippet where
  head : String
  slots : List Slot
  misuse : Option Misuse

/-- An operand of a snippet and the text that follows it. -/
structure Slot where
  operand : Operand
  after : String

/-- An operand under a new name. -/
structure Renaming where
  target : Operand
  name : String

/-- A condition. Members, operands and nodes that turn out to have no text are
left out of the condition around them. -/
inductive Condition where
  | all (members : List Condition)
  | any (members : List Condition)
  | negation (inner : Condition)
  /-- The query has a row. -/
  | existence (query : Node)
  | test (column : Operand) (comparison : Comparison)
  /-- A node that is a condition as it stands. -/
  | plain (node : Node)

/-- What a column is compared with, and how. -/
inductive Comparison where
  | relation (relation : Relation) (operand : Operand) (quantifier : Option Quantifier)
  | nullity (negated : Bool)
  | like (pattern : Operand) (insensitive : Bool)
  | between (low high : Operand)
  | membership (operand : Operand) (negated : Bool)

/-- A column with its operand. -/
structure Field where
  column : String
  operand : Operand

/-- Columns with their operands in the order in which the columns came. -/
structure ColumnMap where
  fields : List Field

/-- Members of a JSON object: columns under their own names, or operands under
given ones. -/
inductive JsonItem where
  | key (key : String)
  | keys (keys : List String)
  | map (columns : ColumnMap)

/-- A JSON object built by the database. -/
structure JsonObject where
  items : List JsonItem
  qualifier : Option String
  binary : Bool

/-- Rows as a table of their own. -/
structure ValuesList where
  rows : List ColumnMap
  name : Option String

/-- A joined table. A condition without text is no condition. -/
structure Join where
  kind : JoinKind
  table : Operand
  condition : Condition

/-- A table and what is joined to it. -/
structure Source where
  table : Operand
  joins : List Join

/-- The sources of a query with their joins, and the first misuse. -/
structure SourceList where
  sources : List Source
  misuse : Option Misuse

/-- A key by which rows are put in order. -/
structure OrderKey where
  key : Operand
  direction : Option Direction

/-- A query. -/
structure Select where
  /-- No columns stand for all of them. -/
  columns : List Operand
  /-- Present but empty: rows are distinct as a whole. -/
  distinct : Option (List Operand)
  target : Option Operand
  sources : SourceList
  condition : Condition
  grouping : List Operand
  groupCondition : Condition
  ordering : List OrderKey
  limit : Option UInt64
  offset : Option UInt64

/-- Where the rows of an insertion come from. -/
inductive InsertBody where
  | rows (rows : List ColumnMap)
  | query (query : Node)

/-- An insertion, with what to do on conflict and the first misuse. -/
structure Insert where
  table : Operand
  /-- The columns that a query fills; rows have their own. -/
  columns : List Operand
  body : InsertBody
  conflict : Option (List Operand)
  constraint : Option String
  update : ColumnMap
  returning : List Operand
  misuse : Option Misuse

/-- An update. The condition says which rows it is about. -/
structure Update where
  table : Operand
  assignments : ColumnMap
  sources : List Operand
  condition : Condition
  returning : List Operand

/-- A deletion. The condition says which rows it is about. -/
structure Delete where
  table : Operand
  sources : List Operand
  condition : Condition
  returning : List Operand

end

/-! ### What an operand is -/

/-- Whether the node is one of the four statements. -/
def Node.isStatement : Node → Bool
  | .select _ | .insert _ | .update _ | .delete _ => true
  | _ => false

namespace Operand

/-- Whether the operand is a statement. -/
def isStatement : Operand → Bool
  | .node inner => inner.isStatement
  | _ => false

/-- Whether the operand is a text. -/
def isText : Operand → Bool
  | .value (.text _) => true
  | _ => false

/-- Null itself or a literal of it, whatever it is cast to. -/
def isNull : Operand → Bool
  | .value scalar => scalar.isNull
  | .node (.literal literal) => literal.value.isNull
  | _ => false

/-- A text operand. -/
def text (contents : String) : Operand :=
  .value (.text contents)

/-- A name as an operand. -/
def path (path : String) : Operand :=
  .node (.identifier ⟨path, false⟩)

end Operand

/-- Whether the comparison has a text: membership in an empty list has none. -/
def Comparison.isValid : Comparison → Bool
  | .membership (.list []) _ => false
  | _ => true

namespace Condition

/-- The condition that asks for nothing. -/
def nothing : Condition :=
  .all []

/-- Whether the condition is a group of either connective. -/
def isGroup : Condition → Bool
  | .all _ | .any _ => true
  | _ => false

mutual

/-- Whether the condition asks for nothing at all. -/
def isEmpty : Condition → Bool
  | .all members | .any members => areEmpty members
  | .negation inner => isEmpty inner
  | .test _ comparison => !comparison.isValid
  | .existence _ | .plain _ => false

/-- Whether none of the conditions asks for anything. -/
def areEmpty : List Condition → Bool
  | [] => true
  | member :: rest => isEmpty member && areEmpty rest

end

end Condition

end SqlTree
