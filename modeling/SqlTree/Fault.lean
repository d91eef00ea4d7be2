/-
This file lists what can be wrong with a statement: misuse of a builder, which
the builder records and every rendering of it reports, and faults that only a
rendering finds. Each has a kind and a text.

A misuse belongs to the builder and not to the call: the builder keeps the first
one and goes on, and whoever renders the tree with the builder in it learns of it
then. The texts are those that users see, with the kind of the fault in front.
-/

import SqlTree.Value

namespace SqlTree

/-- A step that a builder could not take; it is kept until the builder is rendered. -/
inductive Misuse where
  /-- A template with more arguments than markers, and how many more. -/
  | unusedArguments (count : Nat)
  /-- A join where no source stands before it. -/
  | joinBeforeSource
  /-- Rows or another query for an insertion that has a query. -/
  | queryExists
  /-- A query for an insertion that has rows. -/
  | rowsExist
  deriving DecidableEq

/-- Why a tree has no text. -/
inductive Fault where
  | misuse (misuse : Misuse)
  /-- An unresolved operand where neither a value nor a name is wanted. -/
  | unresolved
  /-- A scalar without a name where a name is wanted. -/
  | unnameable (scalar : Nameless)
  | insertWithoutRows
  | insertWithoutColumns
  | updateWithoutAssignments
  | valuesWithoutName
  | valuesWithoutRows
  | valuesWithoutColumns

namespace Fault

/-- What a fault is about. -/
inductive Kind where
  /-- A part is missing or cannot stand where it stands. -/
  | malformed
  /-- Steps were taken in an order that has no text. -/
  | sequence
  deriving DecidableEq

/-- The message of a fault of some kind. -/
def Kind.message (kind : Kind) (detail : String) : String :=
  match kind with
  | .malformed => "Malformed statement: " ++ detail
  | .sequence => "Sequencing error: " ++ detail

/-- The kind of a fault. -/
def kind : Fault → Kind
  | .misuse (.unusedArguments _) => .malformed
  | .misuse _ => .sequence
  | _ => .malformed

/-- The text of a fault without its kind. -/
def detail : Fault → String
  | .misuse (.unusedArguments count) =>
    "template has " ++ String.ofList (Digits.natural count) ++ " unused argument(s)"
  | .misuse .joinBeforeSource => "cannot join before a FROM source"
  | .misuse .queryExists => "a select statement already exists"
  | .misuse .rowsExist => "insert values already exist"
  | .unresolved => "unknown value rendered outside a value or identifier position"
  | .unnameable scalar =>
    String.ofList scalar.description ++ " cannot be used as an identifier"
  | .insertWithoutRows => "insert has no rows"
  | .insertWithoutColumns => "insert row has no columns"
  | .updateWithoutAssignments => "update statement has no assignments"
  | .valuesWithoutName => "values must have an alias"
  | .valuesWithoutRows => "values must have at least one row"
  | .valuesWithoutColumns => "values row has no columns"

/-- The whole message of a fault. -/
def message (fault : Fault) : String :=
  fault.kind.message fault.detail

end Fault

end SqlTree
