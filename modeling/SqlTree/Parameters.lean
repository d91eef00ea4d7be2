/-
This file holds the two sinks that statements are written into. Inline, every
scalar is written as a literal in its place. With parameters, every scalar is
added to a list and a placeholder with its number in the list stands in its
place. The pieces of a rendering can be read in the same two ways.

A list that a statement is written into may have values already, of other
statements or of the caller. Placeholders count on from there. If the statement
fails, the list is cut back to what it was; the traversal itself leaves the values
before the fault in it, and the functions that callers use take them out again.
-/

import SqlTree.Tree.Write

namespace SqlTree

/-! ### Literals in place -/

/-- Writes every scalar as a literal and keeps nothing. -/
def Sink.inline : Sink Unit where
  bind _ value := ((), quoteLiteral value)

instance : Sink.inline.Answers :=
  ⟨fun _ => quoteLiteral_ne_empty⟩

/-- The pieces one after another, each scalar as its literal. -/
def inlinePieces : List Piece → String
  | [] => ""
  | .text contents :: rest => contents ++ inlinePieces rest
  | .value scalar :: rest => quoteLiteral scalar ++ inlinePieces rest

/-- The text with its scalars as literals. -/
def Rendering.inline (rendering : Rendering) : Except Fault String :=
  match rendering.fault with
  | some fault => .error fault
  | none => .ok (inlinePieces rendering.pieces)

/-! ### Placeholders -/

/-- The values of a statement in the order of their placeholders. -/
structure Parameters where
  values : List Value

/-- The placeholder of the value with a number, counted from one. -/
def placeholder (number : Nat) : String :=
  String.ofList ('$' :: Digits.natural number)

/-- A placeholder is a text of its own, whatever its number. -/
theorem placeholder_ne_empty (number : Nat) : placeholder number ≠ "" := by
  rw [placeholder, Ne, String.ofList_eq_empty_iff]
  exact List.cons_ne_nil _ _

namespace Parameters

/-- The list without values. -/
def empty : Parameters :=
  ⟨[]⟩

variable (parameters : Parameters)

/-- How many values there are. -/
def size : Nat :=
  parameters.values.length

/-- Whether there are none. -/
def isEmpty : Bool :=
  parameters.values.isEmpty

/-- The list with one more value, whose number is the new size. -/
def push (value : Value) : Parameters :=
  ⟨parameters.values ++ [value]⟩

/-- The first so many values. -/
def truncate (count : Nat) : Parameters :=
  ⟨parameters.values.take count⟩

/-- Adds a value and returns its placeholder. -/
def bind (value : Value) : Parameters × String :=
  let longer := parameters.push value
  (longer, placeholder longer.size)

/-- Adds the values among the pieces and returns the text with their placeholders. -/
def writePieces (parameters : Parameters) : List Piece → Parameters × String
  | [] => (parameters, "")
  | .text contents :: rest =>
    let (after, text) := parameters.writePieces rest
    (after, contents ++ text)
  | .value scalar :: rest =>
    let (bound, mark) := parameters.bind scalar
    let (after, text) := bound.writePieces rest
    (after, mark ++ text)

/-- Adds the values of a rendering. Those before a fault stay in the list. -/
def write (rendering : Rendering) : Parameters × Except Fault String :=
  let (after, text) := parameters.writePieces rendering.pieces
  (after, match rendering.fault with
    | some fault => .error fault
    | none => .ok text)

/-- Adds the values of a rendering, or none of them if it fails. -/
def render (rendering : Rendering) : Parameters × Except Fault String :=
  match parameters.write rendering with
  | (after, .ok text) => (after, .ok text)
  | (after, .error fault) => (after.truncate parameters.size, .error fault)

/-- The list as a document for logs and tests. -/
def toJson : Json :=
  .object [("values", .array (Value.jsonItems parameters.values))]

end Parameters

/-- Adds every scalar to a list and writes its placeholder. -/
def Sink.parameters : Sink Parameters where
  bind := Parameters.bind

instance : Sink.parameters.Answers :=
  ⟨fun _ _ => placeholder_ne_empty _⟩

/-! ### Prepared statements -/

/-- A text with placeholders and the values that they stand for. -/
structure Prepared where
  text : String
  values : List Value

/-- The text and the values as a document for logs and tests. -/
def Prepared.toJson (prepared : Prepared) : Json :=
  .object [("text", .string prepared.text), ("values", .array (Value.jsonItems prepared.values))]

/-- The text with placeholders counted from one. -/
def Rendering.prepare (rendering : Rendering) : Except Fault Prepared :=
  match Parameters.empty.render rendering with
  | (parameters, .ok text) => .ok ⟨text, parameters.values⟩
  | (_, .error fault) => .error fault

/-- Writes a node into a list that it leaves alone if it fails. -/
def Parameters.renderNode (parameters : Parameters) (node : Node) :
    Parameters × Except Fault String :=
  match (node.write .parameters .ordinary).start parameters with
  | (.ok text, after) => (after, .ok text)
  | (.error fault, after) => (after.truncate parameters.size, .error fault)

namespace Node

/-- The text of a node with its scalars as literals. -/
def toText (node : Node) : Except Fault String :=
  ((node.write .inline .ordinary).start ()).1

/-- The text of a node with placeholders, and its values. -/
def prepare (node : Node) : Except Fault Prepared :=
  match Parameters.empty.renderNode node with
  | (parameters, .ok text) => .ok ⟨text, parameters.values⟩
  | (_, .error fault) => .error fault

end Node

namespace Operand

/-- The text of an operand where a value is wanted, with its scalars as literals. -/
def valueText (operand : Operand) : Except Fault String :=
  ((operand.writeValue .inline .ordinary .array).start ()).1

/-- The text of an operand where a name is wanted, with its scalars as literals. -/
def nameText (operand : Operand) : Except Fault String :=
  ((operand.writeName .inline .ordinary).start ()).1

end Operand

end SqlTree
