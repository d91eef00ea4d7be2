/-
This file holds renderings: the text of a statement with its scalars still in
place, up to the fault that stops it, if there is one. Where a scalar stands,
one reader of a rendering writes a literal and another a placeholder, so the
two cannot disagree about anything else.

A rendering is made without a sink and can be read by any of them. It is a list of
pieces, texts and scalars, with the fault after the pieces that came before it,
since a sink takes these before the fault is found. Two renderings one after
another are the pieces of both, or those of the first up to its fault.
-/

import SqlTree.Fault

namespace SqlTree

/-- A stretch of text or a scalar within it. -/
inductive Piece where
  | text (text : String)
  | value (value : Value)

/-- Whether the piece has no text; a scalar always has one. -/
def Piece.isBlank : Piece → Bool
  | .text contents => contents.isEmpty
  | .value _ => false

/-- Pieces of a statement in their order, and the fault that follows the last. -/
structure Rendering where
  pieces : List Piece
  fault : Option Fault

/-- How the items of a list are written: in parentheses or as an array. -/
inductive ListForm where
  | array
  | row
  deriving DecidableEq

/-- A column with the rendering of its operand. -/
abbrev Cell := String × Rendering

namespace Rendering

/-- Nothing at all. -/
def empty : Rendering :=
  ⟨[], none⟩

/-- A text alone. -/
def ofText (text : String) : Rendering :=
  ⟨[.text text], none⟩

/-- A scalar alone. -/
def ofValue (value : Value) : Rendering :=
  ⟨[.value value], none⟩

/-- A fault with nothing before it. -/
def fail (fault : Fault) : Rendering :=
  ⟨[], some fault⟩

/-- Nothing follows a fault. -/
def append (left right : Rendering) : Rendering :=
  match left.fault with
  | some fault => ⟨left.pieces, some fault⟩
  | none => ⟨left.pieces ++ right.pieces, right.fault⟩

instance : Append Rendering :=
  ⟨append⟩

/-- Reports what a builder recorded. -/
def check : Option Misuse → Rendering
  | some misuse => fail (.misuse misuse)
  | none => empty

/-! ### Blank renderings -/

/-- Whether the rendering succeeds without any text. -/
def isBlank (rendering : Rendering) : Bool :=
  rendering.fault.isNone && rendering.pieces.all Piece.isBlank

/-- The rendering changed in some way, if it is not blank. -/
def ifPresent (rendering : Rendering) (change : Rendering → Rendering) : Rendering :=
  if rendering.isBlank then empty else change rendering

/-! ### Putting renderings together -/

/-- Renderings with a separator between them. -/
def join (separator : String) : List Rendering → Rendering
  | [] => empty
  | [rendering] => rendering
  | rendering :: rest => rendering ++ ofText separator ++ join separator rest

/-- What is left after blank renderings are dropped, with separators between. -/
def joinPresent (separator : String) (renderings : List Rendering) : Rendering :=
  join separator (renderings.filter fun rendering => !rendering.isBlank)

/-- Renderings with commas between them. -/
def commaSeparated (renderings : List Rendering) : Rendering :=
  join ", " renderings

/-- A rendering in parentheses. -/
def parenthesized (rendering : Rendering) : Rendering :=
  ofText "(" ++ rendering ++ ofText ")"

/-- Items as a row or as an array. -/
def listed (form : ListForm) (items : List Rendering) : Rendering :=
  match form with
  | .array => ofText "ARRAY[" ++ commaSeparated items ++ ofText "]"
  | .row => parenthesized (commaSeparated items)

/-- A keyword and what follows it, or nothing if nothing follows. -/
def clause (keyword : String) (rendering : Rendering) : Rendering :=
  rendering.ifPresent (ofText keyword ++ ·)

/-- A keyword and a list, or nothing for an empty list. -/
def listClause (keyword : String) (items : List Rendering) : Rendering :=
  if items.isEmpty then empty else ofText keyword ++ commaSeparated items

/-! ### Cells -/

/-- The cell of a column, or a substitute where the row lacks the column. -/
def cellOf (row : List Cell) (missing : Rendering) (column : String) : Rendering :=
  ((row.find? fun cell => cell.1 = column).map Prod.snd).getD missing

/-- One row of cells in the order of the columns. -/
def rowOf (columns : List String) (missing : Rendering) (row : List Cell) : Rendering :=
  parenthesized (commaSeparated (columns.map (cellOf row missing)))

/-- Rows of cells, each in the order of the columns. -/
def rowsOf (columns : List String) (missing : Rendering) (rows : List (List Cell)) : Rendering :=
  commaSeparated (rows.map (rowOf columns missing))

end Rendering

end SqlTree
