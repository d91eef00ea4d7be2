/-
This file proves that the two ways to write a tree agree. A tree either has a
fault, and then both ways report it, or it has an outline: texts with places
for scalars between them. With literals the places hold the literals of the
scalars; with parameters they hold placeholders that count on from the list at
hand, and the list grows by the scalars in the order of their places.

What makes the two agree is that neither looks at what the other is about. A
scalar decides nothing about the text around its place, and a placeholder is
numbered by its place in the list alone. The outline is where that is said: it
has the scalars and the texts between them and no numbers, so the same outline
is filled in both ways, from any list on.

The last part ties the traversal to the readers of a rendering, which do without
a sink: they give the same texts, the same lists and the same faults, for a node
as for an operand and in every context.
-/

import SqlTree.Parameters
import SqlTree.Proofs.Trace

namespace SqlTree

open Writing

/-! ### Outlines -/

/-- A text with places for scalars: what stands before the first place, and each
scalar with the text between its place and the next. -/
structure Outline where
  head : String
  slots : List (Value × String)

namespace Outline

/-- The scalars of the outline in the order of their places. -/
def values (outline : Outline) : List Value :=
  outline.slots.map Prod.fst

/-- Scalars with the texts after them, the first scalar under a number. -/
def fillSlots (spell : Nat → Value → String) : Nat → List (Value × String) → String
  | _, [] => ""
  | number, (value, text) :: rest =>
    spell number value ++ text ++ fillSlots spell (number + 1) rest

/-- The text with its places filled, the first place under a number. -/
def fill (spell : Nat → Value → String) (number : Nat) (outline : Outline) : String :=
  outline.head ++ fillSlots spell number outline.slots

/-- The text with literals in its places. -/
def inline (outline : Outline) : String :=
  outline.fill (fun _ value => quoteLiteral value) 1

/-- The text with placeholders that count on from a number of values. -/
def prepared (outline : Outline) (count : Nat) : String :=
  outline.fill (fun number _ => placeholder number) (count + 1)

/-- The outline of a run of pieces. -/
def ofPieces : List Piece → Outline
  | [] => ⟨"", []⟩
  | .text contents :: rest => ⟨contents ++ (ofPieces rest).head, (ofPieces rest).slots⟩
  | .value scalar :: rest => ⟨"", (scalar, (ofPieces rest).head) :: (ofPieces rest).slots⟩

theorem fill_text (spell : Nat → Value → String) (number : Nat) (contents : String)
    (rest : List Piece) :
    (ofPieces (.text contents :: rest)).fill spell number =
      contents ++ (ofPieces rest).fill spell number := by
  simp only [fill, ofPieces, String.append_assoc]

/-- The first place is filled by its number, and the next ones by those that follow. -/
theorem fill_value (spell : Nat → Value → String) (number : Nat) (scalar : Value)
    (rest : List Piece) :
    (ofPieces (.value scalar :: rest)).fill spell number =
      spell number scalar ++ (ofPieces rest).fill spell (number + 1) := by
  simp only [fill, ofPieces, fillSlots, String.empty_append, String.append_assoc]

theorem prepared_text (count : Nat) (contents : String) (rest : List Piece) :
    (ofPieces (.text contents :: rest)).prepared count =
      contents ++ (ofPieces rest).prepared count :=
  fill_text _ _ contents rest

/-- A placeholder has the number that comes after the list at hand. -/
theorem prepared_value (count : Nat) (scalar : Value) (rest : List Piece) :
    (ofPieces (.value scalar :: rest)).prepared count =
      placeholder (count + 1) ++ (ofPieces rest).prepared (count + 1) :=
  fill_value _ _ scalar rest

theorem values_text (contents : String) (rest : List Piece) :
    (ofPieces (.text contents :: rest)).values = (ofPieces rest).values := rfl

theorem values_value (scalar : Value) (rest : List Piece) :
    (ofPieces (.value scalar :: rest)).values = scalar :: (ofPieces rest).values := rfl

/-- The scalars of two outlines, one behind the other. -/
theorem values_append (first second : List Piece) :
    (ofPieces (first ++ second)).values = (ofPieces first).values ++ (ofPieces second).values := by
  induction first with
  | nil => rfl
  | cons piece rest inductionHypothesis =>
    cases piece with
    | text contents =>
      rw [List.cons_append, values_text, values_text, inductionHypothesis]
    | value scalar =>
      rw [List.cons_append, values_value, values_value, inductionHypothesis, List.cons_append]

/-- Numbers go on where the first half has stopped. -/
theorem fill_append (spell : Nat → Value → String) (number : Nat) (first second : List Piece) :
    (ofPieces (first ++ second)).fill spell number =
      (ofPieces first).fill spell number ++
        (ofPieces second).fill spell (number + (ofPieces first).values.length) := by
  induction first generalizing number with
  | nil => exact String.empty_append.symm
  | cons piece rest inductionHypothesis =>
    cases piece with
    | text contents =>
      rw [List.cons_append, fill_text, fill_text, values_text, inductionHypothesis,
        String.append_assoc]
    | value scalar =>
      rw [List.cons_append, fill_value, fill_value, values_value, inductionHypothesis,
        String.append_assoc, List.length_cons, Nat.add_right_comm, Nat.add_assoc]

end Outline

/-! ### Pieces in the two sinks -/

/-- The sink of literals fills the outline with literals. -/
theorem start_writePieces_inline (pieces : List Piece) :
    (writePieces .inline pieces).start () = (.ok (Outline.ofPieces pieces).inline, ()) := by
  have anyNumber (number : Nat) : (writePieces .inline pieces).start () =
      (.ok ((Outline.ofPieces pieces).fill (fun _ value => quoteLiteral value) number), ()) := by
    induction pieces generalizing number with
    | nil => rfl
    | cons piece rest inductionHypothesis =>
      cases piece with
      | text contents =>
        rw [writePieces, start_bind, inductionHypothesis number, Outline.fill_text]
        rfl
      | value scalar =>
        rw [writePieces, start_bind, start_write, Outline.fill_value]
        show ((writePieces .inline rest >>= fun text =>
          pure (quoteLiteral scalar ++ text)).start ()) = _
        rw [start_bind, inductionHypothesis (number + 1)]
        rfl
  exact anyNumber 1

/-- The sink of parameters fills it with placeholders that count on from the list, and
puts the scalars at its end. -/
theorem start_writePieces_parameters (pieces : List Piece) (parameters : Parameters) :
    (writePieces .parameters pieces).start parameters =
      (.ok ((Outline.ofPieces pieces).prepared parameters.size),
        ⟨parameters.values ++ (Outline.ofPieces pieces).values⟩) := by
  induction pieces generalizing parameters with
  | nil =>
    rw [Outline.ofPieces, Outline.values, List.map_nil, List.append_nil]
    rfl
  | cons piece rest inductionHypothesis =>
    cases piece with
    | text contents =>
      rw [writePieces, start_bind, inductionHypothesis parameters, Outline.prepared_text,
        Outline.values_text]
      rfl
    | value scalar =>
      have size_push : (parameters.push scalar).size = parameters.size + 1 := by
        rw [Parameters.size, Parameters.push, List.length_append]
        rfl
      rw [writePieces, start_bind, start_write, Outline.prepared_value, Outline.values_value]
      show ((writePieces .parameters rest >>= fun text =>
        pure (placeholder (parameters.push scalar).size ++ text)).start
          (parameters.push scalar)) = _
      rw [start_bind, inductionHypothesis (parameters.push scalar), size_push]
      show (Except.ok (_ ++ _), Parameters.mk (parameters.values ++ [scalar] ++ _)) = _
      rw [List.append_assoc]
      rfl

/-! ### Renderings in the two sinks -/

/-- What a rendering says, in the two ways to say it. -/
theorem Rendering.start_writeTo (rendering : Rendering) (parameters : Parameters) :
    (rendering.writeTo .inline).start () =
        (match rendering.fault with
          | some fault => .error fault
          | none => .ok (Outline.ofPieces rendering.pieces).inline, ()) ∧
      (rendering.writeTo .parameters).start parameters =
        (match rendering.fault with
          | some fault => .error fault
          | none => .ok ((Outline.ofPieces rendering.pieces).prepared parameters.size),
          ⟨parameters.values ++ (Outline.ofPieces rendering.pieces).values⟩) := by
  obtain ⟨pieces, fault⟩ := rendering
  rw [Rendering.writeTo, Rendering.writeTo, start_bind, start_bind, start_writePieces_inline,
    start_writePieces_parameters]
  cases fault <;> exact ⟨rfl, rfl⟩

/-! ### Trees in the two sinks -/

namespace Node

variable (node : Node) (context : Context)

/-- Both sinks report a fault, whatever the list held before. -/
def HasFault (fault : Fault) : Prop :=
  ((node.write .inline context).start ()).1 = .error fault ∧
    ∀ parameters, ((node.write .parameters context).start parameters).1 = .error fault

/-- Both sinks fill an outline: with literals, or with placeholders that count on
from the values in the list, which then holds the scalars of the outline after
those that it held before. -/
def HasOutline (outline : Outline) : Prop :=
  (node.write .inline context).start () = (.ok outline.inline, ()) ∧
    ∀ parameters, (node.write .parameters context).start parameters =
      (.ok (outline.prepared parameters.size), ⟨parameters.values ++ outline.values⟩)

/-- A fault of the rendering is a fault in both ways, with literals and with parameters,
and no list is changed by it. -/
theorem hasFault_of_fault {fault : Fault} (faulty : (node.render context).fault = some fault) :
    node.HasFault context fault := by
  refine ⟨?_, fun parameters => ?_⟩
  · rw [write_eq, ((node.render context).start_writeTo .empty).1, faulty]
  · rw [write_eq, ((node.render context).start_writeTo parameters).2, faulty]

/-- Without a fault the pieces of the rendering are the outline. -/
theorem hasOutline_of_fault_eq_none (sound : (node.render context).fault = none) :
    node.HasOutline context (.ofPieces (node.render context).pieces) := by
  refine ⟨?_, fun parameters => ?_⟩
  · rw [write_eq, ((node.render context).start_writeTo .empty).1, sound]
  · rw [write_eq, ((node.render context).start_writeTo parameters).2, sound]

/-- The text of a tree, read off its rendering. -/
theorem toText_eq : node.toText =
    match (node.render .ordinary).fault with
    | some fault => .error fault
    | none => .ok (Outline.ofPieces (node.render .ordinary).pieces).inline := by
  rw [toText, write_eq, ((node.render .ordinary).start_writeTo .empty).1]

/-- The prepared form of a tree, read off the same rendering. -/
theorem prepare_eq : node.prepare =
    match (node.render .ordinary).fault with
    | some fault => .error fault
    | none => .ok ⟨(Outline.ofPieces (node.render .ordinary).pieces).prepared 0,
        (Outline.ofPieces (node.render .ordinary).pieces).values⟩ := by
  rw [prepare, Parameters.renderNode, write_eq,
    ((node.render .ordinary).start_writeTo .empty).2]
  cases (node.render .ordinary).fault <;> rfl

/-- A tree in a context has a fault or an outline, and never both. -/
theorem fault_or_outline :
    ((∃ fault, node.HasFault context fault) ∨ ∃ outline, node.HasOutline context outline) ∧
      ¬ ((∃ fault, node.HasFault context fault) ∧ ∃ outline, node.HasOutline context outline) := by
  constructor
  · cases outcome : (node.render context).fault with
    | some fault => exact Or.inl ⟨fault, node.hasFault_of_fault context outcome⟩
    | none => exact Or.inr ⟨_, node.hasOutline_of_fault_eq_none context outcome⟩
  · rintro ⟨⟨fault, inlineFails, -⟩, outline, inlineFills, -⟩
    rw [inlineFills] at inlineFails
    cases inlineFails

end Node

/-! ### Renderings read without a sink

A rendering can be read as well without handing its scalars to a sink. That gives what
the traversal gives, for a whole node as for an operand. -/

/-- The reader of pieces without a sink gives the same text. -/
theorem start_writePieces_inlinePieces (pieces : List Piece) :
    (writePieces .inline pieces).start () = (.ok (inlinePieces pieces), ()) := by
  induction pieces with
  | nil => rfl
  | cons piece rest inductionHypothesis =>
    cases piece with
    | text contents =>
      rw [writePieces, start_bind, inductionHypothesis]
      rfl
    | value scalar =>
      rw [writePieces, start_bind, start_write]
      show ((writePieces .inline rest >>= fun text =>
        pure (quoteLiteral scalar ++ text)).start ()) = _
      rw [start_bind, inductionHypothesis]
      rfl

/-- So does the reader that carries a list along. -/
theorem start_writePieces_bound (pieces : List Piece) (parameters : Parameters) :
    (writePieces .parameters pieces).start parameters =
      (.ok (parameters.writePieces pieces).2, (parameters.writePieces pieces).1) := by
  induction pieces generalizing parameters with
  | nil => rfl
  | cons piece rest inductionHypothesis =>
    cases piece with
    | text contents =>
      rw [writePieces, start_bind, inductionHypothesis parameters]
      rfl
    | value scalar =>
      rw [writePieces, start_bind, start_write]
      show ((writePieces .parameters rest >>= fun text =>
        pure ((parameters.bind scalar).2 ++ text)).start (parameters.bind scalar).1) = _
      rw [start_bind, inductionHypothesis (parameters.bind scalar).1]
      rfl

/-- A rendering is written into the sink of literals as it is read. -/
theorem Rendering.start_inline (rendering : Rendering) :
    (rendering.writeTo .inline).start () = (rendering.inline, ()) := by
  obtain ⟨pieces, fault⟩ := rendering
  rw [Rendering.writeTo, start_bind, start_writePieces_inlinePieces]
  cases fault <;> rfl

/-- A rendering is written into a list as it is read with the list at hand. -/
theorem Parameters.start_write (parameters : Parameters) (rendering : Rendering) :
    (rendering.writeTo .parameters).start parameters =
      ((parameters.write rendering).2, (parameters.write rendering).1) := by
  obtain ⟨pieces, fault⟩ := rendering
  rw [Rendering.writeTo, start_bind, start_writePieces_bound]
  cases fault <;> rfl

section Readings

variable (context : Context) (parameters : Parameters)

/-- With literals, what the traversal writes is what is read off the rendering. -/
theorem Node.start_write_inline (node : Node) :
    (node.write .inline context).start () = ((node.render context).inline, ()) := by
  rw [node.write_eq .inline, Rendering.start_inline]

theorem Operand.start_writeValue_inline (form : ListForm) (operand : Operand) :
    (operand.writeValue .inline context form).start () =
      ((operand.renderValue context form).inline, ()) := by
  rw [operand.writeValue_eq .inline, Rendering.start_inline]

theorem Operand.start_writeName_inline (operand : Operand) :
    (operand.writeName .inline context).start () = ((operand.renderName context).inline, ()) := by
  rw [operand.writeName_eq .inline, Rendering.start_inline]

/-- Into a list, what the traversal adds and writes is what is read off the rendering. -/
theorem Node.start_write_parameters (node : Node) :
    (node.write .parameters context).start parameters =
      ((parameters.write (node.render context)).2, (parameters.write (node.render context)).1) := by
  rw [node.write_eq .parameters, parameters.start_write]

/-- As a value an operand is written with placeholders as its rendering is. -/
theorem Operand.start_writeValue_parameters (form : ListForm) (operand : Operand) :
    (operand.writeValue .parameters context form).start parameters =
      ((parameters.write (operand.renderValue context form)).2,
        (parameters.write (operand.renderValue context form)).1) := by
  rw [operand.writeValue_eq .parameters, parameters.start_write]

theorem Operand.start_writeName_parameters (operand : Operand) :
    (operand.writeName .parameters context).start parameters =
      ((parameters.write (operand.renderName context)).2,
        (parameters.write (operand.renderName context)).1) := by
  rw [operand.writeName_eq .parameters, parameters.start_write]

end Readings

/-- The list that a node is rendered into is left alone by a fault in either way. -/
theorem Parameters.renderNode_eq (parameters : Parameters) (node : Node) :
    parameters.renderNode node = parameters.render (node.render .ordinary) := by
  rw [renderNode, render, node.start_write_parameters]
  rcases parameters.write (node.render .ordinary) with ⟨after, outcome⟩
  cases outcome <;> rfl

/-- The text of a tree is what the reader of its rendering makes of it. -/
theorem Node.toText_eq_inline (node : Node) : node.toText = (node.render .ordinary).inline := by
  rw [toText, node.start_write_inline]

/-- So is its prepared form. -/
theorem Node.prepare_eq_prepare (node : Node) :
    node.prepare = (node.render .ordinary).prepare := by
  rw [prepare, Parameters.renderNode_eq]
  rfl

/-- The text of an operand on its own, as a value. -/
theorem Operand.valueText_eq_inline (operand : Operand) :
    operand.valueText = (operand.renderValue .ordinary .array).inline := by
  rw [valueText, operand.start_writeValue_inline]

/-- The text of an operand as a name is its rendering with literals. -/
theorem Operand.nameText_eq_inline (operand : Operand) :
    operand.nameText = (operand.renderName .ordinary).inline := by
  rw [nameText, operand.start_writeName_inline]

end SqlTree
