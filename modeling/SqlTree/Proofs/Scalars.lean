/-
This file proves which scalars a rendering hands over: those of its parts, in the
order in which the parts stand in it. Parts without text have none, and what is
put around a part adds none.

These lemmas say of scalars what other files say of texts and faults, way by way
in which renderings are put together. Most of them ask for parts that do not fail:
behind a fault nothing is written, so the scalars of a whole end where the first
of its faults stands. What a condition or a clause hands over is then found again
in the statement around it by containment, without opening the statement.
-/

import SqlTree.Proofs.Misuse.Report
import SqlTree.Proofs.Sharing

namespace SqlTree

namespace Rendering

/-! ### Parts of renderings -/

/-- The scalars of a rendering, up to its fault. -/
def scalars (rendering : Rendering) : List Value :=
  (Outline.ofPieces rendering.pieces).values

variable {first second whole part rendering : Rendering} {renderings : List Rendering}

/-- Renderings are put together from either side, because nothing follows a fault. -/
theorem append_assoc (first second third : Rendering) :
    first ++ second ++ third = first ++ (second ++ third) := by
  show append (append first second) third = append first (append second third)
  obtain ⟨pieces, fault⟩ := first
  obtain ⟨morePieces, moreFault⟩ := second
  cases fault with
  | some fault => rfl
  | none =>
    cases moreFault with
    | some fault => rfl
    | none => simp only [append, List.append_assoc]

/-- The scalars of the second part count unless the first part fails. -/
@[simp] theorem scalars_append (first second : Rendering) :
    (first ++ second).scalars =
      first.scalars ++ if first.fails then [] else second.scalars := by
  show (append first second).scalars = _
  obtain ⟨pieces, fault⟩ := first
  cases fault with
  | some fault => exact (List.append_nil _).symm
  | none => exact Outline.values_append _ _

@[simp] theorem scalars_empty : empty.scalars = [] := rfl

@[simp] theorem scalars_ofText (text : String) : (ofText text).scalars = [] := rfl

/-- A scalar always has a text. -/
theorem scalars_of_isBlank (blank : rendering.isBlank) : rendering.scalars = [] := by
  have piecesBlank : ∀ pieces : List Piece, pieces.all Piece.isBlank →
      (Outline.ofPieces pieces).values = [] := by
    intro pieces allBlank
    induction pieces with
    | nil => rfl
    | cons piece rest inductionHypothesis =>
      rw [List.all_cons, Bool.and_eq_true] at allBlank
      cases piece with
      | text contents => exact inductionHypothesis allBlank.2
      | value scalar => exact absurd allBlank.1 Bool.false_ne_true
  rw [isBlank, Bool.and_eq_true] at blank
  exact piecesBlank _ blank.2

/-- What is put around a part adds no scalar, and what is left out has none. -/
theorem scalars_ifPresent {change : Rendering → Rendering}
    (kept : (change rendering).scalars = rendering.scalars) :
    (rendering.ifPresent change).scalars = rendering.scalars := by
  unfold ifPresent
  split
  · next blank => rw [scalars_of_isBlank blank, scalars_empty]
  · exact kept

@[simp] theorem scalars_parenthesized (rendering : Rendering) :
    (parenthesized rendering).scalars = rendering.scalars := by
  simp [parenthesized]

/-- Items have their scalars one after another, unless one of them fails. -/
theorem scalars_join (separator : String) (sound : renderings.any fails = false) :
    (join separator renderings).scalars = renderings.flatMap scalars := by
  induction renderings with
  | nil => rfl
  | cons rendering rest inductionHypothesis =>
    rw [List.any_cons, Bool.or_eq_false_iff] at sound
    cases rest with
    | nil => exact (List.append_nil _).symm
    | cons next others =>
      show (rendering ++ ofText separator ++ join separator (next :: others)).scalars = _
      simp [inductionHypothesis sound.2, sound.1]

/-- Parts without text are left out, but no scalars with them. -/
theorem scalars_joinPresent (separator : String) (sound : renderings.any fails = false) :
    (joinPresent separator renderings).scalars = renderings.flatMap scalars := by
  have presentSound :
      (renderings.filter fun rendering => !rendering.isBlank).any fails = false := by
    rw [List.any_eq_false] at sound ⊢
    exact fun rendering member => sound rendering (List.mem_filter.mp member).1
  rw [joinPresent, scalars_join separator presentSound]
  clear sound presentSound
  induction renderings with
  | nil => rfl
  | cons rendering rest inductionHypothesis =>
    rw [List.filter_cons, List.flatMap_cons]
    cases blank : rendering.isBlank with
    | true =>
      rw [scalars_of_isBlank blank, List.nil_append, ← inductionHypothesis]
      rfl
    | false =>
      rw [← inductionHypothesis]
      rfl

/-- The whole does not succeed without the part, and has the scalars of the part
one after another. -/
def Contains (whole part : Rendering) : Prop :=
  whole.fails = false → part.fails = false ∧ part.scalars <:+: whole.scalars

/-- A part of the first half is a part of the whole. -/
theorem Contains.left (contained : first.Contains part) (second : Rendering) :
    (first ++ second).Contains part := by
  intro sound
  rw [fails_append, Bool.or_eq_false_iff] at sound
  rw [scalars_append]
  obtain ⟨partSound, inside⟩ := contained sound.1
  exact ⟨partSound, inside.trans (List.prefix_append _ _).isInfix⟩

/-- A part of the second half is a part of the whole. -/
theorem Contains.right (first : Rendering) (contained : second.Contains part) :
    (first ++ second).Contains part := by
  intro sound
  rw [fails_append, Bool.or_eq_false_iff] at sound
  rw [scalars_append, sound.1]
  obtain ⟨partSound, inside⟩ := contained sound.2
  exact ⟨partSound, inside.trans (List.suffix_append _ _).isInfix⟩

theorem contains_clause (keyword : String) (part : Rendering) :
    (clause keyword part).Contains part := by
  intro sound
  rw [fails_clause] at sound
  have kept : (ofText keyword ++ part).scalars = part.scalars := by simp
  rw [clause, scalars_ifPresent kept]
  exact ⟨sound, List.infix_refl _⟩

end Rendering

/-! ### Trees -/

/-- A tree is prepared with the scalars of its rendering, which does not fail. -/
theorem Node.scalars_of_prepare {node : Node} {prepared : Prepared}
    (succeeded : node.prepare = .ok prepared) :
    (node.render .ordinary).fails = false ∧
      prepared.values = (node.render .ordinary).scalars := by
  rw [prepare_eq] at succeeded
  unfold Rendering.fails
  cases outcome : (node.render .ordinary).fault with
  | some fault => rw [outcome] at succeeded; cases succeeded
  | none => rw [outcome] at succeeded; cases succeeded; exact ⟨rfl, rfl⟩

/-- The values of a tree on its own are the scalars of its rendering. -/
theorem Node.ownValues_eq {node : Node} (sound : (node.render .ordinary).fails = false) :
    node.ownValues = (node.render .ordinary).scalars := by
  have noFault : (node.render .ordinary).fault = none :=
    Option.not_isSome_iff_eq_none.mp (Bool.eq_false_iff.mp sound)
  rw [ownValues, prepare_eq, noFault]
  rfl

end SqlTree
