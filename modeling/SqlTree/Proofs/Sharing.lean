/-
This file proves that a list of values survives the trees that fail to be
written into it. However many trees go into one list, one after another, each
of them either fails and leaves the list as it found it, or has the text that
it has on its own, save that its placeholders count on from the values in the
list at that moment, and adds its own values at the end.

Callers put many trees into one list to run them together, and some of the trees
may be wrong. A failure that left values behind would shift the placeholders of
every later tree away from its values. One step is that of a single tree, from any
list; the run follows by induction on the trees, with the list at hand
generalized. What the last theorem says of each tree does not mention the others,
except by how many values they have left in the list.
-/

import SqlTree.Proofs.Modes

namespace SqlTree

/-! ### One tree -/

/-- The values of a tree that is written on its own; none if it fails. -/
def Node.ownValues (node : Node) : List Value :=
  match node.prepare with
  | .ok prepared => prepared.values
  | .error _ => []

/-- What a list becomes when a tree is written into it, and what is answered: the
fault that the tree has on its own, or its own text with the placeholders
counted on from the values in the list. -/
inductive Node.Enters (node : Node) (list : Parameters) : Parameters → Except Fault String → Prop
  | fault {fault : Fault} (own : node.prepare = .error fault) :
    node.Enters list list (.error fault)
  | text {outline : Outline} (outlined : node.HasOutline .ordinary outline)
      (own : node.prepare = .ok ⟨outline.prepared 0, outline.values⟩) :
    node.Enters list ⟨list.values ++ outline.values⟩ (.ok (outline.prepared list.size))

/-- A tree adds its own values or, if it fails, none. -/
theorem Node.Enters.values_eq {node : Node} {list after : Parameters}
    {answer : Except Fault String} (enters : node.Enters list after answer) :
    after.values = list.values ++ node.ownValues := by
  cases enters with
  | fault own =>
    rw [Node.ownValues, own]
    exact (List.append_nil _).symm
  | text outlined own => rw [Node.ownValues, own]

namespace Parameters

/-- A list that has only grown since it had its size is cut back to what it was. -/
theorem truncate_append (list : Parameters) (more : List Value) :
    (Parameters.mk (list.values ++ more)).truncate list.size = list := by
  rw [truncate, size, List.take_left]

/-- A tree that fails has bound some of its values by then; they are taken back. -/
theorem enters_renderNode (list : Parameters) (node : Node) :
    node.Enters list (list.renderNode node).1 (list.renderNode node).2 := by
  have written := ((node.render .ordinary).start_writeTo list).2
  rw [← Node.write_eq] at written
  cases outcome : (node.render .ordinary).fault with
  | some fault =>
    have own : node.prepare = .error fault := by rw [node.prepare_eq, outcome]
    have answered : list.renderNode node = (list, .error fault) := by
      rw [renderNode, written, outcome]
      exact congrArg (·, _) (list.truncate_append _)
    rw [answered]
    exact .fault own
  | none =>
    let outline := Outline.ofPieces (node.render .ordinary).pieces
    have own : node.prepare = .ok ⟨outline.prepared 0, outline.values⟩ := by
      rw [node.prepare_eq, outcome]
    have answered : list.renderNode node =
        (⟨list.values ++ outline.values⟩, .ok (outline.prepared list.size)) := by
      rw [renderNode, written, outcome]
    rw [answered]
    exact .text (node.hasOutline_of_fault_eq_none .ordinary outcome) own

/-! ### Trees one after another -/

/-- Writes trees into a list one after another, each into what the list has
become, and returns what was answered to each. -/
def renderNodes (list : Parameters) : List Node → Parameters × List (Except Fault String)
  | [] => (list, [])
  | node :: rest =>
    let (after, answer) := list.renderNode node
    let (last, answers) := after.renderNodes rest
    (last, answer :: answers)

/-- A run of trees can be cut anywhere: the second part starts with the list that the
first one leaves. -/
theorem renderNodes_append (list : Parameters) (first second : List Node) :
    list.renderNodes (first ++ second) =
      (((list.renderNodes first).1.renderNodes second).1,
        (list.renderNodes first).2 ++ ((list.renderNodes first).1.renderNodes second).2) := by
  induction first generalizing list with
  | nil => rfl
  | cons node rest inductionHypothesis =>
    have later := inductionHypothesis (list.renderNode node).1
    rw [List.cons_append, renderNodes, renderNodes]
    simp only [later, List.cons_append]

/-- There is one answer for each tree. -/
theorem length_renderNodes (list : Parameters) (nodes : List Node) :
    (list.renderNodes nodes).2.length = nodes.length := by
  induction nodes generalizing list with
  | nil => rfl
  | cons node rest inductionHypothesis =>
    exact congrArg (· + 1) (inductionHypothesis (list.renderNode node).1)

/-- The list grows by the values of the trees that do not fail, in the order of
the trees. -/
theorem values_renderNodes (list : Parameters) (nodes : List Node) :
    (list.renderNodes nodes).1.values = list.values ++ nodes.flatMap Node.ownValues := by
  induction nodes generalizing list with
  | nil => exact (List.append_nil _).symm
  | cons node rest inductionHypothesis =>
    calc ((list.renderNode node).1.renderNodes rest).1.values
        = (list.renderNode node).1.values ++ rest.flatMap Node.ownValues := inductionHypothesis _
      _ = list.values ++ node.ownValues ++ rest.flatMap Node.ownValues := by
          rw [(list.enters_renderNode node).values_eq]
      _ = list.values ++ (node :: rest).flatMap Node.ownValues := by
          rw [List.append_assoc, List.flatMap_cons]

/-- Trees that are written into one list leave in it what it held before and then
the values of those that succeed, in order. Each of them enters the list that
those before it have left, whether they failed or not. -/
theorem enters_renderNodes (list : Parameters) :
    (∀ nodes, (list.renderNodes nodes).1.values = list.values ++ nodes.flatMap Node.ownValues ∧
      (list.renderNodes nodes).2.length = nodes.length) ∧
    ∀ earlier node later, ∃ answer,
      (list.renderNodes (earlier ++ node :: later)).2[earlier.length]? = some answer ∧
      node.Enters (list.renderNodes earlier).1 (list.renderNodes (earlier ++ [node])).1 answer := by
  refine ⟨fun nodes => ⟨list.values_renderNodes nodes, list.length_renderNodes nodes⟩,
    fun earlier node later => ⟨((list.renderNodes earlier).1.renderNode node).2, ?_, ?_⟩⟩
  · rw [renderNodes_append, ← list.length_renderNodes earlier,
      List.getElem?_append_right (Nat.le_refl _), Nat.sub_self]
    rfl
  · rw [renderNodes_append]
    exact enters_renderNode _ node

end Parameters

end SqlTree
