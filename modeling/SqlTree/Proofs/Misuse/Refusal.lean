/-
This file proves that a builder that has recorded a misuse refuses to be
written: into any sink, in any context, it fails with what it has recorded, and
it does so before the sink takes a scalar.

A refusal is stronger than a failure. A tree that fails may have handed scalars to
the sink by then; a builder with a misuse looks at what it has recorded first, so
the sink is in the state in which it was. Four builders record something, and each
of them is asked at the very start of its text. A later file shows that a refusal
in a part is a failure of the whole.
-/

import SqlTree.Parameters

namespace SqlTree

open Writing

namespace Node

/-- The node fails with a fault before the sink takes anything. -/
def Refuses (node : Node) (fault : Fault) : Prop :=
  ∀ (State : Type) (sink : Sink State) (context : Context) (state : State),
    (node.write sink context).start state = (.error fault, state)

variable {node : Node} {fault : Fault}

/-- With literals there is no text but the fault. -/
theorem Refuses.toText (refuses : node.Refuses fault) : node.toText = .error fault :=
  congrArg Prod.fst (refuses Unit .inline .ordinary ())

/-- Into a list of parameters nothing is put, and nothing has to be taken out again. -/
theorem Refuses.renderNode (refuses : node.Refuses fault) (list : Parameters) :
    list.renderNode node = (list.truncate list.size, .error fault) := by
  rw [Parameters.renderNode, refuses Parameters .parameters .ordinary list]

/-- Nothing is prepared. -/
theorem Refuses.prepare (refuses : node.Refuses fault) : node.prepare = .error fault := by
  rw [Node.prepare, refuses.renderNode]

end Node

/-! ### Builders -/

variable {misuse : Misuse}

/-- A snippet with operands that no marker takes. -/
theorem Snippet.refuses {snippet : Snippet} (recorded : snippet.misuse = some misuse) :
    (Node.snippet snippet).Refuses (.misuse misuse) := by
  obtain ⟨head, slots, found⟩ := snippet
  subst recorded
  exact fun _ _ _ _ => rfl

theorem SourceList.refuses {list : SourceList} (recorded : list.misuse = some misuse) :
    (Node.sources list).Refuses (.misuse misuse) := by
  obtain ⟨sources, found⟩ := list
  subst recorded
  exact fun _ _ _ _ => rfl

theorem Select.refuses {query : Select} (recorded : query.sources.misuse = some misuse) :
    (Node.select query).Refuses (.misuse misuse) := by
  obtain ⟨columns, distinct, target, ⟨sources, found⟩, condition, grouping, groupCondition,
    ordering, limit, offset⟩ := query
  subst recorded
  exact fun _ _ _ _ => rfl

/-- An insertion that was handed rows and a query, or two queries. -/
theorem Insert.refuses {statement : Insert} (recorded : statement.misuse = some misuse) :
    (Node.insert statement).Refuses (.misuse misuse) := by
  obtain ⟨table, columns, body, conflict, constraint, update, returning, found⟩ := statement
  subst recorded
  exact fun _ _ _ _ => rfl

end SqlTree
