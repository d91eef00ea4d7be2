/-
This file proves that a condition that asks for nothing leaves no trace. What a
condition stores decides whether it asks for nothing, and so does its text; the
two agree as long as no node stands in the condition as it is. A statement or a
join that gets such a condition is written as it was written without it.

The two tests are made in different places: a builder looks at what a condition
stores, and a clause looks at the text that came back. So each direction is an
induction of its own over the traversal, and both hold for every sink, whatever
it answers: a condition that asks for nothing never asks a sink, and one that
does ask for something has a keyword or an operator in its text.
-/

import SqlTree.Proofs.Steps.Conditions

namespace SqlTree

open Writing

variable {State : Type} (sink : Sink State) (context : Context)

/-! ### Conditions that ask for nothing -/

namespace Condition

/-- What asks for nothing brings nothing that asks for anything. -/
theorem areEmpty_membersFor {condition : Condition} (empty : condition.isEmpty) :
    areEmpty (membersFor .all condition) := by
  match condition with
  | .all members => exact empty
  | .any [] => rfl
  | .any [member] => exact empty
  | .any (_ :: _ :: _) | .negation _ | .existence _ | .test _ _ | .plain _ =>
    exact (Bool.and_true _).trans empty

end Condition

/-! ### Traces in a sink -/

mutual

/-- A condition that asks for nothing is written without text and without a word to
the sink, whatever is wrong with its columns and its operands. -/
theorem Condition.write_of_isEmpty (condition : Condition) (empty : condition.isEmpty) :
    condition.write sink context = pure "" := by
  match condition with
  | .all members | .any members =>
    rw [Condition.write, writeMembers_of_areEmpty members empty]
    rfl
  | .negation inner =>
    rw [Condition.write, inner.write_of_isEmpty empty]
    rfl
  | .test column comparison =>
    rw [Condition.isEmpty, Bool.not_eq_true'] at empty
    rw [Condition.write, empty]
    rfl
  | .existence _ | .plain _ => cases empty

/-- The members of a group that ask for nothing leave no text behind. -/
theorem writeMembers_of_areEmpty (members : List Condition) (empty : Condition.areEmpty members) :
    writeMembers sink context members = pure [] := by
  match members with
  | [] => rfl
  | first :: rest =>
    rw [Condition.areEmpty, Bool.and_eq_true] at empty
    rw [writeMembers, first.write_of_isEmpty empty.1, writeMembers_of_areEmpty rest empty.2]
    rfl

end

/-- Members that ask for nothing make no difference after others. -/
theorem writeMembers_append_of_areEmpty (first : List Condition) {second : List Condition}
    (empty : Condition.areEmpty second) :
    writeMembers sink context (first ++ second) = writeMembers sink context first := by
  induction first with
  | nil => exact writeMembers_of_areEmpty sink context second empty
  | cons member rest inductionHypothesis =>
    rw [List.cons_append, writeMembers, writeMembers, inductionHypothesis]

namespace Condition

mutual

/-- Whether no node stands in the condition as it is. -/
def isNodeFree : Condition → Bool
  | .all members | .any members => areNodeFree members
  | .negation inner => inner.isNodeFree
  | .existence _ | .test _ _ => true
  | .plain _ => false

/-- The members of a group. -/
def areNodeFree : List Condition → Bool
  | [] => true
  | member :: rest => member.isNodeFree && areNodeFree rest

end

variable {sink context}

/-- Members without text are not among the texts of the members. -/
theorem ne_empty_of_writeMembers {members : List Condition} {state after : State}
    {texts : List String}
    (written : (writeMembers sink context members).start state = (.ok texts, after)) :
    ∀ text ∈ texts, text ≠ "" := by
  induction members generalizing state texts with
  | nil =>
    cases written
    exact List.forall_mem_nil _
  | cons member rest inductionHypothesis =>
    obtain ⟨text, middle, -, onward⟩ := start_bind_ok.mp written
    obtain ⟨others, last, othersWritten, whole⟩ := start_bind_ok.mp onward
    cases whole
    have othersPresent := inductionHypothesis othersWritten
    split
    · exact othersPresent
    · next present =>
      refine List.forall_mem_cons.mpr ⟨?_, othersPresent⟩
      split
      · exact Rendering.parenthesizedText_ne_empty text
      · exact fun none => present (String.isEmpty_iff.mpr none)

/-- Texts that are not empty and leave nothing when they are joined are no texts. -/
theorem eq_nil_of_intercalate_eq_empty {separator : String} {texts : List String}
    (present : ∀ text ∈ texts, text ≠ "") (none : separator.intercalate texts = "") :
    texts = [] := by
  match texts with
  | [] => rfl
  | [text] =>
    rw [String.intercalate_singleton] at none
    exact absurd none (present text List.mem_cons_self)
  | text :: next :: others =>
    rw [String.intercalate_cons_cons, String.append_assoc] at none
    exact absurd (String.append_eq_empty_iff.mp none).1 (present text List.mem_cons_self)

mutual

/-- A condition without text asks for nothing, unless a node stands in it. -/
theorem isEmpty_of_write (condition : Condition) (nodeFree : condition.isNodeFree)
    {state after : State}
    (written : (condition.write sink context).start state = (.ok "", after)) :
    condition.isEmpty := by
  match condition with
  | .all members | .any members =>
    obtain ⟨texts, middle, membersWritten, whole⟩ := start_bind_ok.mp written
    have joined := Except.ok.inj (congrArg Prod.fst whole)
    obtain rfl := eq_nil_of_intercalate_eq_empty (ne_empty_of_writeMembers membersWritten) joined
    exact areEmpty_of_write members nodeFree membersWritten
  | .negation inner =>
    obtain ⟨text, middle, innerWritten, whole⟩ := start_bind_ok.mp written
    have result := Except.ok.inj (congrArg Prod.fst whole)
    split at result
    · next none =>
      obtain rfl := String.isEmpty_iff.mp none
      exact inner.isEmpty_of_write nodeFree innerWritten
    · exact absurd (String.append_eq_empty_iff.mp result).1 (by decide)
  | .existence query =>
    obtain ⟨text, middle, -, whole⟩ := start_bind_ok.mp written
    have result := Except.ok.inj (congrArg Prod.fst whole)
    exact absurd (String.append_eq_empty_iff.mp result).1 (by decide)
  | .test column comparison =>
    rw [isEmpty]
    cases valid : comparison.isValid with
    | false => rfl
    | true =>
      rw [write, if_pos valid] at written
      obtain ⟨columnText, middle, -, onward⟩ := start_bind_ok.mp written
      obtain ⟨comparisonText, last, -, whole⟩ := start_bind_ok.mp onward
      have result := Except.ok.inj (congrArg Prod.fst whole)
      have spaced := (String.append_eq_empty_iff.mp result).1
      exact absurd (String.append_eq_empty_iff.mp spaced).2 (by decide)
  | .plain _ => cases nodeFree

/-- A group that comes back without texts has only members that ask for nothing. -/
theorem areEmpty_of_write (members : List Condition) (nodeFree : areNodeFree members)
    {state after : State}
    (written : (writeMembers sink context members).start state = (.ok [], after)) :
    areEmpty members := by
  match members with
  | [] => rfl
  | member :: rest =>
    rw [areNodeFree, Bool.and_eq_true] at nodeFree
    obtain ⟨text, middle, memberWritten, onward⟩ := start_bind_ok.mp written
    obtain ⟨others, last, othersWritten, whole⟩ := start_bind_ok.mp onward
    obtain ⟨result, same⟩ := Prod.mk.inj whole
    replace result := Except.ok.inj result
    cases same
    split at result
    · next none =>
      obtain rfl := String.isEmpty_iff.mp none
      cases result
      rw [areEmpty, member.isEmpty_of_write nodeFree.1 memberWritten]
      exact areEmpty_of_write rest nodeFree.2 othersWritten
    · cases result

end

/-- A snippet without text is a node, so it counts as a condition. -/
example :
    ((Condition.plain (.snippet ⟨"", [], none⟩)).write .inline .ordinary).start () = (.ok "", ()) ∧
      (Condition.plain (.snippet ⟨"", [], none⟩)).isEmpty = false :=
  ⟨rfl, rfl⟩

end Condition

/-! ### Statements with a condition that asks for nothing -/

/-- Two trees are written alike in every place and into every sink. -/
structure Node.WrittenAlike (first second : Node) : Prop where
  write : ∀ (State : Type) (sink : Sink State) (context : Context),
    first.write sink context = second.write sink context
  toText : first.toText = second.toText
  prepare : first.prepare = second.prepare

/-- Trees that are written alike into every sink have the same text and are prepared in
the same way. -/
theorem Node.writtenAlike_of_write {first second : Node}
    (same : ∀ (State : Type) (sink : Sink State) (context : Context),
      first.write sink context = second.write sink context) :
    first.WrittenAlike second where
  write := same
  toText := by rw [Node.toText, Node.toText, same]
  prepare := by rw [prepare, prepare, Parameters.renderNode, Parameters.renderNode, same]

namespace ConditionSlot

variable {Statement Step : Type} (slot : ConditionSlot Statement Step)

/-- However many clauses a statement is handed, what it stores is a group of them. -/
theorem condition_takeAll {start : Statement} (unasked : slot.condition start = .nothing)
    (steps : List Step) :
    ∃ members, slot.condition (steps.foldl slot.take start) = .all members := by
  have apart := slot.takeAll_put start .nothing steps
  rw [← unasked, slot.put_condition] at apart
  rw [apart, slot.condition_put, unasked, Condition.nothing, Condition.foldl_and_all]
  exact ⟨_, rfl⟩

/-- A clause that asks for nothing changes nothing about how a statement is written. -/
theorem writtenAlike_add {start : Statement} (unasked : slot.condition start = .nothing)
    (steps : List Step) {clause : Clause} (empty : (clause.condition .all).isEmpty) :
    (slot.node (slot.add (steps.foldl slot.take start) clause)).WrittenAlike
      (slot.node (steps.foldl slot.take start)) := by
  refine Node.writtenAlike_of_write fun State sink context => ?_
  obtain ⟨members, gathered⟩ := slot.condition_takeAll unasked steps
  generalize steps.foldl slot.take start = statement at gathered ⊢
  have broughtEmpty : Condition.areEmpty clause.brought := Condition.areEmpty_membersFor empty
  have same : ((slot.condition statement).and clause).write sink context =
      (slot.condition statement).write sink context := by
    rw [gathered, Condition.and_all, Condition.write, Condition.write,
      writeMembers_append_of_areEmpty sink context members broughtEmpty]
  have unchanged := slot.write_put statement sink context same
  rwa [slot.put_condition, ← slot.add_eq] at unchanged

end ConditionSlot

/-- A condition that asks for nothing is written without text and leaves the sink as
it is, in every place and into every sink; without a node in it, no other condition
is. Where the condition of a clause asks for nothing, a query, an update or a deletion
is written with the clause as without it, and a join keeps nothing of the clause. -/
theorem emptiness_leaves_no_trace :
    (∀ condition : Condition, condition.isEmpty →
        ∀ (State : Type) (sink : Sink State) (context : Context) (state : State),
          (condition.write sink context).start state = (.ok "", state)) ∧
      (∀ condition : Condition, condition.isNodeFree →
        ∀ (State : Type) (sink : Sink State) (context : Context) (state after : State),
          (condition.write sink context).start state = (.ok "", after) → condition.isEmpty) ∧
      ∀ clause : Clause, (clause.condition .all).isEmpty →
        (∀ steps,
            (Node.select ((Select.built steps).addCondition clause)).WrittenAlike
              (.select (.built steps)) ∧
            (Node.select ((Select.built steps).addGroupCondition clause)).WrittenAlike
              (.select (.built steps))) ∧
          (∀ table steps,
            (Node.update ((Update.built table steps).addCondition clause)).WrittenAlike
              (.update (.built table steps))) ∧
          (∀ table steps,
            (Node.delete ((Delete.built table steps).addCondition clause)).WrittenAlike
              (.delete (.built table steps))) ∧
          ∀ kind table, Join.ofClause kind table clause = Join.ofClause kind table .nothing := by
  refine ⟨fun condition empty State sink context state => ?_,
    fun condition nodeFree State sink context state after written =>
      condition.isEmpty_of_write nodeFree written,
    fun clause empty => ⟨fun steps => ⟨?_, ?_⟩, fun table steps => ?_, fun table steps => ?_,
      fun kind table => ?_⟩⟩
  · rw [condition.write_of_isEmpty sink context empty]
    rfl
  · exact Select.conditionSlot.writtenAlike_add rfl steps empty
  · exact Select.groupConditionSlot.writtenAlike_add rfl steps empty
  · exact Update.conditionSlot.writtenAlike_add rfl steps empty
  · exact Delete.conditionSlot.writtenAlike_add rfl steps empty
  · rw [Join.ofClause, if_pos empty]
    rfl

/-- Nobody's town is in an empty list, and there is no name for the town. -/
def nowhere : Clause :=
  .list [.nothing,
    .node (.condition (.negation (.test (.value .null) (.membership (.list []) true))))]

/-- A clause that asks for nothing, through the ways in which a caller meets it. -/
theorem nowhere_leaves_no_trace :
    (nowhere.condition .all).isEmpty ∧
      (nowhere.condition .all).isNodeFree ∧
      ((nowhere.condition .all).write .parameters .ordinary).start .empty = (.ok "", .empty) ∧
      (Node.delete ((Delete.built (.text "Person") []).addCondition nowhere)).toText =
        .ok "DELETE FROM \"Person\"" ∧
      Join.ofClause .left (.text "Town") nowhere = .ofClause .left (.text "Town") .nothing :=
  have empty : (nowhere.condition .all).isEmpty :=
    emptiness_leaves_no_trace.2.1 _ rfl _ .parameters .ordinary .empty .empty rfl
  have traceless := emptiness_leaves_no_trace.2.2 nowhere empty
  ⟨empty, rfl, emptiness_leaves_no_trace.1 _ empty _ _ _ _,
    (traceless.2.2.1 (.text "Person") []).toText, traceless.2.2.2 _ _⟩

end SqlTree
