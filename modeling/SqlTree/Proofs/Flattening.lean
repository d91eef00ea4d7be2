/-
This file proves the laws by which conditions are put together. A group of a
connective that is given to a group of the same connective may as well be given
member by member. However deep groups of one connective are nested, they are one
group of the conditions in them, which keep their order and the order of their
values. Negating twice gives back every condition but a negation of a negation,
and none is put together that is one.

The nesting is a type of its own, trees whose leaves are the conditions that were
given, so that *any depth* is an induction on a tree. A leaf may be a group itself,
and the laws hold whatever a group takes in from it. What is said of the order of
values is read off the list of conditions itself, as no law changes the order of the
members.
-/

import SqlTree.Proofs.Grouping
import SqlTree.Proofs.Steps.Conditions

namespace SqlTree.Condition

/-! ### Groups among what a group is given -/

theorem membersFor_group (connective : Connective) (members : List Condition) :
    membersFor connective (group connective members) = members := by
  cases connective <;> rfl

/-- A group given to a group of its own connective may be given member by member. -/
theorem combined_around_combined (connective : Connective)
    (before inner after : List Condition) :
    combined connective (before ++ [combined connective inner] ++ after) =
      combined connective (before ++ inner ++ after) := by
  have taken : [combined connective inner].flatMap (membersFor connective) =
      inner.flatMap (membersFor connective) := by
    rw [List.flatMap_singleton, combined, membersFor_group]
  rw [combined, List.flatMap_append, List.flatMap_append, taken, ← List.flatMap_append,
    ← List.flatMap_append, ← combined]

/-- Conditions given alone or in groups of one connective, and in groups of these. -/
inductive Nest where
  | one (condition : Condition)
  | several (nests : List Nest)

namespace Nest

mutual

/-- The condition that comes of it when every group is put together from within. -/
def condition (connective : Connective) : Nest → Condition
  | .one condition => condition
  | .several nests => combined connective (conditions connective nests)

/-- The conditions that the nests of a list become, one for each. -/
def conditions (connective : Connective) : List Nest → List Condition
  | [] => []
  | nest :: rest => nest.condition connective :: conditions connective rest

end

mutual

/-- The conditions that are given, in their order. -/
def given : Nest → List Condition
  | .one condition => [condition]
  | .several nests => givenIn nests

/-- The conditions at the leaves of the nests, from left to right. -/
def givenIn : List Nest → List Condition
  | [] => []
  | nest :: rest => nest.given ++ givenIn rest

end

mutual

/-- What a nest brings into a group is what the conditions in it bring. -/
theorem membersFor_condition (connective : Connective) (nest : Nest) :
    membersFor connective (nest.condition connective) =
      nest.given.flatMap (membersFor connective) := by
  match nest with
  | .one condition => rw [Nest.condition, given, List.flatMap_singleton]
  | .several nests =>
    rw [condition, given, combined, membersFor_group, flatMap_membersFor_conditions]

/-- Nests hand over the same members as the conditions at their leaves. -/
theorem flatMap_membersFor_conditions (connective : Connective) (nests : List Nest) :
    (conditions connective nests).flatMap (membersFor connective) =
      (givenIn nests).flatMap (membersFor connective) := by
  match nests with
  | [] => rfl
  | nest :: rest =>
    rw [conditions, givenIn, List.flatMap_cons, List.flatMap_append, membersFor_condition,
      flatMap_membersFor_conditions connective rest]

end

/-- A nest of several is the one group of the conditions at its leaves. -/
theorem condition_several (connective : Connective) (nests : List Nest) :
    (several nests).condition connective = combined connective (givenIn nests) :=
  congrArg (group connective) (flatMap_membersFor_conditions connective nests)

end Nest

/-! ### One group -/

variable {connective : Connective} {conditions : List Condition}

theorem membersFor_of_single {condition : Condition} (single : condition.isGroup = false) :
    membersFor connective condition = [condition] := by
  cases condition with
  | all _ | any _ => cases single
  | negation _ | existence _ | test _ _ | plain _ => cases connective <;> rfl

/-- Conditions that a group takes in as they are become its members. -/
theorem combined_eq_group
    (whole : ∀ condition ∈ conditions, membersFor connective condition = [condition]) :
    combined connective conditions = group connective conditions := by
  rw [combined, List.flatMap_def, List.map_congr_left whole, ← List.flatMap_def,
    List.flatMap_singleton']

/-- Members that are no groups are written without parentheses. -/
theorem renderMembers_of_single (context : Context)
    (single : ∀ condition ∈ conditions, condition.isGroup = false) :
    renderMembers context conditions = conditions.map (render context) := by
  induction conditions with
  | nil => rfl
  | cons condition rest inductionHypothesis =>
    obtain ⟨first, others⟩ := List.forall_mem_cons.mp single
    rw [renderMembers, inductionHypothesis others, first, List.map_cons]
    rfl

/-- The condition is one group of the conditions in their order. -/
structure IsGroupOf (connective : Connective) (conditions : List Condition)
    (built : Condition) : Prop where
  same : built = combined connective conditions
  /-- Those that are taken in as they are, are its members. -/
  stored : (∀ condition ∈ conditions, membersFor connective condition = [condition]) →
    built = group connective conditions
  /-- Those that are no groups stand beside each other, with no parentheses between
  them. -/
  rendered : (∀ condition ∈ conditions, condition.isGroup = false) → ∀ context,
    built.render context =
      Rendering.joinPresent (Logic.separator connective) (conditions.map (render context))
  /-- It has the values that each of them has on its own. -/
  values : ∀ prepared, (Node.condition built).prepare = .ok prepared →
    prepared.values = conditions.flatMap fun condition => (Node.condition condition).ownValues

theorem isGroupOf_combined (connective : Connective) (conditions : List Condition) :
    IsGroupOf connective conditions (combined connective conditions) where
  same := rfl
  stored := combined_eq_group
  rendered single context := by
    rw [combined_eq_group fun condition member => membersFor_of_single (single condition member)]
    cases connective <;> rw [group, render, renderMembers_of_single context single] <;> rfl
  values prepared succeeded := by
    obtain ⟨sound, valued⟩ := Node.scalars_of_prepare succeeded
    obtain ⟨sameFailure, sameScalars⟩ := handed_combined connective conditions
    rw [Node.render] at sound valued
    have conditionsSound : conditions.any fails = false := sameFailure.symm.trans sound
    calc prepared.values = (combined connective conditions).scalars := valued
      _ = conditions.flatMap scalars := sameScalars conditionsSound
      _ = _ := flatMap_scalars_eq_ownValues conditionsSound

/-! ### Negations -/

/-- Negating twice gives back a condition exactly if it is no negation of a
negation. -/
theorem negated_negated_iff (condition : Condition) :
    condition.negated.negated = condition ↔
      ∀ other, condition ≠ .negation (.negation other) := by
  constructor
  · rintro back other rfl
    -- The innermost condition comes out, which is not what stands around it.
    have larger := congrArg sizeOf (show other = .negation (.negation other) from back)
    simp only [negation.sizeOf_spec] at larger
    omega
  · intro single
    cases condition with
    | negation inner =>
      cases inner with
      | negation other => exact absurd rfl (single other)
      | all _ | any _ | existence _ | test _ _ | plain _ => rfl
    | all _ | any _ | existence _ | test _ _ | plain _ => rfl

/-- Nothing that is put together negates a negation. -/
theorem Built.ne_negation_negation {condition : Condition}
    (built : Built (fun _ _ => True) condition) (other : Condition) :
    condition ≠ .negation (.negation other) := by
  have tidy : condition.IsTidy :=
    built.shaped fun _ _ tidy _ _ _ taken => IsTidy.length_of_mem_membersFor tidy taken
  rintro rfl
  cases tidy with
  | negation _ single => exact single other rfl

/-! ### The laws -/

/-- A group inside a group of the same connective is given member by member, and
groups of one connective nested to any depth are one group of the conditions in
them. Negating twice gives back a condition exactly if it is no negation of a
negation, and so every condition that was put together. -/
theorem combination_laws :
    (∀ connective before inner after,
      combined connective (before ++ [combined connective inner] ++ after) =
        combined connective (before ++ inner ++ after)) ∧
    (∀ connective nests,
      IsGroupOf connective (Nest.givenIn nests) ((Nest.several nests).condition connective)) ∧
    (∀ condition : Condition, condition.negated.negated = condition ↔
      ∀ other, condition ≠ .negation (.negation other)) ∧
    ∀ condition, Built (fun _ _ => True) condition → condition.negated.negated = condition := by
  refine ⟨combined_around_combined, fun connective nests => ?_, negated_negated_iff,
    fun condition built => ?_⟩
  · rw [Nest.condition_several]
    exact isGroupOf_combined connective (Nest.givenIn nests)
  · exact (negated_negated_iff condition).mpr built.ne_negation_negation

/-- Grown people of Oslo whose names begin with A, by a test each. -/
def grown : Condition :=
  .test (.text "Age") (.relation .greaterOrEqual (.value (.integer 18)) none)

/-- A test of the town: `"Town" = 'Oslo'`. -/
def inOslo : Condition :=
  .test (.text "Town") (.relation .equal (.value (.text "Oslo")) none)

/-- A test of the name by a pattern: `"Name" LIKE 'A%'`. -/
def namedWithA : Condition :=
  .test (.text "Name") (.like (.text "A%") false)

/-- The tests in groups of their own, with an empty group among them. -/
def townspeople : List Nest :=
  [.one grown, .several [.one inOslo, .several []], .several [.several [.one namedWithA]]]

/-- All that are not among them. -/
def strangers : Condition :=
  ((Nest.several townspeople).condition .all).negated

theorem strangers_negated_twice :
    Built (fun _ _ => True) strangers ∧ strangers.negated.negated = strangers ∧
      strangers.negated = .all [grown, inOslo, namedWithA] ∧
      (Node.condition strangers.negated).prepare =
        .ok ⟨"\"Age\" >= $1 AND \"Town\" = $2 AND \"Name\" LIKE $3",
          [.integer 18, .text "Oslo", .text "A%"]⟩ ∧
      [Value.integer 18, .text "Oslo", .text "A%"] =
        [grown, inOslo, namedWithA].flatMap fun condition =>
          (Node.condition condition).ownValues := by
  obtain ⟨-, nested, -, twice⟩ := combination_laws
  have oneGroup := nested .all townspeople
  have single : ∀ condition ∈ Nest.givenIn townspeople, condition.isGroup = false := by decide
  have built : Built (fun _ _ => True) strangers := by
    have leaf : ∀ condition ∈ Nest.givenIn townspeople, Built (fun _ _ => True) condition :=
      List.forall_mem_cons.mpr ⟨.test _ _, List.forall_mem_cons.mpr
        ⟨.test _ _, List.forall_mem_singleton.mpr (.test _ _)⟩⟩
    rw [strangers, oneGroup.same]
    exact .negated (.combined .all leaf fun _ _ => trivial)
  refine ⟨built, twice strangers built, ?_, rfl, oneGroup.values _ rfl⟩
  exact oneGroup.stored fun condition member => membersFor_of_single (single condition member)

end SqlTree.Condition
