/-
This file proves what shape a condition has that is put together from leaves and
from clauses. At any depth a group inside a group has two members or more, and
no negation negates a negation. A group stands in a group of its own kind in one
case only: it was the only member of a group of the other kind, and the group
around took it in as it was, without a look at what it is. Where no group is
hidden in this way, groups are flat.

One predicate says what a group may hold, with the requirement on inner groups as
a parameter; tidiness and flatness are two values of that parameter. So putting
conditions together is gone through once, and both results come from a small lemma
about which requirement suits which kinds of members.
-/

import SqlTree.Proofs.Shorthand

namespace SqlTree

/-- The connective that a group inside a group of this one should have. -/
def Connective.other : Connective → Connective
  | .all => .any
  | .any => .all

namespace Condition

/-! ### Shapes -/

/-- Every group inside a group fits there, by the connective around it, its own
connective and its members, and no negation negates a negation. Leaves have any
shape. -/
inductive Shaped (fits : Connective → Connective → List Condition → Prop) : Condition → Prop
  | all {members : List Condition} (shaped : ∀ member ∈ members, Shaped fits member)
    (fit : ∀ kind inner, group kind inner ∈ members → fits .all kind inner) :
    Shaped fits (.all members)
  | any {members : List Condition} (shaped : ∀ member ∈ members, Shaped fits member)
    (fit : ∀ kind inner, group kind inner ∈ members → fits .any kind inner) :
    Shaped fits (.any members)
  | negation {inner : Condition} (shaped : Shaped fits inner)
    (single : ∀ other, inner ≠ .negation other) : Shaped fits (.negation inner)
  | existence (query : Node) : Shaped fits (.existence query)
  | test (column : Operand) (comparison : Comparison) : Shaped fits (.test column comparison)
  | plain (node : Node) : Shaped fits (.plain node)

/-- Groups inside groups have two members or more. -/
def IsTidy (condition : Condition) : Prop :=
  Shaped (fun _ _ inner => 2 ≤ inner.length) condition

/-- Groups inside groups have two members or more, and never the connective of
the group around them. -/
def IsFlat (condition : Condition) : Prop :=
  Shaped (fun around kind inner => kind ≠ around ∧ 2 ≤ inner.length) condition

variable {fits : Connective → Connective → List Condition → Prop}

theorem shaped_group_iff {connective : Connective} {members : List Condition} :
    Shaped fits (group connective members) ↔
      (∀ member ∈ members, Shaped fits member) ∧
        ∀ kind inner, group kind inner ∈ members → fits connective kind inner := by
  cases connective with
  | all =>
    refine ⟨fun shaped => ?_, fun ⟨shaped, fit⟩ => .all shaped fit⟩
    cases shaped with
    | all shaped fit => exact ⟨shaped, fit⟩
  | any =>
    refine ⟨fun shaped => ?_, fun ⟨shaped, fit⟩ => .any shaped fit⟩
    cases shaped with
    | any shaped fit => exact ⟨shaped, fit⟩

theorem Shaped.negated {condition : Condition} (shaped : Shaped fits condition) :
    Shaped fits condition.negated := by
  cases shaped with
  | negation shaped _ => exact shaped
  | all shaped fit => exact .negation (.all shaped fit) fun _ same => by cases same
  | any shaped fit => exact .negation (.any shaped fit) fun _ same => by cases same
  | existence query => exact .negation (.existence query) fun _ same => by cases same
  | test column comparison =>
    exact .negation (.test column comparison) fun _ same => by cases same
  | plain node => exact .negation (.plain node) fun _ same => by cases same

/-! ### What a group takes in -/

/-- A group takes in a member of a group of its own kind, the only member of a
group of the other kind, or the condition itself, which is then no group that
could have been taken apart. -/
theorem mem_membersFor {connective : Connective} {condition member : Condition}
    (taken : member ∈ membersFor connective condition) :
    (∃ members, condition = group connective members ∧ member ∈ members) ∨
      condition = group connective.other [member] ∨
      (condition = member ∧
        ∀ kind inner, member = group kind inner → kind ≠ connective ∧ 2 ≤ inner.length) := by
  have itself {leaf : Condition} (noGroup : ∀ kind inner, leaf ≠ group kind inner)
      (taken : member ∈ [leaf]) : leaf = member ∧
        ∀ kind inner, member = group kind inner → kind ≠ connective ∧ 2 ≤ inner.length := by
    rw [List.mem_singleton] at taken
    subst taken
    exact ⟨rfl, fun kind inner same => absurd same (noGroup kind inner)⟩
  match connective, condition with
  | .all, .all members | .any, .any members => exact .inl ⟨members, rfl, taken⟩
  | .all, .any [] | .any, .all [] => cases taken
  | .all, .any [only] | .any, .all [only] =>
    rw [membersFor, List.mem_singleton] at taken
    subst taken
    exact .inr (.inl rfl)
  | .all, .any (first :: second :: rest) | .any, .all (first :: second :: rest) =>
    cases List.mem_singleton.mp taken
    refine .inr (.inr ⟨rfl, fun kind inner same => ?_⟩)
    cases kind <;> cases same
    exact ⟨by decide, Nat.le_add_left 2 rest.length⟩
  | .all, .negation _ | .all, .existence _ | .all, .test _ _ | .all, .plain _
  | .any, .negation _ | .any, .existence _ | .any, .test _ _ | .any, .plain _ =>
    exact .inr (.inr (itself (fun kind _ same => by cases kind <;> cases same) taken))

/-- What a group takes in from a condition has the shape if the condition has it. -/
theorem Shaped.of_mem_membersFor {connective : Connective} {condition member : Condition}
    (shaped : Shaped fits condition) (taken : member ∈ membersFor connective condition) :
    Shaped fits member := by
  rcases mem_membersFor taken with ⟨members, rfl, inside⟩ | rfl | ⟨rfl, -⟩
  · exact (shaped_group_iff.mp shaped).1 member inside
  · exact (shaped_group_iff.mp shaped).1 member (List.mem_singleton_self member)
  · exact shaped

/-- A group of the other kind whose only member is a group of this kind. -/
def Hides (connective : Connective) (condition : Condition) : Prop :=
  ∃ members, condition = group connective.other [group connective members]

/-- A group that is taken in out of a tidy condition has two members or more. -/
theorem IsTidy.length_of_mem_membersFor {connective kind : Connective} {condition : Condition}
    {inner : List Condition} (tidy : condition.IsTidy)
    (taken : group kind inner ∈ membersFor connective condition) : 2 ≤ inner.length := by
  rcases mem_membersFor taken with ⟨members, rfl, inside⟩ | rfl | ⟨-, large⟩
  · exact (shaped_group_iff.mp tidy).2 kind inner inside
  · exact (shaped_group_iff.mp tidy).2 kind inner (List.mem_singleton_self _)
  · exact (large kind inner rfl).2

/-- A group taken in out of a flat condition is of the other kind, unless a group was
hidden in the condition. -/
theorem IsFlat.fits_of_mem_membersFor {connective kind : Connective} {condition : Condition}
    {inner : List Condition} (flat : condition.IsFlat) (visible : ¬ condition.Hides connective)
    (taken : group kind inner ∈ membersFor connective condition) :
    kind ≠ connective ∧ 2 ≤ inner.length := by
  rcases mem_membersFor taken with ⟨members, rfl, inside⟩ | rfl | ⟨-, large⟩
  · exact (shaped_group_iff.mp flat).2 kind inner inside
  · refine ⟨?_, ((shaped_group_iff.mp flat).2 kind inner (List.mem_singleton_self _)).2⟩
    rintro rfl
    exact visible ⟨inner, rfl⟩
  · exact large kind inner rfl

/-! ### Conditions put together -/

/-- Where a group is asked to take in what is admitted to it, the groups among
that fit. -/
def Suits (admits : Connective → Condition → Prop)
    (fits : Connective → Connective → List Condition → Prop) : Prop :=
  ∀ connective condition, Shaped fits condition → admits connective condition →
    ∀ kind inner, group kind inner ∈ membersFor connective condition → fits connective kind inner

variable {admits : Connective → Condition → Prop}

/-- Putting conditions of the shape together gives one of the shape, where the
requirement suits what may be put in. -/
theorem Shaped.combined (suits : Suits admits fits) (connective : Connective)
    {conditions : List Condition} (shaped : ∀ condition ∈ conditions, Shaped fits condition)
    (admitted : ∀ condition ∈ conditions, admits connective condition) :
    Shaped fits (combined connective conditions) := by
  refine shaped_group_iff.mpr ⟨fun member inside => ?_, fun kind inner inside => ?_⟩
  · obtain ⟨condition, given, taken⟩ := List.mem_flatMap.mp inside
    exact (shaped condition given).of_mem_membersFor taken
  · obtain ⟨condition, given, taken⟩ := List.mem_flatMap.mp inside
    exact suits connective condition (shaped condition given) (admitted condition given) kind
      inner taken

/-- The columns of a map are leaves, which no group takes apart. -/
theorem shaped_columns (fields : List Field) :
    Shaped fits (conjunction (fields.map Field.condition)) := by
  have leaf (member : Condition)
      (inside : member ∈ (fields.map Field.condition).flatMap (membersFor .all)) :
      ∃ column comparison, member = .test column comparison := by
    obtain ⟨condition, given, taken⟩ := List.mem_flatMap.mp inside
    obtain ⟨field, -, rfl⟩ := List.mem_map.mp given
    rw [field.condition_eq] at taken
    exact ⟨_, _, List.mem_singleton.mp taken⟩
  refine .all (fun member inside => ?_) fun kind inner inside => ?_
  · obtain ⟨column, comparison, rfl⟩ := leaf member inside
    exact .test column comparison
  · obtain ⟨column, comparison, same⟩ := leaf _ inside
    cases kind <;> cases same

end Condition

namespace Clause

mutual

/-- The conditions that a clause was handed as they are. -/
def given : Clause → List Condition
  | .node (.condition condition) => [condition]
  | .list clauses => givenIn clauses
  | .nothing | .node _ | .test _ _ | .columns _ => []

/-- The conditions that are given somewhere in the clauses, in order. -/
def givenIn : List Clause → List Condition
  | [] => []
  | clause :: rest => clause.given ++ givenIn rest

end

mutual

/-- Every list in the clause becomes a group of conditions that are admitted to it. -/
def IsAdmitted (admits : Connective → Condition → Prop) (connective : Connective) : Clause → Prop
  | .list clauses =>
    (∀ condition ∈ conditions connective clauses, admits connective condition) ∧
      AreAdmitted admits connective clauses
  | .nothing | .node _ | .test _ _ | .columns _ => True

/-- Every clause of the list is admitted under the connective. -/
def AreAdmitted (admits : Connective → Condition → Prop) (connective : Connective) :
    List Clause → Prop
  | [] => True
  | clause :: rest => clause.IsAdmitted admits connective ∧ AreAdmitted admits connective rest

end

variable {admits : Connective → Condition → Prop}
  {fits : Connective → Connective → List Condition → Prop}

mutual

/-- The condition that a clause becomes has the shape if the conditions given in the
clause have it. -/
theorem shaped_condition (suits : Condition.Suits admits fits) {connective : Connective}
    {clause : Clause} (shaped : ∀ condition ∈ clause.given, condition.Shaped fits)
    (admitted : clause.IsAdmitted admits connective) :
    (clause.condition connective).Shaped fits := by
  match clause with
  | .nothing => exact .all nofun nofun
  | .node (.condition condition) => exact shaped condition (List.mem_singleton_self condition)
  | .test column comparison => exact .test column comparison
  | .list clauses =>
    exact .combined suits connective (shaped_conditions suits shaped admitted.2) admitted.1
  | .columns map => exact Condition.shaped_columns map.fields
  | .node (.identifier _) | .node (.literal _) | .node (.snippet _) | .node (.unresolved _)
  | .node (.renamed _) | .node (.comparison _) | .node (.jsonObject _) | .node (.values _)
  | .node (.sources _) | .node (.join _) | .node (.select _) | .node (.insert _)
  | .node (.update _) | .node (.delete _) => exact .plain _

theorem shaped_conditions (suits : Condition.Suits admits fits) {connective : Connective}
    {clauses : List Clause} (shaped : ∀ condition ∈ givenIn clauses, condition.Shaped fits)
    (admitted : AreAdmitted admits connective clauses) :
    ∀ condition ∈ conditions connective clauses, condition.Shaped fits := by
  match clauses with
  | [] => exact nofun
  | clause :: rest =>
    refine List.forall_mem_cons.mpr ⟨?_, ?_⟩
    · exact shaped_condition suits (fun condition given =>
        shaped condition (List.mem_append_left _ given)) admitted.1
    · exact shaped_conditions suits (fun condition given =>
        shaped condition (List.mem_append_right _ given)) admitted.2

end

theorem shaped_negation (suits : Condition.Suits admits fits) {clauses : List Clause}
    (shaped : ∀ condition ∈ givenIn clauses, condition.Shaped fits)
    (admitted : AreAdmitted admits .all clauses)
    (together : clauses.length ≠ 1 → ∀ condition ∈ conditions .all clauses, admits .all condition) :
    (negation clauses).Shaped fits := by
  have each := shaped_conditions suits shaped admitted
  match clauses with
  | [] => exact .negation (.all nofun nofun) fun _ same => by cases same
  | [clause] => exact (each _ (List.mem_singleton_self _)).negated
  | first :: second :: rest =>
    exact (Condition.Shaped.combined suits .all each (together (by simp))).negated

end Clause

/-- Conditions put together from leaves by the constructors and from clauses. What
goes into a group is admitted to it. -/
inductive Condition.Built (admits : Connective → Condition → Prop) : Condition → Prop
  | existence (query : Node) : Built admits (.existence query)
  | test (column : Operand) (comparison : Comparison) : Built admits (.test column comparison)
  | plain (node : Node) : Built admits (.plain node)
  | combined (connective : Connective) {conditions : List Condition}
    (built : ∀ condition ∈ conditions, Built admits condition)
    (admitted : ∀ condition ∈ conditions, admits connective condition) :
    Built admits (combined connective conditions)
  | negated {condition : Condition} (built : Built admits condition) :
    Built admits condition.negated
  | clause (connective : Connective) {clause : Clause}
    (built : ∀ condition ∈ clause.given, Built admits condition)
    (admitted : clause.IsAdmitted admits connective) :
    Built admits (clause.condition connective)
  | conjunction {clauses : List Clause}
    (built : ∀ condition ∈ Clause.givenIn clauses, Built admits condition)
    (admitted : (Clause.list clauses).IsAdmitted admits .all) :
    Built admits (Clause.conjunction clauses)
  | disjunction {clauses : List Clause}
    (built : ∀ condition ∈ Clause.givenIn clauses, Built admits condition)
    (admitted : (Clause.list clauses).IsAdmitted admits .any) :
    Built admits (Clause.disjunction clauses)
  | negation {clauses : List Clause}
    (built : ∀ condition ∈ Clause.givenIn clauses, Built admits condition)
    (admitted : Clause.AreAdmitted admits .all clauses)
    (together : clauses.length ≠ 1 →
      ∀ condition ∈ Clause.conditions .all clauses, admits .all condition) :
    Built admits (Clause.negation clauses)
  | and {condition : Condition} {clause : Clause} (built : Built admits condition)
    (given : ∀ condition ∈ clause.given, Built admits condition)
    (admitted : clause.IsAdmitted admits .all)
    (together : admits .all condition ∧ admits .all (clause.condition .all)) :
    Built admits (condition.and clause)

namespace Condition

/-- Everything that is put together has the shape, by induction on how it is
put together. -/
theorem Built.shaped {admits : Connective → Condition → Prop}
    {fits : Connective → Connective → List Condition → Prop} (suits : Suits admits fits)
    {condition : Condition} (built : Built admits condition) : condition.Shaped fits := by
  induction built with
  | existence query => exact .existence query
  | test column comparison => exact .test column comparison
  | plain node => exact .plain node
  | combined connective _ admitted shaped => exact .combined suits connective shaped admitted
  | negated _ shaped => exact shaped.negated
  | clause connective _ admitted shaped => exact Clause.shaped_condition suits shaped admitted
  | conjunction _ admitted shaped =>
    exact .combined suits .all (Clause.shaped_conditions suits shaped admitted.2) admitted.1
  | disjunction _ admitted shaped =>
    exact .combined suits .any (Clause.shaped_conditions suits shaped admitted.2) admitted.1
  | negation _ admitted together shaped =>
    exact Clause.shaped_negation suits shaped admitted together
  | and _ _ admitted together shaped shapedGiven =>
    have ofClause := Clause.shaped_condition suits shapedGiven admitted
    exact .combined suits .all
      (List.forall_mem_cons.mpr ⟨shaped, List.forall_mem_singleton.mpr ofClause⟩)
      (List.forall_mem_cons.mpr ⟨together.1, List.forall_mem_singleton.mpr together.2⟩)

/-- A group of flat conditions is flat exactly if none of them hides a group of
its own kind. -/
theorem isFlat_combined_iff (connective : Connective) {conditions : List Condition}
    (flat : ∀ condition ∈ conditions, condition.IsFlat) :
    (combined connective conditions).IsFlat ↔
      ∀ condition ∈ conditions, ¬ condition.Hides connective := by
  constructor
  · rintro whole condition given ⟨members, rfl⟩
    have taken : group connective members ∈
        membersFor connective (group connective.other [group connective members]) := by
      cases connective <;> exact List.mem_singleton_self _
    exact ((shaped_group_iff.mp whole).2 connective members
      (List.mem_flatMap.mpr ⟨_, given, taken⟩)).1 rfl
  · intro visible
    exact .combined
      (fun _ _ flat visible _ _ taken => IsFlat.fits_of_mem_membersFor flat visible taken)
      connective flat visible

/-- However conditions are put together, groups inside groups have two members or
more and no negation negates a negation. Where no group takes in one that hides
a group of its own kind, they are flat as well, and a group of flat conditions
is flat only then. -/
theorem isTidy_and_isFlat_of_built {admits : Connective → Condition → Prop}
    {condition : Condition} (built : Built admits condition) :
    condition.IsTidy ∧
      ((∀ connective member, admits connective member → ¬ member.Hides connective) →
        condition.IsFlat) ∧
      ∀ connective conditions, (∀ condition ∈ conditions, condition.IsFlat) →
        ((combined connective conditions).IsFlat ↔
          ∀ condition ∈ conditions, ¬ condition.Hides connective) := by
  refine ⟨?_, fun visible => ?_,
    fun connective conditions flat => isFlat_combined_iff connective flat⟩
  · exact built.shaped fun _ _ tidy _ _ _ taken => IsTidy.length_of_mem_membersFor tidy taken
  · exact built.shaped fun connective member flat admitted _ _ taken =>
      IsFlat.fits_of_mem_membersFor flat (visible connective member admitted) taken

/-! ### Orders by what was done about them -/

/-- Whether something was done about an order, by the time when it was done. -/
def done (column : String) : Condition :=
  .test (.text column) (.nullity true)

/-- Orders that are paid, or sent and billed, and not unreturned. -/
def settled : Condition :=
  .conjunction [.disjunction [done "Paid", .conjunction [done "Sent", done "Billed"]],
    negated (negated (done "Returned"))]

/-- The group of all inside the group of any inside the group of all stays. -/
theorem isFlat_settled :
    settled = .all [.any [done "Paid", .all [done "Sent", done "Billed"]], done "Returned"] ∧
      Built (fun connective member => ¬ member.Hides connective) settled ∧
      settled.IsTidy ∧ settled.IsFlat := by
  have leaf (column : String) : Built (fun connective member => ¬ member.Hides connective)
      (done column) := .test _ _
  have leafVisible (connective : Connective) (column : String) :
      ¬ (done column).Hides connective := by
    rintro ⟨members, same⟩
    cases connective <;> cases same
  have sentAndBilled : Built (fun connective member => ¬ member.Hides connective)
      (conjunction [done "Sent", done "Billed"]) := by
    refine .combined .all ?_ ?_
    · exact List.forall_mem_cons.mpr ⟨leaf _, List.forall_mem_singleton.mpr (leaf _)⟩
    · exact List.forall_mem_cons.mpr
        ⟨leafVisible _ _, List.forall_mem_singleton.mpr (leafVisible _ _)⟩
  have built : Built (fun connective member => ¬ member.Hides connective) settled := by
    refine .combined .all ?_ ?_
    · refine List.forall_mem_cons.mpr ⟨.combined .any ?_ ?_, ?_⟩
      · exact List.forall_mem_cons.mpr ⟨leaf _, List.forall_mem_singleton.mpr sentAndBilled⟩
      · refine List.forall_mem_cons.mpr ⟨leafVisible _ _, List.forall_mem_singleton.mpr ?_⟩
        rintro ⟨members, same⟩
        cases same
      · exact List.forall_mem_singleton.mpr (.negated (.negated (leaf _)))
    · refine List.forall_mem_cons.mpr ⟨?_, List.forall_mem_singleton.mpr (leafVisible _ _)⟩
      rintro ⟨members, same⟩
      cases same
  obtain ⟨tidy, flat, -⟩ := isTidy_and_isFlat_of_built built
  exact ⟨rfl, built, tidy, flat fun _ _ visible => visible⟩

/-- Orders that are sent and billed, as the only ones of a group of any. -/
def buried : Condition :=
  .conjunction [.disjunction [.conjunction [done "Sent", done "Billed"]]]

/-- The group of all comes out of the group of any as a member of a group of all. -/
theorem buried_not_isFlat :
    buried = .all [.all [done "Sent", done "Billed"]] ∧ Built (fun _ _ => True) buried ∧
      ¬ buried.IsFlat := by
  refine ⟨rfl, ?_, fun flat => ?_⟩
  · refine .combined .all (List.forall_mem_singleton.mpr ?_) fun _ _ => trivial
    refine .combined .any (List.forall_mem_singleton.mpr ?_) fun _ _ => trivial
    exact .combined .all (List.forall_mem_cons.mpr
      ⟨.test _ _, List.forall_mem_singleton.mpr (.test _ _)⟩) fun _ _ => trivial
  · cases flat with
    | all _ fit => exact (fit .all _ (List.mem_singleton_self _)).1 rfl

end Condition

end SqlTree
