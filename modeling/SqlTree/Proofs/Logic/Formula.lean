/-
This file holds formulas over atoms and their truth in three values, in the
way the database combines them: what is unknown stays unknown unless the other
side decides.

The values are in the order in which a conjunction takes the lower and a
disjunction the higher one, and negation turns the order around. A formula is what
a text is read as; a chain of formulas with connectives between them is read by
precedence, and is defined here as the database reads it, from the left with
conjunctions first. Formulas can be put in the place of atoms, so a condition can
be read once for its leaves and once for their tokens.
-/

import SqlTree.Tree.Condition

namespace SqlTree

/-! ### Truth -/

/-- The truth values of the database. -/
inductive Truth where
  | no
  | unknown
  | yes
  deriving DecidableEq

namespace Truth

/-- What is unknown stays unknown. -/
def negate : Truth → Truth
  | .no => .yes
  | .unknown => .unknown
  | .yes => .no

/-- The truth of a conjunction. -/
def meet : Truth → Truth → Truth
  | .no, _ => .no
  | .unknown, .no => .no
  | .unknown, _ => .unknown
  | .yes, other => other

/-- The truth of a disjunction. -/
def join : Truth → Truth → Truth
  | .yes, _ => .yes
  | .unknown, .yes => .yes
  | .unknown, _ => .unknown
  | .no, other => other

/-- Conjunctions can be put together from either side. -/
theorem meet_assoc (first second third : Truth) :
    (first.meet second).meet third = first.meet (second.meet third) := by
  cases first <;> cases second <;> cases third <;> rfl

/-- So can disjunctions. -/
theorem join_assoc (first second third : Truth) :
    (first.join second).join third = first.join (second.join third) := by
  cases first <;> cases second <;> cases third <;> rfl

/-- A conjunction of one is its member. -/
theorem meet_yes (truth : Truth) : truth.meet .yes = truth := by
  cases truth <;> rfl

/-- So is a disjunction of one. -/
theorem join_no (truth : Truth) : truth.join .no = truth := by
  cases truth <;> rfl

end Truth

/-! ### Formulas -/

/-- Formulas over atoms, as a condition is read. -/
inductive Formula (Atom : Type) where
  | atom (atom : Atom)
  | negation (inner : Formula Atom)
  | conjunction (first second : Formula Atom)
  | disjunction (first second : Formula Atom)

namespace Formula

variable {Atom Other : Type}

/-- The truth of a formula under an assignment to its atoms. -/
def eval (truth : Atom → Truth) : Formula Atom → Truth
  | .atom leaf => truth leaf
  | .negation inner => (inner.eval truth).negate
  | .conjunction first second => (first.eval truth).meet (second.eval truth)
  | .disjunction first second => (first.eval truth).join (second.eval truth)

/-- The formula with formulas for its atoms. -/
def bind (replace : Atom → Formula Other) : Formula Atom → Formula Other
  | .atom leaf => replace leaf
  | .negation inner => .negation (inner.bind replace)
  | .conjunction first second => .conjunction (first.bind replace) (second.bind replace)
  | .disjunction first second => .disjunction (first.bind replace) (second.bind replace)

/-- The atoms of a formula in their order. -/
def atoms : Formula Atom → List Atom
  | .atom leaf => [leaf]
  | .negation inner => inner.atoms
  | .conjunction first second | .disjunction first second => first.atoms ++ second.atoms

end Formula

/-! ### Runs of connectives -/

namespace Connective

/-- How the connective combines truths. -/
def combine : Connective → Truth → Truth → Truth
  | .all => .meet
  | .any => .join

/-- The truth of nothing combined. -/
def unit : Connective → Truth
  | .all => .yes
  | .any => .no

end Connective

namespace Formula

variable {Atom Other : Type}

/-- A formula with others after it, each behind its connective: conjunctions
bind tighter than disjunctions. -/
def chain (first : Formula Atom) : List (Connective × Formula Atom) → Formula Atom
  | [] => first
  | (.all, next) :: rest => chain (.conjunction first next) rest
  | (.any, next) :: rest => .disjunction first (chain next rest)

/-- Formulas are put in the place of atoms member by member. -/
theorem bind_chain (replace : Atom → Formula Other) (first : Formula Atom)
    (others : List (Connective × Formula Atom)) :
    (chain first others).bind replace =
      chain (first.bind replace) (others.map fun other => (other.1, other.2.bind replace)) := by
  induction others generalizing first with
  | nil => rfl
  | cons other rest inductionHypothesis =>
    obtain ⟨connective, next⟩ := other
    cases connective with
    | all => exact inductionHypothesis _
    | any => exact congrArg (disjunction (first.bind replace)) (inductionHypothesis next)

/-- The atoms of a chain are those of its members, from left to right. -/
theorem atoms_chain (first : Formula Atom) (others : List (Connective × Formula Atom)) :
    (chain first others).atoms = first.atoms ++ others.flatMap fun other => other.2.atoms := by
  induction others generalizing first with
  | nil => exact (List.append_nil _).symm
  | cons other rest inductionHypothesis =>
    obtain ⟨connective, next⟩ := other
    cases connective with
    | all =>
      rw [chain, inductionHypothesis, atoms, List.flatMap_cons, List.append_assoc]
    | any => rw [chain, atoms, inductionHypothesis, List.flatMap_cons]

/-- A run of one connective has the truth of its members combined. -/
theorem eval_chain (truth : Atom → Truth) (connective : Connective) (first : Formula Atom)
    (others : List (Formula Atom)) :
    (chain first (others.map fun other => (connective, other))).eval truth =
      ((first :: others).map (eval truth)).foldr connective.combine connective.unit := by
  induction others generalizing first with
  | nil =>
    cases connective with
    | all => exact (Truth.meet_yes _).symm
    | any => exact (Truth.join_no _).symm
  | cons next rest inductionHypothesis =>
    cases connective with
    | all =>
      rw [List.map_cons, chain, inductionHypothesis]
      exact Truth.meet_assoc _ _ _
    | any =>
      rw [List.map_cons, chain, eval, inductionHypothesis]
      rfl

end Formula

end SqlTree
