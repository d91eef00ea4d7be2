/-
This file holds sinks, which turn the scalars of a statement into text one
after another, and the actions that write into them. An action stops at the
first fault; what the sink took before that stays in it.

A sink is a state and one operation, which takes a scalar and answers with a text.
Everything that is written goes through it, so what two ways to write a statement
have in common can be said for every sink. That an answer is never empty is a
property that some results ask for, and both sinks of the library have it.
-/

import SqlTree.Fault

namespace SqlTree

/-- What takes the scalars of a statement, with the state that it is in. -/
structure Sink (State : Type) where
  /-- Takes a scalar and answers with the text that stands for it. -/
  bind : State → Value → State × String

/-- The sink has a text for every scalar. Where a text decides whether a clause
is written at all, no clause is lost for the answer of such a sink. -/
class Sink.Answers {State : Type} (sink : Sink State) : Prop where
  bind_ne_empty : ∀ state value, (sink.bind state value).2 ≠ ""

/-- An action on the state of a sink, with a result or a fault. -/
abbrev Writing (State : Type) := ExceptT Fault (StateM State)

/-- Hands a scalar to the sink. -/
def Sink.write {State : Type} (sink : Sink State) (value : Value) : Writing State String := do
  let (next, text) := sink.bind (← get) value
  set next
  return text

namespace Writing

variable {State : Type}

/-- Starts the action in a state: what it results in and the state after it. -/
def start {Result : Type} (action : Writing State Result) (state : State) :
    Except Fault Result × State :=
  action.run.run state

/-- Reports what a builder recorded. -/
def check : Option Misuse → Writing State Unit
  | some misuse => throw (.misuse misuse)
  | none => return ()

/-! ### Runs of an action -/

variable {First Second : Type}

/-- Nothing comes after a fault. -/
theorem throw_bind (fault : Fault) (next : First → Writing State Second) :
    (throw fault >>= next : Writing State Second) = throw fault := rfl

theorem start_write (sink : Sink State) (value : Value) (state : State) :
    (sink.write value).start state =
      (.ok (sink.bind state value).2, (sink.bind state value).1) := rfl

/-- The second action starts where the first has left the state, if the
first succeeds. -/
theorem start_bind (action : Writing State First) (next : First → Writing State Second)
    (state : State) :
    (action >>= next).start state =
      match action.start state with
      | (.ok result, after) => (next result).start after
      | (.error fault, after) => (.error fault, after) := by
  show ExceptT.bindCont next (action.start state).1 (action.start state).2 = _
  rcases action.start state with ⟨result, after⟩
  cases result <;> rfl

/-- A sequence of two actions succeeds exactly if both of them do. -/
theorem start_bind_ok {action : Writing State First} {next : First → Writing State Second}
    {state after : State} {result : Second} :
    (action >>= next).start state = (.ok result, after) ↔
      ∃ first middle, action.start state = (.ok first, middle) ∧
        (next first).start middle = (.ok result, after) := by
  rw [start_bind]
  rcases action.start state with ⟨outcome, middle⟩
  cases outcome with
  | error fault => simp
  | ok first =>
    constructor
    · exact fun rest => ⟨first, middle, rfl, rest⟩
    · rintro ⟨_, _, same, rest⟩
      cases same
      exact rest

/-- What follows an action matters only for the results that the action can have. -/
theorem bind_congr_of_result (action : Writing State First)
    (next other : First → Writing State Second)
    (same : ∀ state result after, action.start state = (.ok result, after) →
      next result = other result) :
    (action >>= next) = (action >>= other) := by
  refine funext fun state => ?_
  show (action >>= next).start state = (action >>= other).start state
  rw [start_bind, start_bind]
  rcases outcome : action.start state with ⟨result, after⟩
  cases result with
  | error fault => rfl
  | ok result =>
    show (next result).start after = (other result).start after
    rw [same state result after outcome]

end Writing

end SqlTree
