/-
This file follows the reader over tokens whose brackets match: they are put
together as the same parts wherever they stand, and a comparison is cut where
its parts end. `BETWEEN`s that wait around a text do not change how it is read.

Matching brackets are put together by a stack, and whether a token is inside of
one does not matter for what is around it: a text with matching brackets leaves
the stack as it was. So the parts of a text are found once and used wherever the
text stands. A comparison is cut in the same manner, by a walk with a position:
the position says whether an operand or an operator is expected and how many
`BETWEEN`s wait for their `AND`. A text that is walked with none waiting is walked
with any number of them, which is why an operand may stand inside of a range.
-/

import SqlTree.Proofs.Logic.Reader

namespace SqlTree.Logic

open Reading

/-! ### Matching brackets -/

section Assemble

variable {bracket : Bracket} {token : Token} {outer : List (Bracket × Token × List Part)}
  {parts before : List Part} {rest : List Token}

theorem assemble_unbracketed (unbracketed : isUnbracketed token) :
    assemble parts outer (token :: rest) = assemble (parts ++ [.token token]) outer rest := by
  obtain ⟨noOpening, noClosing⟩ := isUnbracketed_cases unbracketed
  simp only [assemble, noOpening, noClosing]

/-- An opening bracket puts what came before on the stack. -/
theorem assemble_opening (opens : Bracket.opened? token = some bracket) :
    assemble parts outer (token :: rest) =
      assemble [] ((bracket, token, parts) :: outer) rest := by
  simp only [assemble, opens]

/-- A closing bracket takes it from there, if it is of the same kind. -/
theorem assemble_closing {opening : Token} (closes : Bracket.closed? token = some bracket) :
    assemble parts ((bracket, opening, before) :: outer) (token :: rest) =
      assemble (before ++ [enclose bracket opening parts token]) outer rest := by
  simp only [assemble, Bracket.opened?_eq_none closes, closes, if_true]

end Assemble

/-- The brackets among the tokens match, and the tokens make up the parts. -/
inductive Bracketed : List Token → List Part → Prop
  | nil : Bracketed [] []
  | token {token : Token} {tokens : List Token} {parts : List Part}
    (unbracketed : isUnbracketed token) (others : Bracketed tokens parts) :
    Bracketed (token :: tokens) (.token token :: parts)
  | group {bracket : Bracket} {opening closing : Token} {inside tokens : List Token}
    {insideParts parts : List Part} (opens : Bracket.opened? opening = some bracket)
    (closes : Bracket.closed? closing = some bracket) (inner : Bracketed inside insideParts)
    (others : Bracketed tokens parts) :
    Bracketed (opening :: inside ++ closing :: tokens)
      (enclose bracket opening insideParts closing :: parts)

namespace Bracketed

/-- Texts with matching brackets are put together from their parts. -/
theorem append {tokens more : List Token} {parts others : List Part}
    (first : Bracketed tokens parts) (second : Bracketed more others) :
    Bracketed (tokens ++ more) (parts ++ others) := by
  induction first with
  | nil => exact second
  | token unbracketed _ inductionHypothesis => exact .token unbracketed inductionHypothesis
  | group opens closes inner _ _ inductionHypothesis =>
    rw [List.append_assoc]
    exact .group opens closes inner inductionHypothesis

/-- Tokens with matching brackets are put together wherever they stand. -/
theorem assemble_append {tokens : List Token} {parts : List Part}
    (bracketed : Bracketed tokens parts) (before : List Part)
    (outer : List (Bracket × Token × List Part)) (rest : List Token) :
    assemble before outer (tokens ++ rest) = assemble (before ++ parts) outer rest := by
  induction bracketed generalizing before outer rest with
  | nil => rw [List.append_nil, List.nil_append]
  | token unbracketed _ inductionHypothesis =>
    rw [List.cons_append, assemble_unbracketed unbracketed, inductionHypothesis,
      List.append_assoc, List.singleton_append]
  | @group bracket opening closing inside tokens insideParts parts opens closes _ _ innerHypothesis
      inductionHypothesis =>
    -- What is inside is put together under the open bracket, which then is on top of the stack.
    rw [List.append_assoc, List.cons_append, List.cons_append, assemble_opening opens,
      innerHypothesis, List.nil_append, assemble_closing closes, inductionHypothesis,
      List.append_assoc, List.singleton_append]

theorem assemble {tokens : List Token} {parts : List Part} (bracketed : Bracketed tokens parts) :
    assemble [] [] tokens = some parts := by
  have whole := bracketed.assemble_append [] [] []
  rw [List.append_nil] at whole
  exact whole

/-- Without brackets each token is a part. -/
theorem of_all {tokens : List Token} (unbracketed : tokens.all isUnbracketed) :
    Bracketed tokens (tokens.map .token) := by
  induction tokens with
  | nil => exact .nil
  | cons token rest inductionHypothesis =>
    obtain ⟨this, others⟩ := Bool.and_eq_true_iff.mp unbracketed
    exact .token this (inductionHypothesis others)

/-- Tokens with matching brackets are some parts. -/
theorem exists_of_balanced {tokens : List Token} (balanced : Balanced tokens) :
    ∃ parts, Bracketed tokens parts := by
  induction balanced with
  | nil => exact ⟨[], .nil⟩
  | token unbracketed _ inductionHypothesis =>
    obtain ⟨parts, others⟩ := inductionHypothesis
    exact ⟨_, .token unbracketed others⟩
  | group opens closes _ _ innerHypothesis inductionHypothesis =>
    obtain ⟨insideParts, inner⟩ := innerHypothesis
    obtain ⟨parts, others⟩ := inductionHypothesis
    exact ⟨_, .group opens closes inner others⟩

theorem balanced {tokens : List Token} {parts : List Part} (bracketed : Bracketed tokens parts) :
    Balanced tokens := by
  induction bracketed with
  | nil => exact .nil
  | token unbracketed _ inductionHypothesis => exact .token unbracketed inductionHypothesis
  | group opens closes _ _ innerHypothesis inductionHypothesis =>
    exact .group opens closes innerHypothesis inductionHypothesis

end Bracketed

/-! ### Positions -/

namespace Position

/-- The position with more `BETWEEN`s around it. -/
def within (position : Position) (count : Nat) : Position :=
  ⟨position.complete, position.pending + count⟩

/-- A token moves the position in the same way however many ranges are open
around it. -/
theorem after_within {position next : Position} {token : Token} (count : Nat)
    (stepped : position.after token = some next) :
    (position.within count).after token = some (next.within count) := by
  unfold Position.after at stepped ⊢
  by_cases isOr : isKeyword "or" token
  · rw [if_pos isOr] at stepped
    cases stepped
  rw [if_neg isOr] at stepped ⊢
  by_cases isAnd : isKeyword "and" token
  · rw [if_pos isAnd] at stepped ⊢
    split at stepped
    · next awaited =>
      cases stepped
      obtain ⟨complete, pending⟩ := Bool.and_eq_true_iff.mp awaited
      have positive : 0 < position.pending := of_decide_eq_true pending
      have still : ((position.within count).complete &&
          decide (0 < (position.within count).pending)) = true :=
        Bool.and_eq_true_iff.mpr
          ⟨complete, decide_eq_true (Nat.add_pos_left positive count)⟩
      rw [if_pos still]
      have less : position.pending + count - 1 = position.pending - 1 + count :=
        Nat.sub_add_comm positive
      exact congrArg (fun pending => some (Position.mk false pending)) less
    · cases stepped
  rw [if_neg isAnd] at stepped ⊢
  by_cases isNot : isKeyword "not" token
  · rw [if_pos isNot] at stepped ⊢
    cases stepped
    rfl
  rw [if_neg isNot] at stepped ⊢
  by_cases isBetween : (isKeyword "between" token && position.complete) = true
  · rw [if_pos isBetween] at stepped
    cases stepped
    have more : position.pending + count + 1 = position.pending + 1 + count :=
      Nat.add_right_comm _ _ _
    exact (if_pos isBetween).trans
      (congrArg (fun pending => some (Position.mk false pending)) more)
  · rw [if_neg isBetween] at stepped
    cases stepped
    exact if_neg isBetween

/-- So does a part. -/
theorem next_within {position next : Position} {part : Part} (count : Nat)
    (stepped : position.next part = some next) :
    (position.within count).next part = some (next.within count) := by
  cases part with
  | token token => exact after_within count stepped
  | group tokens reading =>
    cases stepped
    rfl

theorem walk_cons {position : Position} {part : Part} {rest : List Part} :
    position.walk (part :: rest) = (position.next part).bind fun next => next.walk rest := rfl

/-- A walk goes on behind where it has come to. -/
theorem walk_append {position middle : Position} {parts : List Part} (more : List Part)
    (walked : position.walk parts = some middle) :
    position.walk (parts ++ more) = middle.walk more := by
  rw [walk, List.foldlM_append]
  show (position.walk parts).bind _ = _
  rw [walked]
  rfl

/-- A text is walked inside of a range as it is walked outside. -/
theorem walk_within {position next : Position} {parts : List Part} (count : Nat)
    (walked : position.walk parts = some next) :
    (position.within count).walk parts = some (next.within count) := by
  induction parts generalizing position with
  | nil =>
    cases walked
    rfl
  | cons part rest inductionHypothesis =>
    obtain ⟨middle, stepped, others⟩ := Option.bind_eq_some_iff.mp walked
    rw [walk_cons, next_within count stepped]
    exact inductionHypothesis others

end Position

/-- A comparison is cut where its parts end. -/
theorem split_append {position next : Position} {parts : List Part} (more : List Part)
    (walked : position.walk parts = some next) :
    split position (parts ++ more) =
      (split next more).map fun (first, others) => (parts ++ first, others) := by
  induction parts generalizing position with
  | nil =>
    cases walked
    exact (congrFun Option.map_id (split next more)).symm
  | cons part rest inductionHypothesis =>
    obtain ⟨middle, stepped, others⟩ := Option.bind_eq_some_iff.mp walked
    rw [List.cons_append, split, stepped]
    show (split middle (rest ++ more)).map _ = _
    rw [inductionHypothesis others, Option.map_map]
    rfl

end SqlTree.Logic
