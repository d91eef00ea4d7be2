/-
This file says which brackets tokens open and close and when the brackets among
some tokens match, and puts tokens with matching brackets together from runs in
which one bracket is left open or was open before.

Brackets are a matter of tokens and not of characters: one in a string or in a
quoted name is no bracket. Tokens with matching brackets stay so when they are put
side by side, and so do tokens between an opening bracket and its closing one. As
the two brackets come from different texts, the runs on either side are given a
name, in which one bracket is left over. Nothing more is needed to see that no
caller gets out of the parentheses that a statement puts around a part.
-/

import SqlTree.Proofs.Reading.Token

namespace SqlTree.Reading

/-- Whether the token is a keyword, which is given in lower case. -/
def isKeyword (keyword : String) : Token → Bool
  | .word chars => chars.map Char.toLower = keyword.toList
  | _ => false

/-! ### Brackets -/

/-- What encloses tokens. A `CASE` encloses them up to its `END`. -/
inductive Bracket where
  | parentheses
  | square
  | case
  deriving DecidableEq

namespace Bracket

/-- The bracket that the token opens. -/
def opened? (token : Token) : Option Bracket :=
  if token = .mark '(' then some .parentheses
  else if token = .mark '[' then some .square
  else if isKeyword "case" token then some .case
  else none

/-- The bracket that the token closes. -/
def closed? (token : Token) : Option Bracket :=
  if token = .mark ')' then some .parentheses
  else if token = .mark ']' then some .square
  else if isKeyword "end" token then some .case
  else none

/-- No token opens a bracket and closes one. -/
theorem opened?_eq_none {bracket : Bracket} {token : Token}
    (closes : closed? token = some bracket) : opened? token = none := by
  unfold closed? at closes
  split at closes
  · next same => rw [same]; rfl
  split at closes
  · next same => rw [same]; rfl
  split at closes
  · next keyword =>
    cases token with
    | word chars =>
      have spelled : chars.map Char.toLower = "end".toList := of_decide_eq_true keyword
      have noCase : isKeyword "case" (.word chars) = false := by
        rw [isKeyword, spelled]
        decide
      rw [opened?, if_neg nofun, if_neg nofun, noCase]
      rfl
    | name _ | string _ | parameter _ | number _ | operator _ | mark _ => cases keyword
  · cases closes

end Bracket

/-- Whether the token is no bracket. -/
def isUnbracketed (token : Token) : Bool :=
  (Bracket.opened? token).isNone && (Bracket.closed? token).isNone

/-- A token without a bracket neither opens nor closes one. -/
theorem isUnbracketed_cases {token : Token} (unbracketed : isUnbracketed token) :
    Bracket.opened? token = none ∧ Bracket.closed? token = none :=
  (Bool.and_eq_true_iff.mp unbracketed).imp Option.isNone_iff_eq_none.mp
    Option.isNone_iff_eq_none.mp

/-! ### Matching brackets -/

/-- The brackets among the tokens match. -/
inductive Balanced : List Token → Prop
  | nil : Balanced []
  | token {token : Token} {tokens : List Token} (unbracketed : isUnbracketed token)
    (others : Balanced tokens) : Balanced (token :: tokens)
  | group {bracket : Bracket} {opening closing : Token} {inside tokens : List Token}
    (opens : Bracket.opened? opening = some bracket)
    (closes : Bracket.closed? closing = some bracket) (inner : Balanced inside)
    (others : Balanced tokens) : Balanced (opening :: inside ++ closing :: tokens)

/-- The brackets match but for a single one, which is on one side. -/
def BalancedBut (side : Token → Option Bracket) (bracket : Bracket) (tokens : List Token) : Prop :=
  ∃ before token after, tokens = before ++ token :: after ∧ side token = some bracket ∧
    Balanced before ∧ Balanced after

variable {side : Token → Option Bracket} {bracket : Bracket} {tokens more : List Token}

/-- Tokens with matching brackets, one run behind the other. -/
theorem Balanced.append (first : Balanced tokens) (second : Balanced more) :
    Balanced (tokens ++ more) := by
  induction first with
  | nil => exact second
  | token unbracketed _ inductionHypothesis => exact .token unbracketed inductionHypothesis
  | group opens closes inner _ _ inductionHypothesis =>
    rw [List.append_assoc]
    exact .group opens closes inner inductionHypothesis

/-- Without brackets there is nothing to match. -/
theorem Balanced.of_all (unbracketed : tokens.all isUnbracketed) : Balanced tokens := by
  induction tokens with
  | nil => exact .nil
  | cons token rest inductionHypothesis =>
    obtain ⟨this, others⟩ := Bool.and_eq_true_iff.mp unbracketed
    exact .token this (inductionHypothesis others)

/-- The bracket that is left over may be followed by tokens that match. -/
theorem BalancedBut.append (first : BalancedBut side bracket tokens) (second : Balanced more) :
    BalancedBut side bracket (tokens ++ more) := by
  obtain ⟨before, token, after, rfl, brackets, balanced, others⟩ := first
  exact ⟨before, token, after ++ more, List.append_assoc _ _ _, brackets, balanced,
    others.append second⟩

/-- A bracket that is left open and one that was open before close each other. -/
theorem BalancedBut.close (first : BalancedBut Bracket.opened? bracket tokens)
    (second : BalancedBut Bracket.closed? bracket more) : Balanced (tokens ++ more) := by
  obtain ⟨before, opening, inside, rfl, opens, balanced, inner⟩ := first
  obtain ⟨middle, closing, after, rfl, closes, others, rest⟩ := second
  have whole := balanced.append (.group opens closes (inner.append others) rest)
  rw [List.append_assoc, List.cons_append, ← List.append_assoc inside]
  exact whole

/-- Whether a single token is a bracket, which is on one side. -/
def hasBracket (side : Token → Option Bracket) (bracket : Bracket) (tokens : List Token) : Bool :=
  match tokens.dropWhile isUnbracketed with
  | token :: after => side token = some bracket && after.all isUnbracketed
  | [] => false

/-- A single bracket among tokens without brackets is left over. -/
theorem BalancedBut.of_hasBracket (single : hasBracket side bracket tokens) :
    BalancedBut side bracket tokens := by
  unfold hasBracket at single
  split at single
  · next token after dropped =>
    obtain ⟨brackets, unbracketed⟩ := Bool.and_eq_true_iff.mp single
    refine ⟨tokens.takeWhile isUnbracketed, token, after, ?_, of_decide_eq_true brackets,
      .of_all List.all_takeWhile, .of_all unbracketed⟩
    rw [← dropped, List.takeWhile_append_dropWhile]
  · cases single

end SqlTree.Reading
