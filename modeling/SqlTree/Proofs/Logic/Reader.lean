/-
This file reads the tokens of a condition as a formula by the precedence of the
database: brackets first, then comparisons, then `NOT`, then `AND`, then `OR`.
The `AND` of a `BETWEEN` belongs to its comparison, and `between` is a column
where an operand is expected. What stands between connectives is an atom, unless
it is a condition in parentheses.

It is a grammar for one kind of text only: what stands behind `WHERE`. It knows
nothing of how conditions are stored or written, so what it makes of a text is
evidence about the text. Three steps follow each other. Brackets are matched, and
what is in parentheses becomes one part, which keeps the formula that it reads as
if it is a condition. The parts are cut at the connectives outside of brackets.
Each piece is then a negation, a condition in parentheses or an atom, which is
kept as its tokens. A text that fits none of this is not read.
-/

import SqlTree.Proofs.Logic.Formula
import SqlTree.Proofs.Reading.Bracket

namespace SqlTree.Logic

open Reading

/-! ### Parts -/

/-- A token, or the tokens from a bracket to the one that closes it together with
the formula that they read as, if they are a condition in parentheses. -/
inductive Part where
  | token (token : Token)
  | group (tokens : List Token) (reading : Option (Formula (List Token)))

/-- The tokens that a part is made of, brackets included. -/
def Part.tokens : Part → List Token
  | .token only => [only]
  | .group tokens _ => tokens

/-! ### Comparisons -/

/-- Where a comparison is at: whether an operand is complete, and how many
`BETWEEN`s wait for their `AND`. -/
structure Position where
  complete : Bool
  pending : Nat
  deriving DecidableEq

namespace Position

/-- Before a comparison. -/
def initial : Position :=
  ⟨false, 0⟩

/-- After a comparison. -/
def final : Position :=
  ⟨true, 0⟩

/-- Whether an operand is complete after a token that is no connective. A star
stands for columns where an operand is expected and multiplies elsewhere. -/
def completes (complete : Bool) (token : Token) : Bool :=
  match token with
  | .operator chars => chars = ['*'] && !complete
  | .mark _ => false
  | _ => ["in", "like", "ilike", "any", "all", "some"].all fun keyword => !isKeyword keyword token

/-- The position after a token, unless the token ends the comparison. -/
def after (position : Position) (token : Token) : Option Position :=
  if isKeyword "or" token then none
  else if isKeyword "and" token then
    if position.complete && 0 < position.pending then some ⟨false, position.pending - 1⟩
    else none
  else if isKeyword "not" token then some position
  else if isKeyword "between" token && position.complete then
    some ⟨false, position.pending + 1⟩
  else some ⟨completes position.complete token, position.pending⟩

/-- The position after a part of the same comparison. -/
def next (position : Position) : Part → Option Position
  | .token token => position.after token
  | .group _ _ => some ⟨true, position.pending⟩

/-- The position after some parts of the same comparison. -/
def walk (position : Position) (parts : List Part) : Option Position :=
  parts.foldlM next position

end Position

/-! ### Connectives -/

/-- The connective that a part is, if it is one. -/
def connective? : Part → Option Connective
  | .token token =>
    if isKeyword "and" token then some .all else if isKeyword "or" token then some .any else none
  | .group _ _ => none

/-- Cuts parts at the connectives: the first comparison, and the others, each
behind its connective. Every comparison has to be complete. -/
def split (position : Position) :
    List Part → Option (List Part × List (Connective × List Part))
  | [] => if position = .final then some ([], []) else none
  | part :: rest =>
    match position.next part with
    | some next => (split next rest).map fun (first, others) => (part :: first, others)
    | none => do
      let connective ← connective? part
      let (first, others) ← if position = .final then split .initial rest else none
      return ([], (connective, first) :: others)

/-- A comparison as a formula. -/
def readComparison : List Part → Formula (List Token)
  | [.group _ (some reading)] => reading
  | .token token :: rest =>
    if isKeyword "not" token then .negation (readComparison rest)
    else .atom (token :: rest.flatMap Part.tokens)
  | parts => .atom (parts.flatMap Part.tokens)

/-- Comparisons with connectives between them as a formula. -/
def readParts (parts : List Part) : Option (Formula (List Token)) :=
  (split .initial parts).map fun (first, others) =>
    .chain (readComparison first) (others.map fun other => (other.1, readComparison other.2))

/-! ### Brackets -/

/-- Whether a statement stands there and not a condition. `values` is a column
unless a row follows. -/
def startsStatement : List Part → Bool
  | .token first :: .group _ _ :: _ =>
    ["select", "with", "table", "values"].any (isKeyword · first)
  | .token first :: _ => ["select", "with", "table"].any (isKeyword · first)
  | _ => false

/-- Parts with the bracket around them. -/
def enclose (bracket : Bracket) (opening : Token) (parts : List Part) (closing : Token) : Part :=
  .group (opening :: parts.flatMap Part.tokens ++ [closing])
    (if bracket = .parentheses && !startsStatement parts then readParts parts else none)

/-- Puts tokens in brackets together, innermost first: the parts since the last
open bracket, and the open brackets with the parts before each. -/
def assemble (parts : List Part) (outer : List (Bracket × Token × List Part)) :
    List Token → Option (List Part)
  | [] => if outer.isEmpty then some parts else none
  | token :: rest =>
    match Bracket.opened? token, Bracket.closed? token, outer with
    | some bracket, _, _ => assemble [] ((bracket, token, parts) :: outer) rest
    | none, some bracket, (innermost, opening, before) :: outer =>
      if innermost = bracket then
        assemble (before ++ [enclose bracket opening parts token]) outer rest
      else none
    | none, some _, [] => none
    | none, none, outer => assemble (parts ++ [.token token]) outer rest

/-- The formula that a text reads as. -/
def readText (text : String) : Option (Formula (List Token)) := do
  let tokens ← tokens? text.toList
  let parts ← assemble [] [] tokens
  readParts parts

end SqlTree.Logic
