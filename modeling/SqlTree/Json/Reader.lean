/-
This file reads JSON text: first into tokens, then into a document. Each step
returns what follows it together with the fact that this is shorter, and that
is what ends the reading.
-/

import SqlTree.Json.Number
import SqlTree.Text.Hex

namespace SqlTree.Json

/-! ### Tokens -/

/-- A token of a document. Numbers, strings and words are scalars at once. -/
inductive Token where
  | openArray
  | closeArray
  | openObject
  | closeObject
  | comma
  | colon
  | scalar (value : Json)

/-- A string and what follows its closing quote. Escapes of characters beyond
the first plane come in pairs; half of a pair is refused. -/
def takeString : List Char → Option (List Char × List Char)
  | [] => none
  | '"' :: rest => some ([], rest)
  | '\\' :: 'u' :: a :: b :: c :: d :: rest => do
    let unit ← Hex.number? [a, b, c, d]
    if unit < 0xD800 ∨ 0xDFFF < unit then
      (takeString rest).map fun (chars, rest) => (Char.ofNat unit :: chars, rest)
    else if 0xDBFF < unit then none
    else match rest with
      | '\\' :: 'u' :: e :: f :: g :: h :: rest => do
        let second ← Hex.number? [e, f, g, h]
        if 0xDC00 ≤ second ∧ second ≤ 0xDFFF then
          let char := Char.ofNat (0x10000 + (unit - 0xD800) * 0x400 + (second - 0xDC00))
          (takeString rest).map fun (chars, rest) => (char :: chars, rest)
        else none
      | _ => none
  | '\\' :: mark :: rest => do
    let char ← match mark with
      | '"' => some '"'
      | '\\' => some '\\'
      | '/' => some '/'
      | 'b' => some '\x08'
      | 'f' => some '\x0c'
      | 'n' => some '\n'
      | 'r' => some '\r'
      | 't' => some '\t'
      | _ => none
    (takeString rest).map fun (chars, rest) => (char :: chars, rest)
  | char :: rest =>
    if char.toNat < 32 ∨ char = '\\' then none
    else (takeString rest).map fun (chars, rest) => (char :: chars, rest)

/-- The characters that numbers are made of. -/
def isNumberChar (char : Char) : Bool :=
  char.isDigit || char = '-' || char = '+' || char = '.' || char = 'e' || char = 'E'

/-- What may stand between tokens. -/
def isBlank (char : Char) : Bool :=
  char = ' ' || char = '\n' || char = '\r' || char = '\t'

/-- One step of the reading of tokens: a token, if the text does not start
with a blank, and what follows. -/
def nextToken? (first : Char) (rest : List Char) : Option (Option Token × List Char) :=
  if isBlank first then some (none, rest)
  else if first = '[' then some (some .openArray, rest)
  else if first = ']' then some (some .closeArray, rest)
  else if first = '\x7b' then some (some .openObject, rest)
  else if first = '\x7d' then some (some .closeObject, rest)
  else if first = ',' then some (some .comma, rest)
  else if first = ':' then some (some .colon, rest)
  else if first = '"' then
    (takeString rest).map fun (chars, rest) =>
      (some (.scalar (.string (String.ofList chars))), rest)
  else if isNumberChar first then do
    let numeral ← Numeral.ofChars? (first :: rest.takeWhile isNumberChar)
    return (some (.scalar (← numeral.toJson?)), rest.dropWhile isNumberChar)
  else match first, rest with
    | 'n', 'u' :: 'l' :: 'l' :: rest => some (some (.scalar .null), rest)
    | 't', 'r' :: 'u' :: 'e' :: rest => some (some (.scalar (.bool true)), rest)
    | 'f', 'a' :: 'l' :: 's' :: 'e' :: rest => some (some (.scalar (.bool false)), rest)
    | _, _ => none

/-- The tokens of a text; `fuel` bounds their number and the length of the text is enough. -/
def takeTokens : Nat → List Char → Option (List Token)
  | _, [] => some []
  | 0, _ => none
  | fuel + 1, first :: rest => do
    let (token, rest) ← nextToken? first rest
    let tokens ← takeTokens fuel rest
    return match token with
      | some token => token :: tokens
      | none => tokens

/-- The tokens of a text, if all of it is made of them. -/
def tokens? (text : String) : Option (List Token) :=
  takeTokens text.length text.toList

/-! ### Documents -/

/-- What follows a piece of a document, shorter than where the piece began. -/
abbrev Shorter (tokens : List Token) := { rest : List Token // rest.length < tokens.length }

mutual

/-- A document at the front of the tokens. -/
def takeDocument (tokens : List Token) : Option (Json × Shorter tokens) :=
  match tokens with
  | .scalar value :: rest => some (value, ⟨rest, by simp only [List.length_cons]; omega⟩)
  | .openArray :: .closeArray :: rest =>
    some (.array [], ⟨rest, by simp only [List.length_cons]; omega⟩)
  | .openArray :: rest => do
    let (items, ⟨rest', shorter⟩) ← takeItems rest
    return (.array items, ⟨rest', by simp only [List.length_cons]; omega⟩)
  | .openObject :: .closeObject :: rest =>
    some (.object [], ⟨rest, by simp only [List.length_cons]; omega⟩)
  | .openObject :: rest => do
    let (members, ⟨rest', shorter⟩) ← takeMembers rest
    return (ofMembers members, ⟨rest', by simp only [List.length_cons]; omega⟩)
  | _ => none
termination_by (tokens.length, 0)

/-- At least one item and the bracket that closes the array. -/
def takeItems (tokens : List Token) : Option (List Json × Shorter tokens) := do
  let (item, ⟨rest, shorter⟩) ← takeDocument tokens
  match rest, shorter with
  | .closeArray :: after, shorter =>
    return ([item], ⟨after, by simp only [List.length_cons] at shorter; omega⟩)
  | .comma :: after, shorter =>
    have : after.length < tokens.length := by simp only [List.length_cons] at shorter; omega
    let (items, ⟨last, shortest⟩) ← takeItems after
    return (item :: items, ⟨last, by omega⟩)
  | _, _ => none
termination_by (tokens.length, 1)

/-- At least one member and the brace that closes the object. -/
def takeMembers (tokens : List Token) : Option (List (String × Json) × Shorter tokens) :=
  match tokens with
  | .scalar (.string key) :: .colon :: rest => do
    let (value, ⟨next, shorter⟩) ← takeDocument rest
    match next, shorter with
    | .closeObject :: after, shorter =>
      return ([(key, value)], ⟨after, by simp only [List.length_cons] at shorter ⊢; omega⟩)
    | .comma :: after, shorter =>
      have : after.length < (Token.scalar (.string key) :: Token.colon :: rest).length := by
        simp only [List.length_cons] at shorter ⊢; omega
      let (members, ⟨last, shortest⟩) ← takeMembers after
      return ((key, value) :: members, ⟨last, by simp only [List.length_cons] at *; omega⟩)
    | _, _ => none
  | _ => none
termination_by (tokens.length, 1)

end

/-- Reads a whole text as one document. -/
def read? (text : String) : Option Json := do
  let tokens ← tokens? text
  match takeDocument tokens with
  | some (document, ⟨[], _⟩) => some document
  | _ => none

end SqlTree.Json
