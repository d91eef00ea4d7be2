/-
This file reads renderings before it is known how their scalars are spelled. A
rendering has lexemes, which are tokens and places of scalars, so that however
each scalar is spelled, the tokens of the whole text are the lexemes with the
tokens of the scalars in their places.

This is what makes one reading do for two texts. The inline text and the prepared
text of a tree differ in the spelling of its scalars only, and so do the texts of
two trees that differ in their scalars. A spelling is good if what it writes can
be read and its brackets match, wherever it is written. The behaviour of a text at
its seams is carried over to renderings unchanged: a rendering reads, opens,
follows or separates if its text does in every spelling. One that ends in a fault
has no text, and anything is true of it.
-/

import SqlTree.Proofs.Modes
import SqlTree.Proofs.Reading.Literal
import SqlTree.Proofs.Reading.Name

namespace SqlTree

open Reading

/-- A token, or the place of a scalar. -/
inductive Lexeme where
  | fixed (token : Token)
  | place (value : Value)

namespace Lexeme

/-- The scalars that have places. -/
def values (lexemes : List Lexeme) : List Value :=
  lexemes.filterMap fun lexeme => match lexeme with
    | .place value => some value
    | .fixed _ => none

/-- The tokens that stand whatever the scalars are. -/
def tokens (lexemes : List Lexeme) : List Token :=
  lexemes.filterMap fun lexeme => match lexeme with
    | .fixed token => some token
    | .place _ => none

end Lexeme

/-- A way to spell scalars, each under its number: their texts and their tokens. -/
structure Spelling where
  text : Nat → Value → String
  tokens : Nat → Value → List Token
  reads : ∀ number value, Reads (text number value).toList (tokens number value)
  balanced : ∀ number value, Balanced (tokens number value)

namespace Spelling

variable (spelling : Spelling)

/-- Lexemes with scalars spelled in their places, the first place under a number. -/
def spell : Nat → List Lexeme → List Token
  | _, [] => []
  | number, .fixed token :: rest => token :: spell number rest
  | number, .place value :: rest => spelling.tokens number value ++ spell (number + 1) rest

/-- The places of the second part have the numbers behind those of the first. -/
theorem spell_append (number : Nat) (first second : List Lexeme) :
    spelling.spell number (first ++ second) =
      spelling.spell number first ++
        spelling.spell (number + (Lexeme.values first).length) second := by
  induction first generalizing number with
  | nil => rfl
  | cons lexeme rest inductionHypothesis =>
    cases lexeme with
    | fixed token =>
      show token :: spelling.spell number (rest ++ second) = _
      rw [inductionHypothesis]
      rfl
    | place value =>
      show spelling.tokens number value ++ spelling.spell (number + 1) (rest ++ second) = _
      rw [inductionHypothesis, ← List.append_assoc, Nat.add_assoc, Nat.add_comm 1]
      rfl

/-- Fixed tokens are spelled as they are, from any number on. -/
theorem spell_tokens (number : Nat) (tokens : List Token) :
    spelling.spell number (tokens.map .fixed) = tokens := by
  induction tokens with
  | nil => rfl
  | cons token rest inductionHypothesis => exact congrArg (token :: ·) inductionHypothesis

end Spelling

/-- Lexemes of some pieces: they have the places of the pieces, none of their
tokens is a parameter, and they are the tokens of the text however it is spelled. -/
structure Lexed (shape : List Char → List Token → Prop) (pieces : List Piece)
    (lexemes : List Lexeme) : Prop where
  values : Lexeme.values lexemes = (Outline.ofPieces pieces).values
  noParameters : parameterNumbers (Lexeme.tokens lexemes) = []
  spelled : ∀ (spelling : Spelling) (number : Nat),
    shape ((Outline.ofPieces pieces).fill spelling.text number).toList
      (spelling.spell number lexemes)

/-- Lexemes of two lists of pieces, one behind the other; the numbers go on. -/
theorem Lexed.append {shape other whole : List Char → List Token → Prop}
    {first second : List Piece} {lexemes more : List Lexeme}
    (compose : ∀ {chars tokens others rest}, shape chars tokens → other others rest →
      whole (chars ++ others) (tokens ++ rest))
    (head : Lexed shape first lexemes) (tail : Lexed other second more) :
    Lexed whole (first ++ second) (lexemes ++ more) where
  values := by
    rw [Outline.values_append, ← head.values, ← tail.values]
    exact List.filterMap_append
  noParameters := by
    have fixed : Lexeme.tokens (lexemes ++ more) = Lexeme.tokens lexemes ++ Lexeme.tokens more :=
      List.filterMap_append
    rw [fixed, parameterNumbers_append, head.noParameters, tail.noParameters, List.append_nil]
  spelled spelling number := by
    rw [Outline.fill_append, String.toList_append, spelling.spell_append, head.values]
    exact compose (head.spelled spelling number) (tail.spelled spelling _)

/-- Texts of a shape whose tokens have a property. -/
def Having (shape : List Char → List Token → Prop) (property : List Token → Prop)
    (chars : List Char) (tokens : List Token) : Prop :=
  shape chars tokens ∧ property tokens

namespace Rendering

/-- A rendering without a fault has lexemes, and its text has a shape. -/
def Lexes (shape : List Char → List Token → Prop) (rendering : Rendering) : Prop :=
  rendering.fault = none → ∃ lexemes, Lexed shape rendering.pieces lexemes

/-- The text can be read on its own, and the brackets in it match. -/
def Reads (rendering : Rendering) : Prop :=
  rendering.Lexes (Having Reading.Reads Balanced)

/-- Any text may follow. -/
def Opens (rendering : Rendering) : Prop :=
  rendering.Lexes (Having Reading.Opens Balanced)

/-- The text may follow any text. -/
def Follows (rendering : Rendering) : Prop :=
  rendering.Lexes (Having Reading.Follows Balanced)

/-- The text may stand between any two texts. -/
def Separates (rendering : Rendering) : Prop :=
  rendering.Lexes (Having Reading.Separates Balanced)

/-! ### Putting renderings together -/

/-- What two texts are like together, two renderings are like together. -/
theorem Lexes.append {shape other whole : List Char → List Token → Prop}
    {first second : Rendering}
    (compose : ∀ {chars tokens others rest}, shape chars tokens → other others rest →
      whole (chars ++ others) (tokens ++ rest))
    (head : first.Lexes shape) (tail : second.Lexes other) : (first ++ second).Lexes whole := by
  intro sound
  obtain ⟨pieces, fault⟩ := first
  cases fault with
  | some fault => cases sound
  | none =>
    obtain ⟨lexemes, headLexed⟩ := head rfl
    obtain ⟨more, tailLexed⟩ := tail sound
    exact ⟨lexemes ++ more, headLexed.append compose tailLexed⟩

/-- A rendering that is good for more is good for less. -/
theorem Lexes.mono {shape other : List Char → List Token → Prop} {rendering : Rendering}
    (weaken : ∀ {chars tokens}, shape chars tokens → other chars tokens)
    (lexes : rendering.Lexes shape) : rendering.Lexes other := by
  intro sound
  obtain ⟨lexemes, lexed⟩ := lexes sound
  exact ⟨lexemes, lexed.values, lexed.noParameters, fun spelling number =>
    weaken (lexed.spelled spelling number)⟩

/-- Shapes and properties of two texts are put together at once. -/
theorem Lexes.append_having {shape other whole : List Char → List Token → Prop}
    {property otherProperty wholeProperty : List Token → Prop} {first second : Rendering}
    (compose : ∀ {chars tokens others rest}, shape chars tokens → other others rest →
      whole (chars ++ others) (tokens ++ rest))
    (combine : ∀ {tokens rest}, property tokens → otherProperty rest →
      wholeProperty (tokens ++ rest))
    (head : first.Lexes (Having shape property))
    (tail : second.Lexes (Having other otherProperty)) :
    (first ++ second).Lexes (Having whole wholeProperty) :=
  Lexes.append (fun shaped others => ⟨compose shaped.1 others.1, combine shaped.2 others.2⟩)
    head tail

variable {first second : Rendering}

theorem Opens.append_opens (opens : first.Opens) (others : second.Opens) :
    (first ++ second).Opens :=
  Lexes.append_having Reading.Opens.append_opens Balanced.append opens others

theorem Opens.append_reads (opens : first.Opens) (others : second.Reads) :
    (first ++ second).Reads :=
  Lexes.append_having Reading.Opens.append_reads Balanced.append opens others

theorem Reads.append_separates (reads : first.Reads) (others : second.Separates) :
    (first ++ second).Opens :=
  Lexes.append_having Reading.Reads.append_separates Balanced.append reads others

theorem Reads.append_follows (reads : first.Reads) (others : second.Follows) :
    (first ++ second).Reads :=
  Lexes.append_having Reading.Reads.append_follows Balanced.append reads others

theorem Follows.append_follows (follows : first.Follows) (others : second.Follows) :
    (first ++ second).Follows :=
  Lexes.append_having Reading.Follows.append_follows Balanced.append follows others

theorem Follows.append_separates (follows : first.Follows) (others : second.Separates) :
    (first ++ second).Separates :=
  Lexes.append_having Reading.Follows.append_separates Balanced.append follows others

theorem Separates.append_reads (separates : first.Separates) (others : second.Reads) :
    (first ++ second).Follows :=
  Lexes.append_having Reading.Separates.append_reads Balanced.append separates others

theorem Opens.reads (opens : first.Opens) : first.Reads :=
  Lexes.mono (And.imp_left Reading.Opens.reads) opens

theorem Separates.opens (separates : first.Separates) : first.Opens :=
  Lexes.mono (And.imp_left And.left) separates

theorem Separates.follows (separates : first.Separates) : first.Follows :=
  Lexes.mono (And.imp_left Reading.Separates.follows) separates

/-! ### Leaves -/

/-- A fixed text has its own tokens for lexemes, if no parameter is among them. -/
theorem lexes_ofText {shape : List Char → List Token → Prop} {text : String} {tokens : List Token}
    (shaped : shape text.toList tokens) (noParameters : parameterNumbers tokens = []) :
    (ofText text).Lexes shape := by
  intro _
  refine ⟨tokens.map .fixed, ?_, ?_, fun spelling number => ?_⟩
  · refine List.filterMap_eq_nil_iff.mpr fun lexeme member => ?_
    obtain ⟨token, -, rfl⟩ := List.mem_map.mp member
    rfl
  · rw [Lexeme.tokens, List.filterMap_map]
    exact (congrArg parameterNumbers List.filterMap_some).trans noParameters
  · rw [Spelling.spell_tokens, ofText, Outline.fill_text]
    exact String.append_empty.symm ▸ shaped

/-- Tokens of a fixed text: none of them is a parameter or a bracket. -/
def areFixed (tokens : List Token) : Bool :=
  (parameterNumbers tokens).isEmpty && tokens.all isUnbracketed

/-- A fixed text without brackets is good for what its characters are good for. -/
theorem lexes_ofText_of_areFixed {shape : List Char → List Token → Prop} {text : String}
    {tokens : List Token} (shaped : shape text.toList tokens) (fixed : areFixed tokens) :
    (ofText text).Lexes (Having shape Balanced) := by
  obtain ⟨noParameters, unbracketed⟩ := Bool.and_eq_true_iff.mp fixed
  exact lexes_ofText ⟨shaped, .of_all unbracketed⟩ (List.isEmpty_iff.mp noParameters)

/-- Whether a fixed text leaves no token open. -/
def isOpening (text : String) : Bool :=
  match scan .gap text.toList with
  | some (.gap, tokens) => areFixed tokens
  | _ => false

/-- Whether a fixed text may stand between any two texts. It is found out by
reading it. -/
def isSeparating (text : String) : Bool :=
  isOpening text && text.toList.head?.any isSeparator

/-- Texts of the library are looked at by running the reader on them. -/
theorem opens_ofText {text : String} (opening : isOpening text) : (ofText text).Opens := by
  unfold isOpening at opening
  split at opening
  · next tokens scanned => exact lexes_ofText_of_areFixed scanned opening
  · cases opening

/-- A text such as a comma with a space behind it, or a word between two spaces. -/
theorem separates_ofText {text : String} (separating : isSeparating text) :
    (ofText text).Separates := by
  obtain ⟨opening, separator⟩ := Bool.and_eq_true_iff.mp separating
  unfold isOpening at opening
  split at opening
  · next tokens scanned =>
    obtain ⟨char, head, separator⟩ := (Option.any_eq_true _ _).mp separator
    exact lexes_ofText_of_areFixed ⟨scanned, char, head, separator⟩ opening
  · cases opening

/-- Whether a fixed text can be read. -/
def isReadable (text : String) : Bool :=
  match tokens? text.toList with
  | some tokens => areFixed tokens
  | none => false

/-- A text such as a keyword on its own. -/
theorem reads_ofText {text : String} (readable : isReadable text) : (ofText text).Reads := by
  unfold isReadable at readable
  split at readable
  · next tokens read => exact lexes_ofText_of_areFixed read readable
  · cases readable

/-- A text that begins with a space. -/
theorem follows_ofText {text : String} (readable : isReadable text)
    (separator : text.toList.head?.all isSeparator) : (ofText text).Follows := by
  unfold isReadable at readable
  split at readable
  · next tokens read =>
    refine lexes_ofText_of_areFixed ⟨read, fun char head => ?_⟩ readable
    rw [Option.mem_def.mp head] at separator
    exact separator
  · cases readable

/-- Two texts in one piece are as good as two pieces. -/
theorem lexes_ofText_append {shape : List Char → List Token → Prop} {first second : String}
    (lexes : (ofText first ++ ofText second).Lexes shape) :
    (ofText (first ++ second)).Lexes shape := by
  intro _
  obtain ⟨lexemes, lexed⟩ := lexes rfl
  refine ⟨lexemes, lexed.values, lexed.noParameters, fun spelling number => ?_⟩
  have spelled := lexed.spelled spelling number
  show shape ((Outline.ofPieces [.text (first ++ second)]).fill spelling.text number).toList _
  rw [Outline.fill_text, String.append_assoc, ← Outline.fill_text, ← Outline.fill_text]
  exact spelled

theorem opens_empty : empty.Opens :=
  fun _ => ⟨[], rfl, rfl, fun _ _ => ⟨opens_nil, .nil⟩⟩

theorem follows_empty : empty.Follows :=
  fun _ => ⟨[], rfl, rfl, fun _ _ => ⟨follows_nil, .nil⟩⟩

/-- A fault has no text that could be misread. -/
theorem lexes_fail (shape : List Char → List Token → Prop) (fault : Fault) :
    (fail fault).Lexes shape :=
  fun sound => nomatch sound

theorem opens_check (misuse : Option Misuse) : (check misuse).Opens := by
  cases misuse with
  | none => exact opens_empty
  | some misuse => exact lexes_fail _ _

/-- A scalar is read in its place as the spelling has it. -/
theorem reads_ofValue (value : Value) : (ofValue value).Reads := by
  intro _
  refine ⟨[.place value], rfl, rfl, fun spelling number => ?_⟩
  show Having Reading.Reads Balanced
    (Outline.fill spelling.text number (.ofPieces [.value value])).toList
    (spelling.tokens number value ++ [])
  rw [Outline.fill_value, List.append_nil]
  exact String.append_empty.symm ▸ ⟨spelling.reads number value, spelling.balanced number value⟩

/-- A quoted name is read, whatever it is. -/
theorem reads_quoteName (name : String) : (ofText (quoteName name)).Reads := by
  refine lexes_ofText ⟨?_, .token (isUnbracketed_nameToken name.toList) .nil⟩
    (parameterNumbers_nameToken name.toList)
  rw [quoteName, String.toList_ofList]
  exact (chain_nameChars name.toList).reads

/-- So is a quoted text. -/
theorem reads_quoteText (text : String) : (ofText (quoteText text)).Reads := by
  refine lexes_ofText_of_areFixed ?_ (rfl : areFixed [.string text.toList])
  rw [quoteText, String.toList_ofList]
  exact reads_textChars text.toList

/-! ### Brackets -/

/-- A fixed text with a single bracket. -/
theorem lexes_ofText_bracket {shape : List Char → List Token → Prop}
    {side : Token → Option Bracket} {bracket : Bracket} {text : String} {tokens : List Token}
    (shaped : shape text.toList tokens) (single : hasBracket side bracket tokens)
    (noParameters : parameterNumbers tokens = []) :
    (ofText text).Lexes (Having shape (BalancedBut side bracket)) :=
  lexes_ofText ⟨shaped, .of_hasBracket single⟩ noParameters

/-- What stands between brackets needs to be read only: the brackets keep it from what
is around them. -/
theorem opens_enclosed {bracket : Bracket} {opening inner closing : Rendering}
    (opens : opening.Lexes (Having Reading.Opens (BalancedBut Bracket.opened? bracket)))
    (reads : inner.Reads)
    (closes : closing.Lexes (Having Reading.Separates (BalancedBut Bracket.closed? bracket))) :
    (opening ++ inner ++ closing).Opens :=
  Lexes.append_having Reading.Reads.append_separates BalancedBut.close
    (Lexes.append_having Reading.Opens.append_reads BalancedBut.append opens reads) closes

theorem separates_enclosed {bracket : Bracket} {opening inner closing : Rendering}
    (opens : opening.Lexes (Having Reading.Separates (BalancedBut Bracket.opened? bracket)))
    (reads : inner.Reads)
    (closes : closing.Lexes (Having Reading.Separates (BalancedBut Bracket.closed? bracket))) :
    (opening ++ inner ++ closing).Separates :=
  Lexes.append_having Reading.Follows.append_separates BalancedBut.close
    (Lexes.append_having Reading.Separates.append_reads BalancedBut.append opens reads) closes

theorem separates_opening :
    (ofText "(").Lexes (Having Reading.Separates (BalancedBut Bracket.opened? .parentheses)) := by
  have separates : Reading.Separates "(".toList [.mark '('] := ⟨rfl, '(', rfl, rfl⟩
  exact lexes_ofText_bracket separates rfl rfl

theorem separates_closing :
    (ofText ")").Lexes (Having Reading.Separates (BalancedBut Bracket.closed? .parentheses)) := by
  have separates : Reading.Separates ")".toList [.mark ')'] := ⟨rfl, ')', rfl, rfl⟩
  exact lexes_ofText_bracket separates rfl rfl

end Rendering

end SqlTree
