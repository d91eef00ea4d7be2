/-
This file proves that no text breaks out of its literal. Two trees that differ
only in the texts that stand where values are wanted have texts with the same
tokens, except that each of these texts is a single string that stands for it.

It is a fact about two runs. Both are spelled from the lexemes of the first tree:
in the first run the places of its scalars are filled with literals of these
scalars, in the second with literals of the scalars that the second tree has in
the same places. What stands between the places is the same in both, and what
stands in a place is read as a string whatever the text is, because the reader
comes to it from a gap and has to be in a gap again behind it.

The texts are those that the trees supply, read off the trees themselves and not
off what is written. A tree may not bring SQL of its own: behind an operator with
a quote in it, or a name with one in its trailer, the first quote of a literal
closes a string and what follows it is no string any more.
-/

import SqlTree.Proofs.Erasure.Rendering
import SqlTree.Proofs.Supplied.Rendering

namespace SqlTree

open Reading

/-! ### The texts among scalars -/

mutual

/-- The texts in a scalar, in their order. -/
def Value.texts : Value → List String
  | .text contents => [contents]
  | .array items => itemTexts items
  | .null | .bool _ | .integer _ | .float _ | .bytes _ | .json _ | .timestamp _ | .uuid _ => []

/-- The texts of an array or of a list of scalars, one after another. -/
def Value.itemTexts : List Value → List String
  | [] => []
  | item :: rest => item.texts ++ itemTexts rest

end

/-- Two lists of tokens agree but for some texts, each of which is a string in
its list and stands for itself. -/
inductive Agree : List String → List String → List Token → List Token → Prop where
  | nil : Agree [] [] [] []
  | same (token : Token) {texts others : List String} {tokens more : List Token} :
    Agree texts others tokens more → Agree texts others (token :: tokens) (token :: more)
  | text (text other : String) {texts others : List String} {tokens more : List Token} :
    Agree texts others tokens more →
      Agree (text :: texts) (other :: others) (.string text.toList :: tokens)
        (.string other.toList :: more)

namespace Agree

theorem refl (tokens : List Token) : Agree [] [] tokens tokens := by
  induction tokens with
  | nil => exact .nil
  | cons token rest inductionHypothesis => exact .same token inductionHypothesis

theorem append {texts others restTexts restOthers : List String}
    {tokens more rest restMore : List Token} (head : Agree texts others tokens more)
    (tail : Agree restTexts restOthers rest restMore) :
    Agree (texts ++ restTexts) (others ++ restOthers) (tokens ++ rest) (more ++ restMore) := by
  induction head with
  | nil => exact tail
  | same token _ inductionHypothesis => exact .same token inductionHypothesis
  | text text other _ inductionHypothesis => exact .text text other inductionHypothesis

theorem length_eq {texts others : List String} {tokens more : List Token}
    (agree : Agree texts others tokens more) : tokens.length = more.length := by
  induction agree with
  | nil => rfl
  | same _ _ inductionHypothesis => exact congrArg (· + 1) inductionHypothesis
  | text _ _ _ inductionHypothesis => exact congrArg (· + 1) inductionHypothesis

end Agree

mutual

/-- The literals of scalars that differ in texts only. -/
theorem agree_literalTokens (value other : Value) (same : value.erased = other.erased) :
    Agree value.texts other.texts (literalTokens value) (literalTokens other) := by
  match value with
  | .text text =>
    cases other with
    | text other => exact .text text other .nil
    | _ => cases same
  | .array items =>
    cases other with
    | array others =>
      have agree := agree_itemTokens items others (Value.array.inj same)
      have closed := ((Agree.refl [.word "ARRAY".toList, .mark '[']).append agree).append
        (Agree.refl [.mark ']'])
      rw [List.append_nil, List.append_nil] at closed
      exact closed
    | _ => cases same
  | .null | .bool _ | .integer _ | .float _ | .bytes _ | .json _ | .timestamp _ | .uuid _ =>
    cases other <;> cases same
    exact .refl _

/-- The items of arrays that differ in texts only, with the marks between them. -/
theorem agree_itemTokens (items others : List Value)
    (same : Value.erasedItems items = Value.erasedItems others) :
    Agree (Value.itemTexts items) (Value.itemTexts others)
      ([.mark ','].intercalate (itemTokens items))
      ([.mark ','].intercalate (itemTokens others)) := by
  match items, others with
  | [], [] => exact .nil
  | [], other :: others => cases same
  | item :: items, [] => cases same
  | [item], [other] =>
    obtain ⟨first, -⟩ := List.cons.inj same
    have agree := agree_literalTokens item other first
    simpa [itemTokens, Value.itemTexts] using agree
  | [item], other :: next :: others => cases (List.cons.inj same).2
  | item :: next :: items, [other] => cases (List.cons.inj same).2
  | item :: next :: items, other :: nextOther :: others =>
    obtain ⟨first, rest⟩ := List.cons.inj same
    have agree := (agree_literalTokens item other first).append
      ((Agree.refl [.mark ',']).append
        (agree_itemTokens (next :: items) (nextOther :: others) rest))
    show Agree _ _ ([.mark ','].intercalate (literalTokens item :: literalTokens next :: _))
      ([.mark ','].intercalate (literalTokens other :: literalTokens nextOther :: _))
    rw [List.intercalate_cons_cons, List.intercalate_cons_cons, List.append_assoc,
      List.append_assoc]
    exact agree

end

/-! ### Literals as a spelling -/

/-- Every scalar is spelled as its literal. -/
def Spelling.literals : Spelling where
  text _ value := quoteLiteral value
  tokens _ value := literalTokens value
  reads _ value := by
    rw [quoteLiteral, String.toList_ofList]
    exact reads_literalChars value
  balanced _ value := balanced_literalTokens value

/-- Every scalar is spelled as the literal of another, which is found under its number. -/
def Spelling.literalsOf (others : List Value) : Spelling where
  text number _ := quoteLiteral (others[number]?.getD .null)
  tokens number _ := literalTokens (others[number]?.getD .null)
  reads number _ := Spelling.literals.reads number _
  balanced number _ := Spelling.literals.balanced number _

/-- The scalar that comes next is found under the number of those before it. -/
theorem getD_getElem?_append (before : List Value) (value : Value) (rest : List Value) :
    (before ++ value :: rest)[before.length]?.getD .null = value := by
  rw [List.getElem?_append_right (Nat.le_refl _), Nat.sub_self]
  rfl

/-- Pieces with the scalars of other pieces in their places are the other pieces. -/
theorem fill_literalsOf {pieces others : List Piece}
    (same : pieces.map Piece.erased = others.map Piece.erased) (before : List Value)
    (number : Nat) :
    (Outline.ofPieces pieces).fill
        (Spelling.literalsOf (before ++ (Outline.ofPieces others).values)).text before.length =
      (Outline.ofPieces others).fill (fun _ value => quoteLiteral value) number := by
  induction pieces generalizing others before number with
  | nil =>
    cases others with
    | nil => rfl
    | cons _ _ => cases same
  | cons piece rest inductionHypothesis =>
    cases others with
    | nil => cases same
    | cons other others =>
      obtain ⟨this, alike⟩ := List.cons.inj same
      cases piece with
      | text contents =>
        cases other with
        | value _ => cases this
        | text _ =>
          cases this
          rw [Outline.fill_text, Outline.fill_text, Outline.values_text,
            inductionHypothesis alike before number]
      | value scalar =>
        cases other with
        | text _ => cases this
        | value other =>
          have rest := inductionHypothesis alike (before ++ [other]) (number + 1)
          rw [List.length_append, List.append_assoc] at rest
          rw [Outline.fill_value, Outline.fill_value, Outline.values_value]
          show quoteLiteral _ ++ _ = _
          rw [getD_getElem?_append]
          exact congrArg (quoteLiteral other ++ ·) rest

/-- The two runs side by side, lexeme by lexeme. The list that the second run draws from
is split into what has been spelled and what is left, so the number of a place finds its
scalar. -/
theorem agree_spell (lexemes : List Lexeme) (others before : List Value) (number : Nat)
    (same : (Lexeme.values lexemes).map Value.erased = others.map Value.erased) :
    Agree (Value.itemTexts (Lexeme.values lexemes)) (Value.itemTexts others)
      (Spelling.literals.spell number lexemes)
      ((Spelling.literalsOf (before ++ others)).spell before.length lexemes) := by
  induction lexemes generalizing others before number with
  | nil =>
    cases others with
    | nil => exact .nil
    | cons _ _ => cases same
  | cons lexeme rest inductionHypothesis =>
    cases lexeme with
    | fixed token => exact .same token (inductionHypothesis others before number same)
    | place value =>
      cases others with
      | nil => cases same
      | cons other others =>
        obtain ⟨this, alike⟩ := List.cons.inj same
        have rest := inductionHypothesis others (before ++ [other]) (number + 1) alike
        rw [List.length_append, List.append_assoc] at rest
        have whole := (agree_literalTokens value other this).append rest
        show Agree _ _ _ (literalTokens _ ++ _)
        rw [getD_getElem?_append]
        exact whole

/-- The scalars of erased pieces are erased scalars. -/
theorem values_erased (pieces : List Piece) :
    (Outline.ofPieces (pieces.map Piece.erased)).values =
      (Outline.ofPieces pieces).values.map Value.erased := by
  induction pieces with
  | nil => rfl
  | cons piece rest inductionHypothesis =>
    cases piece with
    | text contents => exact inductionHypothesis
    | value scalar => exact congrArg (scalar.erased :: ·) inductionHypothesis

/-! ### Texts in place -/

/-- Two trees without SQL of their own that differ in texts only, where values are
wanted, have the same fault or have texts with as many tokens as each other. The
tokens agree but for the texts that the two trees supply: each of these, in its
order, is a single string that stands for it. -/
theorem Node.agree_toText (first second : Node) (rawFree : first.isRawFree .ordinary)
    (same : first.erased .ordinary = second.erased .ordinary) :
    (∃ fault, first.toText = .error fault ∧ second.toText = .error fault) ∨
      ∃ firstText secondText firstTokens secondTokens,
        first.toText = .ok firstText ∧ second.toText = .ok secondText ∧
        tokens? firstText.toList = some firstTokens ∧
        tokens? secondText.toList = some secondTokens ∧
        firstTokens.length = secondTokens.length ∧
        Agree (Value.itemTexts (first.supplied .ordinary))
          (Value.itemTexts (second.supplied .ordinary)) firstTokens secondTokens := by
  have rendered : (first.render .ordinary).erased = (second.render .ordinary).erased := by
    rw [← first.render_erased, ← second.render_erased, same]
  obtain ⟨samePieces, sameFault⟩ := Rendering.mk.inj rendered
  rw [first.toText_eq, second.toText_eq, ← sameFault]
  cases outcome : (first.render .ordinary).fault with
  | some fault => exact Or.inl ⟨fault, rfl, rfl⟩
  | none =>
    have firstSound : (first.render .ordinary).fails = false := by
      rw [Rendering.fails, outcome, Option.isSome_none]
    have secondSound : (second.render .ordinary).fails = false := by
      rw [Rendering.fails, ← sameFault, outcome, Option.isSome_none]
    -- What the two renderings have in them is what the two trees supply.
    have firstScalars := first.handsOver_render .ordinary firstSound
    have secondScalars := second.handsOver_render .ordinary secondSound
    obtain ⟨lexemes, lexed⟩ := first.reads_render .ordinary rawFree outcome
    have sameValues : (Lexeme.values lexemes).map Value.erased =
        (Outline.ofPieces (second.render .ordinary).pieces).values.map Value.erased := by
      rw [lexed.values, ← values_erased, ← values_erased, samePieces]
    have firstRead := (lexed.spelled .literals 1).1
    have secondRead := (lexed.spelled
      (.literalsOf (Outline.ofPieces (second.render .ordinary).pieces).values) 0).1
    have secondText := fill_literalsOf samePieces [] 1
    rw [List.nil_append, List.length_nil] at secondText
    rw [secondText] at secondRead
    have agree := agree_spell lexemes _ [] 1 sameValues
    rw [lexed.values] at agree
    rw [← firstScalars, ← secondScalars]
    exact Or.inr ⟨_, _, _, _, rfl, rfl, firstRead, secondRead, agree.length_eq, agree⟩

/-- Comparisons with a text and with an array that has a text. -/
def lookup (name tag : String) : Node :=
  .condition (.all
    [.test (.path "Name") (.relation .equal (.value (.text name)) none),
      .test (.path "Tags") (.relation .unequal (.value (.array [.text tag, .null])) none)])

/-- A text that closes its quote, goes on with an operator and ends in a comment is one
string, and so is a text in an array. -/
theorem agree_toText_lookup :
    (lookup "a" "b").isRawFree .ordinary ∧
    (lookup "a" "b").erased .ordinary = (lookup "' OR 1=1; --" "\\'").erased .ordinary ∧
    ∃ firstText secondText firstTokens secondTokens,
      (lookup "a" "b").toText = .ok firstText ∧
      firstText = "\"Name\" = 'a' AND \"Tags\" <> ARRAY['b', NULL]" ∧
      (lookup "' OR 1=1; --" "\\'").toText = .ok secondText ∧
      secondText = "\"Name\" = ''' OR 1=1; --' AND \"Tags\" <> ARRAY[E'\\\\''', NULL]" ∧
      tokens? firstText.toList = some firstTokens ∧
      tokens? secondText.toList = some secondTokens ∧
      Agree ["a", "b"] ["' OR 1=1; --", "\\'"] firstTokens secondTokens := by
  have firstText : (lookup "a" "b").toText =
      .ok "\"Name\" = 'a' AND \"Tags\" <> ARRAY['b', NULL]" := rfl
  have secondText : (lookup "' OR 1=1; --" "\\'").toText =
      .ok "\"Name\" = ''' OR 1=1; --' AND \"Tags\" <> ARRAY[E'\\\\''', NULL]" := rfl
  refine ⟨rfl, rfl, ?_⟩
  rcases (lookup "a" "b").agree_toText (lookup "' OR 1=1; --" "\\'") rfl rfl with
    ⟨fault, failed, -⟩ | ⟨_, _, firstTokens, secondTokens, first, second, firstRead, secondRead,
      -, agree⟩
  · cases firstText.symm.trans failed
  · cases firstText.symm.trans first
    cases secondText.symm.trans second
    exact ⟨_, _, firstTokens, secondTokens, firstText, rfl, secondText, rfl, firstRead,
      secondRead, agree⟩

/-- Two columns compared with texts by some operator. -/
def comparedBy (relation : Relation) (columns : String × String) (text : String) : Node :=
  .condition (.all
    [.test (.path columns.1) (.relation relation (.value (.text text)) none),
      .test (.path columns.2) (.relation relation (.value (.text "Oslo")) none)])

/-- An operator put together by hand leaves a quote open, and so does a name with a space
and no dot. The literal that comes next closes it, so that a text is read as the words
in it and not as a string, and a longer text is more words. None of the trees has a
snippet or a cast in it, or a name with a space after a dot. -/
theorem open_quotes :
    (comparedBy ⟨"= '"⟩ ("Name", "Town") "a").erased .ordinary =
      (comparedBy ⟨"= '"⟩ ("Name", "Town") "a OR c").erased .ordinary ∧
    (comparedBy ⟨"= '"⟩ ("Name", "Town") "a").toText =
      .ok "\"Name\" = ' 'a' AND \"Town\" = ' 'Oslo'" ∧
    (comparedBy ⟨"= '"⟩ ("Name", "Town") "a OR c").toText =
      .ok "\"Name\" = ' 'a OR c' AND \"Town\" = ' 'Oslo'" ∧
    tokens? "\"Name\" = ' 'a' AND \"Town\" = ' 'Oslo'".toList =
      some [.name "Name".toList, .operator ['='], .string [' '], .word ['a'],
        .string " AND \"Town\" = ".toList, .string "Oslo".toList] ∧
    tokens? "\"Name\" = ' 'a OR c' AND \"Town\" = ' 'Oslo'".toList =
      some [.name "Name".toList, .operator ['='], .string [' '], .word ['a'], .word "OR".toList,
        .word ['c'], .string " AND \"Town\" = ".toList, .string "Oslo".toList] ∧
    (comparedBy .equal ("Name '", "Town '") "a").erased .ordinary =
      (comparedBy .equal ("Name '", "Town '") "a OR c").erased .ordinary ∧
    (comparedBy .equal ("Name '", "Town '") "a").toText =
      .ok "\"Name\" ' = 'a' AND \"Town\" ' = 'Oslo'" ∧
    (comparedBy .equal ("Name '", "Town '") "a OR c").toText =
      .ok "\"Name\" ' = 'a OR c' AND \"Town\" ' = 'Oslo'" ∧
    tokens? "\"Name\" ' = 'a' AND \"Town\" ' = 'Oslo'".toList =
      some [.name "Name".toList, .string " = ".toList, .word ['a'],
        .string " AND \"Town\" ".toList, .operator ['='], .string "Oslo".toList] ∧
    tokens? "\"Name\" ' = 'a OR c' AND \"Town\" ' = 'Oslo'".toList =
      some [.name "Name".toList, .string " = ".toList, .word ['a'], .word "OR".toList,
        .word ['c'], .string " AND \"Town\" ".toList, .operator ['='], .string "Oslo".toList] :=
  ⟨rfl, rfl, rfl, by decide, by decide, rfl, rfl, rfl, by decide, by decide⟩

end SqlTree
