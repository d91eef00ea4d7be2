/-
This file puts the reading of a condition together from the readings of the
texts that it is made of. A text is a term if it is one operand of a connective:
its brackets match and no connective stands outside of them. Terms with a
connective between them read as the formulas of the terms, and a condition in
parentheses is a term again.

There are two degrees in which a text can be read. A term is one operand of any
connective, `NOT` included, so it can stand next to anything. A condition may have
connectives outside of its brackets, so it is a term only in parentheses. Both are
kept together with the formula that they read as. A condition with matching
brackets of which no formula is known can still be enclosed, and is then an
operand. The lemmas go from what a token does to what a comparison does, and each
says of a text that the library writes which of these it is.
-/

import Mathlib.Data.List.Forall2
import SqlTree.Proofs.Logic.Parts
import SqlTree.Proofs.Reading.Seam
import SqlTree.Tree.Write

namespace SqlTree.Logic

open Reading

/-- The text reads as the formula and is one operand of a connective. -/
def ReadsAsTerm (text : String) (formula : Formula (List Token)) : Prop :=
  ∃ tokens parts, Reads text.toList tokens ∧ Bracketed tokens parts ∧
    Position.initial.walk parts = some .final ∧ startsStatement parts = false ∧
    readComparison parts = formula

/-- The text is one operand of a connective, whatever it reads as. -/
def IsTerm (text : String) : Prop :=
  ∃ formula, ReadsAsTerm text formula

/-- The text reads as the formula, but connectives may stand outside of brackets. -/
def ReadsAsCondition (text : String) (formula : Formula (List Token)) : Prop :=
  ∃ tokens parts, Reads text.toList tokens ∧ Bracketed tokens parts ∧
    startsStatement parts = false ∧ readParts parts = some formula

/-- The text can stand in parentheses, whatever it says. -/
def IsEnclosable (text : String) : Prop :=
  ∃ tokens, Reads text.toList tokens ∧ Balanced tokens

/-- Tokens of a text that is one operand of a connective. -/
def TermTokens (tokens : List Token) : Prop :=
  ∃ parts, Bracketed tokens parts ∧ Position.initial.walk parts = some .final ∧
    startsStatement parts = false

/-- Tokens that are walked as one operand are a term. -/
theorem TermTokens.isTerm {text : String} {tokens : List Token} (term : TermTokens tokens)
    (scanned : Reads text.toList tokens) : IsTerm text := by
  obtain ⟨parts, bracketed, walked, noStatement⟩ := term
  exact ⟨_, tokens, parts, scanned, bracketed, walked, noStatement, rfl⟩

/-- A term has matching brackets. -/
theorem ReadsAsTerm.isEnclosable {text : String} {formula : Formula (List Token)}
    (reads : ReadsAsTerm text formula) : IsEnclosable text := by
  obtain ⟨tokens, parts, scanned, bracketed, -⟩ := reads
  exact ⟨tokens, scanned, bracketed.balanced⟩

/-- A term is a condition. -/
theorem ReadsAsTerm.condition {text : String} {formula : Formula (List Token)}
    (reads : ReadsAsTerm text formula) : ReadsAsCondition text formula := by
  obtain ⟨tokens, parts, scanned, bracketed, walked, noStatement, rfl⟩ := reads
  refine ⟨tokens, parts, scanned, bracketed, noStatement, ?_⟩
  have cut := split_append [] walked
  rw [List.append_nil] at cut
  rw [readParts, cut]
  show some (Formula.chain (readComparison (parts ++ [])) []) = _
  rw [List.append_nil, Formula.chain]

/-- A condition is read as its formula. -/
theorem ReadsAsCondition.readText {text : String} {formula : Formula (List Token)}
    (reads : ReadsAsCondition text formula) : readText text = some formula := by
  obtain ⟨tokens, parts, scanned, bracketed, -, whole⟩ := reads
  have scannedText : tokens? text.toList = some tokens := scanned
  rw [Logic.readText, scannedText]
  show (Logic.assemble [] [] tokens).bind readParts = _
  rw [bracketed.assemble]
  exact whole

/-- No condition is without text. -/
theorem ReadsAsCondition.ne_empty {text : String} {formula : Formula (List Token)}
    (reads : ReadsAsCondition text formula) : text ≠ "" := by
  rintro rfl
  have nothing : Logic.readText "" = none := by decide
  rw [reads.readText] at nothing
  cases nothing

/-! ### Parentheses and negations -/

/-- Parentheses keep a text apart from its neighbours. -/
theorem separates_parenthesized {text : String} {tokens : List Token}
    (reads : Reads text.toList tokens) :
    Separates (parenthesizedText text).toList (.mark '(' :: tokens ++ [.mark ')']) := by
  rw [parenthesizedText, String.toList_append, String.toList_append]
  have opening : Separates "(".toList [.mark '('] := ⟨rfl, '(', rfl, rfl⟩
  have closing : Separates ")".toList [.mark ')'] := ⟨rfl, ')', rfl, rfl⟩
  exact (opening.append_reads reads).append_separates closing

/-- They make one part of it. -/
theorem bracketed_parenthesized {tokens : List Token} {parts : List Part}
    (bracketed : Bracketed tokens parts) :
    Bracketed (.mark '(' :: tokens ++ [.mark ')'])
      [enclose .parentheses (.mark '(') parts (.mark ')')] :=
  .group rfl rfl bracketed .nil

/-- Anything with matching brackets is an operand in parentheses. -/
theorem IsEnclosable.isTerm_parenthesized {text : String} (enclosable : IsEnclosable text) :
    IsTerm (parenthesizedText text) := by
  obtain ⟨tokens, scanned, balanced⟩ := enclosable
  obtain ⟨parts, bracketed⟩ := Bracketed.exists_of_balanced balanced
  exact ⟨_, _, _, (separates_parenthesized scanned).1.reads, bracketed_parenthesized bracketed,
    rfl, rfl, rfl⟩

/-- The parentheses around a condition that reads as a formula. -/
theorem enclose_eq {parts : List Part} {formula : Formula (List Token)}
    (noStatement : startsStatement parts = false) (whole : readParts parts = some formula)
    (opening closing : Token) :
    enclose .parentheses opening parts closing =
      .group (opening :: parts.flatMap Part.tokens ++ [closing]) (some formula) := by
  rw [enclose, noStatement, whole]
  rfl

/-- A condition in parentheses is a term of the same formula. -/
theorem ReadsAsCondition.parenthesized {text : String} {formula : Formula (List Token)}
    (reads : ReadsAsCondition text formula) : ReadsAsTerm (parenthesizedText text) formula := by
  obtain ⟨tokens, parts, scanned, bracketed, noStatement, whole⟩ := reads
  refine ⟨_, _, (separates_parenthesized scanned).1.reads, bracketed_parenthesized bracketed,
    rfl, rfl, ?_⟩
  rw [enclose_eq noStatement whole]
  rfl

/-- A negation with parentheses is a term. -/
theorem ReadsAsCondition.negation {text : String} {formula : Formula (List Token)}
    (reads : ReadsAsCondition text formula) :
    ReadsAsTerm ("NOT " ++ parenthesizedText text) (.negation formula) := by
  obtain ⟨tokens, parts, scanned, bracketed, noStatement, whole⟩ := reads
  have keyword : Opens "NOT ".toList [.word "NOT".toList] := rfl
  refine ⟨.word "NOT".toList :: _, _, ?_,
    .token rfl (bracketed_parenthesized bracketed), rfl, rfl, ?_⟩
  · rw [String.toList_append]
    exact (keyword.append_opens (separates_parenthesized scanned).1).reads
  · rw [enclose_eq noStatement whole]
    rfl

/-- A word with parentheses behind it. -/
theorem IsEnclosable.isTerm_call {name text : String} {token : Token}
    (enclosable : IsEnclosable text) (scanned : Reads name.toList [token])
    (unbracketed : isUnbracketed token)
    (walked : Position.initial.after token = some .final)
    (noStatement : ["select", "with", "table", "values"].any (isKeyword · token) = false) :
    IsTerm (name ++ parenthesizedText text) := by
  obtain ⟨tokens, inner, balanced⟩ := enclosable
  obtain ⟨parts, bracketed⟩ := Bracketed.exists_of_balanced balanced
  refine TermTokens.isTerm
    ⟨_, .token unbracketed (bracketed_parenthesized bracketed), ?_, noStatement⟩ ?_
  · have stepped : Position.initial.next (.token token) = some .final := walked
    rw [Position.walk_cons, stepped]
    rfl
  · rw [String.toList_append]
    exact scanned.append_follows (separates_parenthesized inner).follows

theorem IsEnclosable.isTerm_exists {text : String} (enclosable : IsEnclosable text) :
    IsTerm ("EXISTS " ++ parenthesizedText text) := by
  have scanned : Reads "EXISTS ".toList [.word "EXISTS".toList] := rfl
  exact enclosable.isTerm_call scanned rfl rfl rfl

/-- An array is an operand, whatever its items are. -/
theorem IsEnclosable.isTerm_array {text : String} (enclosable : IsEnclosable text) :
    IsTerm ("ARRAY[" ++ text ++ "]") := by
  obtain ⟨tokens, inner, balanced⟩ := enclosable
  obtain ⟨parts, bracketed⟩ := Bracketed.exists_of_balanced balanced
  have opening : Opens "ARRAY[".toList [.word "ARRAY".toList, .mark '['] := rfl
  have closing : Separates "]".toList [.mark ']'] := ⟨rfl, ']', rfl, rfl⟩
  have array : Bracketed (.word "ARRAY".toList :: (.mark '[' :: tokens ++ [.mark ']']))
      [.token (.word "ARRAY".toList), enclose .square (.mark '[') parts (.mark ']')] :=
    .token rfl (.group rfl rfl bracketed .nil)
  refine TermTokens.isTerm ⟨_, array, rfl, rfl⟩ ?_
  rw [String.toList_append, String.toList_append]
  exact ((opening.append_reads inner).append_separates closing).reads

/-! ### Operands and what stands between them -/

/-- The text leads from one position in a comparison to another. -/
def Walks (start : Position) (text : String) (finish : Position) : Prop :=
  ∃ tokens parts, Reads text.toList tokens ∧ Bracketed tokens parts ∧
    start.walk parts = some finish

/-- The text has tokens without brackets, leads from one position to another, and
may stand between any two texts. -/
def isLink (start : Position) (text : String) (finish : Position) : Bool :=
  match scan .gap text.toList with
  | some (.gap, token :: rest) =>
    text.toList.head?.any isSeparator &&
      (token :: rest).all isUnbracketed &&
      start.walk ((token :: rest).map .token) = some finish
  | _ => false

/-- A link is a text of the library between two operands. What it does to a walk is
found out by running it. -/
theorem isLink_cases {start finish : Position} {text : String} (link : isLink start text finish) :
    ∃ token rest, Separates text.toList (token :: rest) ∧
      Bracketed (token :: rest) ((token :: rest).map .token) ∧
      start.walk ((token :: rest).map .token) = some finish := by
  unfold isLink at link
  split at link
  · next token rest scanned =>
    obtain ⟨outside, walked⟩ := Bool.and_eq_true_iff.mp link
    obtain ⟨separated, plain⟩ := Bool.and_eq_true_iff.mp outside
    obtain ⟨char, head, separator⟩ := (Option.any_eq_true _ _).mp separated
    exact ⟨token, rest, ⟨scanned, char, head, separator⟩, .of_all plain, of_decide_eq_true walked⟩
  · cases link

/-- A term is walked from where an operand is expected to where it is complete. -/
theorem IsTerm.walks {text : String} (term : IsTerm text) : Walks .initial text .final := by
  obtain ⟨_, tokens, parts, scanned, bracketed, walked, -⟩ := term
  exact ⟨tokens, parts, scanned, bracketed, walked⟩

/-- So is it inside of ranges. -/
theorem Walks.within {start finish : Position} {text : String} (walks : Walks start text finish)
    (count : Nat) : Walks (start.within count) text (finish.within count) := by
  obtain ⟨tokens, parts, scanned, bracketed, walked⟩ := walks
  exact ⟨tokens, parts, scanned, bracketed, Position.walk_within count walked⟩

/-- A text with a link and another text behind it has their parts one after another. -/
theorem link_spans {middle next : Position} {first separator second : String}
    {tokens otherTokens : List Token} {parts otherParts : List Part}
    (scanned : Reads first.toList tokens) (bracketed : Bracketed tokens parts)
    (link : isLink middle separator next) (otherScanned : Reads second.toList otherTokens)
    (otherBracketed : Bracketed otherTokens otherParts) :
    ∃ whole token more, Reads (first ++ (separator ++ second)).toList whole ∧
      Bracketed whole (parts ++ .token token :: (more ++ otherParts)) ∧
      middle.walk (.token token :: more) = some next := by
  obtain ⟨token, rest, separates, plain, stepped⟩ := isLink_cases link
  refine ⟨tokens ++ (token :: rest ++ otherTokens), token, rest.map Part.token, ?_,
    bracketed.append (plain.append otherBracketed), stepped⟩
  rw [String.toList_append, String.toList_append]
  exact scanned.append_follows (separates.append_reads otherScanned)

/-- An operand, a link and what follows it, as one walk. -/
theorem link_parts {start middle next finish : Position} {first separator second : String}
    {tokens : List Token} {parts : List Part} (scanned : Reads first.toList tokens)
    (bracketed : Bracketed tokens parts) (walked : start.walk parts = some middle)
    (link : isLink middle separator next) (tail : Walks next second finish) :
    ∃ whole token more, Reads (first ++ (separator ++ second)).toList whole ∧
      Bracketed whole (parts ++ .token token :: more) ∧
      start.walk (parts ++ .token token :: more) = some finish := by
  obtain ⟨others, otherParts, otherScanned, otherBracketed, otherWalked⟩ := tail
  obtain ⟨whole, token, more, wholeScanned, wholeBracketed, stepped⟩ :=
    link_spans scanned bracketed link otherScanned otherBracketed
  refine ⟨whole, token, more ++ otherParts, wholeScanned, wholeBracketed, ?_⟩
  rw [Position.walk_append _ walked]
  exact (Position.walk_append otherParts stepped).trans otherWalked

/-- The same without the parts. -/
theorem Walks.link {start middle next finish : Position} {first separator second : String}
    (head : Walks start first middle) (link : isLink middle separator next)
    (tail : Walks next second finish) : Walks start (first ++ (separator ++ second)) finish := by
  obtain ⟨tokens, parts, scanned, bracketed, walked⟩ := head
  obtain ⟨whole, token, more, wholeScanned, wholeBracketed, wholeWalked⟩ :=
    link_parts scanned bracketed walked link tail
  exact ⟨whole, _, wholeScanned, wholeBracketed, wholeWalked⟩

theorem ne_nil_of_walk {parts : List Part} (walked : Position.initial.walk parts = some .final) :
    parts ≠ [] := by
  rintro rfl
  cases walked

/-- What comes behind the first part does not make a statement of it. -/
theorem startsStatement_append {parts : List Part} (noStatement : startsStatement parts = false)
    (present : parts ≠ []) (token : Token) (more : List Part) :
    startsStatement (parts ++ .token token :: more) = false := by
  cases parts with
  | nil => exact absurd rfl present
  | cons part rest =>
    cases part with
    | group tokens reading => rfl
    | token first =>
      cases rest with
      | nil => exact noStatement
      | cons second others =>
        cases second with
        | token other => exact noStatement
        | group tokens reading => exact noStatement

/-! ### Comparisons -/

/-- The text makes a term of every term in front of it. -/
def IsPredicate (text : String) : Prop :=
  ∃ keyword next rest, text = keyword ++ rest ∧ isLink .final (" " ++ keyword) next ∧
    Walks next rest .final

/-- A column with a predicate behind it is a term. -/
theorem IsTerm.predicate {column text : String} (term : IsTerm column)
    (predicate : IsPredicate text) : IsTerm (column ++ " " ++ text) := by
  obtain ⟨_, tokens, parts, scanned, bracketed, walked, noStatement, -⟩ := term
  obtain ⟨keyword, next, rest, rfl, link, tail⟩ := predicate
  obtain ⟨whole, token, more, wholeScanned, wholeBracketed, wholeWalked⟩ :=
    link_parts scanned bracketed walked link tail
  refine ⟨_, whole, _, ?_, wholeBracketed, wholeWalked,
    startsStatement_append noStatement (ne_nil_of_walk walked) token more, rfl⟩
  have joined : " " ++ (keyword ++ rest) = " " ++ keyword ++ rest := String.append_assoc.symm
  rw [String.append_assoc, joined]
  exact wholeScanned

theorem IsTerm.isPredicate {keyword operand : String} (term : IsTerm operand)
    (link : isLink .final (" " ++ keyword) .initial) : IsPredicate (keyword ++ operand) :=
  ⟨keyword, .initial, operand, rfl, link, term.walks⟩

theorem isPredicate_nullity (negated : Bool) : IsPredicate (nullityText negated) := by
  cases negated with
  | false =>
    exact ⟨"IS ", .final, "NULL", rfl, rfl, [.word "NULL".toList], [.token _], rfl,
      .token rfl .nil, rfl⟩
  | true =>
    exact ⟨"IS ", .final, "NOT NULL", rfl, rfl, [.word "NOT".toList, .word "NULL".toList],
      [.token _, .token _], rfl, .token rfl (.token rfl .nil), rfl⟩

/-- The `AND` of a range is a link and no connective. -/
theorem isPredicate_between {low high : String} (lowTerm : IsTerm low) (highTerm : IsTerm high) :
    IsPredicate ("BETWEEN " ++ low ++ " AND " ++ high) := by
  refine ⟨"BETWEEN ", Position.initial.within 1, low ++ (" AND " ++ high), ?_, rfl,
    (lowTerm.walks.within 1).link rfl highTerm.walks⟩
  rw [String.append_assoc, String.append_assoc]

/-- Items that can stand in parentheses can stand there one after another. -/
theorem isEnclosable_commaText {texts : List String}
    (enclosable : ∀ text ∈ texts, IsEnclosable text) : IsEnclosable (commaText texts) := by
  induction texts with
  | nil => exact ⟨[], rfl, .nil⟩
  | cons text rest inductionHypothesis =>
    obtain ⟨⟨tokens, scanned, balanced⟩, others⟩ := List.forall_mem_cons.mp enclosable
    cases rest with
    | nil =>
      rw [commaText, String.intercalate_singleton]
      exact ⟨tokens, scanned, balanced⟩
    | cons next following =>
      obtain ⟨more, moreScanned, moreBalanced⟩ := inductionHypothesis others
      have comma : Separates ", ".toList [.mark ','] := ⟨rfl, ',', rfl, rfl⟩
      refine ⟨tokens ++ (.mark ',' :: more), ?_, balanced.append (.token rfl moreBalanced)⟩
      rw [commaText, String.intercalate_cons_cons, String.append_assoc, String.toList_append,
        String.toList_append]
      exact scanned.append_follows (comma.append_reads moreScanned)

/-! ### Connectives -/

/-- What stands between the members of a group. -/
def separator : Connective → String
  | .all => " AND "
  | .any => " OR "

/-- The token of a connective. -/
def keyword : Connective → Token
  | .all => .word "AND".toList
  | .any => .word "OR".toList

/-- A connective has spaces on both sides. -/
theorem separates_separator (connective : Connective) :
    Separates (separator connective).toList [keyword connective] := by
  cases connective with
  | all => exact ⟨rfl, ' ', rfl, rfl⟩
  | any => exact ⟨rfl, ' ', rfl, rfl⟩

theorem bracketed_keyword (connective : Connective) :
    Bracketed [keyword connective] [.token (keyword connective)] := by
  cases connective with
  | all => exact .token rfl .nil
  | any => exact .token rfl .nil

/-- Where an operand is complete, a connective cuts. -/
theorem split_keyword (connective : Connective) (rest : List Part) :
    split .final (.token (keyword connective) :: rest) =
      (split .initial rest).map fun (first, others) => ([], (connective, first) :: others) := by
  cases connective with
  | all => cases cut : split .initial rest <;> simp only [split, cut] <;> rfl
  | any => cases cut : split .initial rest <;> simp only [split, cut] <;> rfl

/-- Terms with a connective between them are cut into the terms again. -/
theorem split_terms (connective : Connective) {first : String} {formula : Formula (List Token)}
    (head : ReadsAsTerm first formula) {rest : List String}
    {formulas : List (Formula (List Token))} (tail : List.Forall₂ ReadsAsTerm rest formulas) :
    ∃ tokens parts firstParts others,
      Reads ((separator connective).intercalate (first :: rest)).toList tokens ∧
      Bracketed tokens parts ∧ startsStatement parts = false ∧
      split .initial parts = some (firstParts, others) ∧ readComparison firstParts = formula ∧
      others.map (fun other => (other.1, readComparison other.2)) =
        formulas.map fun formula => (connective, formula) := by
  obtain ⟨tokens, parts, scanned, bracketed, walked, noStatement, same⟩ := head
  -- The texts after the first are cut on their own; the connective before them ends the first.
  induction tail generalizing first formula tokens parts with
  | nil =>
    refine ⟨tokens, parts, parts, [], ?_, bracketed, noStatement, ?_, same, rfl⟩
    · rw [String.intercalate_singleton]
      exact scanned
    · have cut := split_append [] walked
      rw [List.append_nil] at cut
      rw [cut]
      show some (parts ++ [], []) = _
      rw [List.append_nil]
  | @cons next nextFormula following formulas nextReads _ inductionHypothesis =>
    obtain ⟨nextTokens, nextParts, nextScanned, nextBracketed, nextWalked, nextNoStatement,
      nextSame⟩ := nextReads
    obtain ⟨more, moreParts, cutFirst, others, moreScanned, moreBracketed, -, cut, cutSame,
      othersSame⟩ := inductionHypothesis nextTokens nextParts nextScanned nextBracketed nextWalked
        nextNoStatement nextSame
    refine ⟨tokens ++ ([keyword connective] ++ more),
      parts ++ .token (keyword connective) :: moreParts, parts, (connective, cutFirst) :: others,
      ?_, bracketed.append ((bracketed_keyword connective).append moreBracketed),
      startsStatement_append noStatement (ne_nil_of_walk walked) _ _, ?_, same, ?_⟩
    · rw [String.intercalate_cons_cons, String.append_assoc, String.toList_append,
        String.toList_append]
      exact scanned.append_follows ((separates_separator connective).append_reads moreScanned)
    · rw [split_append _ walked, split_keyword, cut]
      show some (parts ++ [], _) = _
      rw [List.append_nil]
    · rw [List.map_cons, List.map_cons, cutSame, othersSame]

/-- Terms with connectives between them are read as the chain of their formulas. -/
theorem readsAsCondition_terms (connective : Connective) {first : String}
    {formula : Formula (List Token)} (head : ReadsAsTerm first formula) {rest : List String}
    {formulas : List (Formula (List Token))} (tail : List.Forall₂ ReadsAsTerm rest formulas) :
    ReadsAsCondition ((separator connective).intercalate (first :: rest))
      (.chain formula (formulas.map fun formula => (connective, formula))) := by
  obtain ⟨tokens, parts, firstParts, others, scanned, bracketed, noStatement, cut, same,
    othersSame⟩ := split_terms connective head tail
  refine ⟨tokens, parts, scanned, bracketed, noStatement, ?_⟩
  rw [readParts, cut]
  show some (Formula.chain (readComparison firstParts) (others.map _)) = _
  rw [same, othersSame]

end SqlTree.Logic
