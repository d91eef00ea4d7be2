/-
This file proves that a condition without SQL of its own has opaque leaves, if
no condition stands where an operand should. Names, scalars, lists and
statements are operands of connectives in the text as well, whichever sink the
statement is written into.

The hypothesis of the results on meaning is about texts in every state of a sink.
Here it is traced back to the tree. A sink spells a scalar as one operand, in
literals and in placeholders; a path is a chain of names, which is one operand; a
list stands in its brackets and a statement in its parentheses. So nothing is left
to ask of a tree but two things that can be seen on it: that it has no SQL of its
own, and that no condition stands in the place of an operand.
-/

import SqlTree.Proofs.Injection
import SqlTree.Proofs.Meaning
import SqlTree.Proofs.Placeholders

namespace SqlTree

open Logic Reading Writing

/-! ### Names -/

/-- A name is a complete operand. -/
theorem after_nameToken (name : List Char) :
    Position.initial.after (nameToken name) = some .final := by
  have keyword {word : String} (reserved : Quote.isReserved word) :
      isKeyword word (nameToken name) = false :=
    isKeyword_nameToken reserved name
  have noKeyword : ["in", "like", "ilike", "any", "all", "some"].all
      (fun word => !isKeyword word (nameToken name)) := by
    have reserved : ∀ word ∈ ["in", "like", "ilike", "any", "all", "some"],
        Quote.isReserved word := by
      decide +kernel
    refine List.all_eq_true.mpr fun word member => ?_
    rw [keyword (reserved word member)]
    rfl
  have completes : Position.completes false (nameToken name) = true := by
    revert noKeyword
    rw [nameToken]
    split
    · exact id
    · exact fun _ => rfl
  rw [Position.after, keyword (by decide +kernel), keyword (by decide +kernel),
    keyword (by decide +kernel)]
  show (if (isKeyword "between" (nameToken name) && false) = true then _ else
    some (Position.mk (Position.completes false (nameToken name)) 0)) = _
  rw [Bool.and_false, completes]
  rfl

/-- No name begins a statement: a keyword that is a name is in quotes. -/
theorem startsStatement_nameToken (name : List Char) :
    startsStatement [.token (nameToken name)] = false := by
  refine List.any_eq_false.mpr fun word member => ?_
  have reserved : ∀ word ∈ ["select", "with", "table"], Quote.isReserved word := by
    decide +kernel
  rw [isKeyword_nameToken (reserved word member)]
  exact Bool.false_ne_true

/-- A chain of names is one operand. -/
theorem walk_of_pathTokens {tokens : List Token} (path : PathTokens tokens) :
    Position.initial.walk (tokens.map .token) = some .final ∧
      startsStatement (tokens.map .token) = false := by
  induction path with
  | name name =>
    exact ⟨congrArg (Option.bind · pure) (after_nameToken name), startsStatement_nameToken name⟩
  | star | excluded => exact ⟨rfl, rfl⟩
  | point _ _ firstHypothesis secondHypothesis =>
    obtain ⟨walked, noStatement⟩ := firstHypothesis
    rw [List.map_append, List.map_cons]
    refine ⟨?_, startsStatement_append noStatement (ne_nil_of_walk walked) _ _⟩
    rw [Position.walk_append _ walked]
    exact secondHypothesis.1

theorem isTerm_of_isChain {text : String} (chain : Rendering.IsChain text) : IsTerm text := by
  obtain ⟨tokens, chain, path⟩ := chain
  have term : TermTokens tokens := ⟨_, .of_all path.all_isUnbracketed, walk_of_pathTokens path⟩
  exact term.isTerm chain.reads

/-- So is a path without a trailer. -/
theorem isTerm_quotePath {path : String} (plain : isPlainPath path) : IsTerm (quotePath path) :=
  isTerm_of_isChain (Rendering.isChain_quotePath plain)

theorem isTerm_quoteName (name : String) : IsTerm (quoteName name) := by
  refine isTerm_of_isChain ⟨_, ?_, .name name.toList⟩
  rw [quoteName, String.toList_ofList]
  exact chain_nameChars name.toList

/-! ### Scalars -/

/-- A literal is one operand, an array with its brackets. -/
theorem termTokens_literalTokens (value : Value) : TermTokens (literalTokens value) := by
  cases value with
  | null | bool _ | integer _ | float _ | text _ | bytes _ | timestamp _ | uuid _ =>
    exact ⟨[.token _], .token rfl .nil, rfl, rfl⟩
  | json _ =>
    exact ⟨[.token _, .token _, .token _, .token _],
      .token rfl (.token rfl (.token rfl (.token rfl .nil))), rfl, rfl⟩
  | array items =>
    obtain ⟨parts, inner⟩ := Bracketed.exists_of_balanced (balanced_itemTokens items)
    have group : Bracketed (.mark '[' :: [.mark ','].intercalate (itemTokens items) ++ [.mark ']'])
        [enclose .square (.mark '[') parts (.mark ']')] :=
      .group rfl rfl inner .nil
    exact ⟨_, .token rfl group, rfl, rfl⟩

theorem termTokens_parameter (number : Nat) : TermTokens [.parameter number] :=
  ⟨[.token _], .token rfl .nil, rfl, rfl⟩

/-! ### Sinks -/

variable {State : Type} {sink : Sink State}

/-- What the sink makes of a rendering is its text with every scalar spelled, and
a spelled scalar is one operand. -/
def Sink.Spells (sink : Sink State) : Prop :=
  ∀ (rendering : Rendering) (state : State) (text : String) (after : State),
    (rendering.writeTo sink).start state = (.ok text, after) →
      rendering.fault = none ∧ ∃ (spelling : Spelling) (number : Nat),
        (∀ number value, TermTokens (spelling.tokens number value)) ∧
        text = (Outline.ofPieces rendering.pieces).fill spelling.text number

/-- Literals are spelled as operands. -/
theorem spells_inline : Sink.inline.Spells := by
  intro rendering state text after written
  rw [(rendering.start_writeTo .empty).1] at written
  cases fault : rendering.fault with
  | some fault =>
    rw [fault] at written
    cases written
  | none =>
    rw [fault] at written
    cases written
    exact ⟨rfl, .literals, 1, fun _ => termTokens_literalTokens, rfl⟩

/-- So are placeholders, from any list on. -/
theorem spells_parameters : Sink.parameters.Spells := by
  intro rendering state text after written
  rw [(rendering.start_writeTo state).2] at written
  cases fault : rendering.fault with
  | some fault =>
    rw [fault] at written
    cases written
  | none =>
    rw [fault] at written
    cases written
    exact ⟨rfl, .placeholders, _, fun number _ => termTokens_parameter number, rfl⟩

/-! ### Operands that are no conditions -/

mutual

/-- Whether the operand is a scalar, a row, an array or a statement. -/
def Operand.isScalar : Operand → Bool
  | .value _ | .list _ => true
  | .node inner => inner.isStatement || inner.isScalar

/-- Whether the node is a scalar as it stands. -/
def Node.isScalar : Node → Bool
  | .identifier identifier => !identifier.only
  | .literal _ | .jsonObject _ => true
  | .unresolved operand => operand.isScalar
  | _ => false

end

/-- Whether no condition stands among the operands of a comparison. In a list it would
have brackets around it. -/
def Comparison.hasScalars : Comparison → Bool
  | .relation _ operand _ => operand.isScalar
  | .like pattern _ => pattern.isScalar
  | .between low high => low.isScalar && high.isScalar
  | .nullity _ | .membership _ _ => true

mutual

/-- Whether no condition of the condition stands where an operand should. -/
def Condition.hasScalars : Condition → Bool
  | .all members | .any members => haveScalars members
  | .negation inner => inner.hasScalars
  | .existence _ => true
  | .test column comparison => column.isScalar && comparison.hasScalars
  | .plain node => node.isScalar

/-- The members of a group. -/
def haveScalars : List Condition → Bool
  | [] => true
  | member :: rest => member.hasScalars && haveScalars rest

end

/-- A fixed text is an operand in every state of the sink. -/
theorem always_isTerm_ofText {text : String} (term : IsTerm text) :
    ((Rendering.ofText text).writeTo sink).Always IsTerm := by
  intro state other after written
  rw [Rendering.writeTo_ofText] at written
  cases written
  exact term

section Spelled

variable (spells : sink.Spells)
include spells

/-- A rendering that can be read has matching brackets in every state. -/
theorem always_isEnclosable {rendering : Rendering} (reads : rendering.Reads) :
    (rendering.writeTo sink).Always IsEnclosable := by
  intro state text after written
  obtain ⟨sound, spelling, number, -, rfl⟩ := spells rendering state text after written
  obtain ⟨lexemes, lexed⟩ := reads sound
  obtain ⟨scanned, balanced⟩ := lexed.spelled spelling number
  exact ⟨_, scanned, balanced⟩

theorem always_isTerm_value (value : Value) : (sink.write value).Always IsTerm := by
  intro state text after written
  rw [← Rendering.writeTo_ofValue] at written
  obtain ⟨-, spelling, number, terms, rfl⟩ := spells _ state text after written
  have single : (Outline.ofPieces [.value value]).fill spelling.text number =
      spelling.text number value := by
    rw [Outline.fill_value]
    exact String.append_empty
  rw [Rendering.ofValue, single]
  exact (terms number value).isTerm (spelling.reads number value)

/-- A scalar that is spelled as an operand is not spelled as nothing. -/
theorem Sink.Spells.answers : sink.Answers where
  bind_ne_empty state value := by
    obtain ⟨_, reads⟩ := always_isTerm_value spells value state _ _ (start_write sink value state)
    exact reads.condition.ne_empty

/-- In parentheses such a rendering is one operand. -/
theorem always_isTerm_parenthesized {rendering : Rendering} (reads : rendering.Reads) :
    ((Rendering.parenthesized rendering).writeTo sink).Always IsTerm := by
  intro state text after written
  rw [Rendering.writeTo_parenthesized] at written
  obtain ⟨inner, middle, innerWritten, whole⟩ := start_bind_ok.mp written
  cases whole
  exact (always_isEnclosable spells reads _ _ _ innerWritten).isTerm_parenthesized

/-- A list is one operand in either form. -/
theorem always_isTerm_listed (form : ListForm) {items : List Rendering}
    (read : ∀ item ∈ items, item.Reads) :
    ((Rendering.listed form items).writeTo sink).Always IsTerm := by
  have inside := Rendering.reads_commaSeparated read
  cases form with
  | row => exact always_isTerm_parenthesized spells inside
  | array =>
    intro state text after written
    rw [Rendering.listed, Rendering.writeTo_append, Rendering.writeTo_append,
      Rendering.writeTo_ofText, Rendering.writeTo_ofText] at written
    simp only [pure_bind, bind_assoc] at written
    obtain ⟨inner, middle, innerWritten, whole⟩ := start_bind_ok.mp written
    cases whole
    exact (always_isEnclosable spells inside _ _ _ innerWritten).isTerm_array

/-- A scalar as a name, unless it has none. -/
theorem Value.always_isTerm_renderName (value : Value) (rawFree : value.isRawFreeName) :
    (value.renderName.writeTo sink).Always IsTerm := by
  cases value with
  | null | bytes _ | json _ =>
    intro state text after written
    cases written
  | bool _ | integer _ | float _ | timestamp _ | uuid _ =>
    exact always_isTerm_ofText (isTerm_quoteName _)
  | text path => exact always_isTerm_ofText (isTerm_quotePath rawFree)
  | array items =>
    exact always_isTerm_listed spells .row (Value.reads_renderItemNames items rawFree)

mutual

/-- An operand where a value is wanted. -/
theorem Operand.always_isTerm_renderValue (context : Context) (form : ListForm)
    (operand : Operand) (rawFree : operand.isRawFreeValue context) (scalar : operand.isScalar) :
    ((operand.renderValue context form).writeTo sink).Always IsTerm := by
  match operand with
  | .value value =>
    rw [Operand.renderValue, Rendering.writeTo_ofValue]
    exact always_isTerm_value spells value
  | .list items =>
    exact always_isTerm_listed spells form (reads_renderValues context form items rawFree)
  | .node (.unresolved inner) =>
    have innerScalar : inner.isScalar := scalar
    rw [Operand.isRawFreeValue] at rawFree
    rw [Operand.renderValue]
    split
    · next names =>
      rw [if_pos names] at rawFree
      exact inner.always_isTerm_renderName context rawFree innerScalar
    · next values =>
      rw [if_neg values] at rawFree
      exact inner.always_isTerm_renderValue context form rawFree innerScalar
  | .node (.identifier _) | .node (.literal _) | .node (.jsonObject _) =>
    exact Node.always_isTerm_render context _ rawFree scalar
  | .node (.select _) | .node (.insert _) | .node (.update _) | .node (.delete _) =>
    exact always_isTerm_parenthesized spells (Node.reads_render .ordinary _ rawFree)
  | .node (.snippet _) | .node (.renamed _) | .node (.condition _) | .node (.comparison _)
  | .node (.values _) | .node (.sources _) | .node (.join _) => cases scalar

/-- An operand where a name is wanted. -/
theorem Operand.always_isTerm_renderName (context : Context) (operand : Operand)
    (rawFree : operand.isRawFreeName context) (scalar : operand.isScalar) :
    ((operand.renderName context).writeTo sink).Always IsTerm := by
  match operand with
  | .value value => exact value.always_isTerm_renderName spells rawFree
  | .list items =>
    exact always_isTerm_listed spells .row (reads_renderNames context items rawFree)
  | .node inner =>
    rw [Operand.isRawFreeName] at rawFree
    rw [Operand.renderName]
    split
    · next statement =>
      rw [if_pos statement] at rawFree
      exact always_isTerm_parenthesized spells (inner.reads_render .ordinary rawFree)
    · next other =>
      rw [if_neg other] at rawFree
      rw [Operand.isScalar, Bool.eq_false_iff.mpr other, Bool.false_or] at scalar
      exact inner.always_isTerm_render context rawFree scalar

/-- A node that is no condition, or a statement in its parentheses. -/
theorem Node.always_isTerm_render (context : Context) (node : Node)
    (rawFree : node.isRawFree context) (scalar : node.isScalar) :
    ((node.render context).writeTo sink).Always IsTerm := by
  match node with
  | .identifier ⟨path, true⟩ => cases scalar
  | .identifier ⟨path, false⟩ =>
    have text : Identifier.text ⟨path, false⟩ = quotePath path := String.empty_append
    rw [Node.render, Identifier.render, text]
    exact always_isTerm_ofText (isTerm_quotePath rawFree)
  | .literal literal =>
    rw [Node.render, Literal.render, Option.isNone_iff_eq_none.mp rawFree]
    rw [Rendering.writeTo_ofValue]
    exact always_isTerm_value spells literal.value
  | .jsonObject ⟨items, qualifier, binary⟩ =>
    have inside :=
      Rendering.reads_commaSeparated (reads_renderItems context qualifier items rawFree)
    intro state text after written
    rw [Node.render, JsonObject.render, Rendering.writeTo_append, Rendering.writeTo_ofText,
      Rendering.writeTo_parenthesized] at written
    simp only [pure_bind, bind_assoc] at written
    obtain ⟨inner, middle, innerWritten, whole⟩ := start_bind_ok.mp written
    cases whole
    have enclosable := always_isEnclosable spells inside _ _ _ innerWritten
    cases binary with
    | false =>
      have named : Reads "json_build_object".toList [.word "json_build_object".toList] := rfl
      exact enclosable.isTerm_call named rfl rfl rfl
    | true =>
      have named : Reads "jsonb_build_object".toList [.word "jsonb_build_object".toList] := rfl
      exact enclosable.isTerm_call named rfl rfl rfl
  | .unresolved _ =>
    intro state text after written
    cases written
  | .snippet _ | .renamed _ | .condition _ | .comparison _ | .values _ | .sources _ | .join _
  | .select _ | .insert _ | .update _ | .delete _ => cases scalar

end

theorem always_isEnclosable_items {context : Context} (items : List Operand)
    (rawFree : areRawFreeValues context items) :
    ∀ item ∈ items, (item.writeValue sink context .row).Always IsEnclosable := by
  induction items with
  | nil => exact fun _ member => absurd member List.not_mem_nil
  | cons item rest inductionHypothesis =>
    have answers := spells.answers
    obtain ⟨first, others⟩ := Bool.and_eq_true_iff.mp rawFree
    refine List.forall_mem_cons.mpr ⟨?_, inductionHypothesis others⟩
    rw [item.writeValue_eq sink]
    exact always_isEnclosable spells (item.reads_renderValue context .row first)

/-- The operands of a comparison are operands in the text, and its operator is one of
the library. -/
theorem Comparison.hasTerms {context : Context} (comparison : Comparison)
    (rawFree : comparison.isRawFree context) (scalars : comparison.hasScalars) :
    comparison.HasTerms sink context := by
  have answers := spells.answers
  have value (operand : Operand) (rawFree : operand.isRawFreeValue context)
      (scalar : operand.isScalar) : (operand.writeValue sink context .array).Always IsTerm := by
    rw [operand.writeValue_eq sink]
    exact operand.always_isTerm_renderValue spells context .array rawFree scalar
  match comparison with
  | .relation kind operand _ =>
    obtain ⟨named, operandRawFree⟩ := Bool.and_eq_true_iff.mp rawFree
    exact ⟨kind.isOperator named, value operand operandRawFree scalars⟩
  | .like pattern _ => exact value pattern rawFree scalars
  | .nullity _ => trivial
  | .between low high =>
    obtain ⟨lowRawFree, highRawFree⟩ := Bool.and_eq_true_iff.mp rawFree
    obtain ⟨lowScalar, highScalar⟩ := Bool.and_eq_true_iff.mp scalars
    exact ⟨value low lowRawFree lowScalar, value high highRawFree highScalar⟩
  | .membership (.list items) _ => exact always_isEnclosable_items spells items rawFree
  | .membership (.node inner) _ =>
    show (inner.write sink _).Always IsEnclosable
    rw [inner.write_eq sink]
    exact always_isEnclosable spells (inner.reads_render _ rawFree)
  | .membership (.value scalar) _ =>
    intro state text after written
    obtain ⟨_, reads⟩ := always_isTerm_value spells scalar state text after written
    exact reads.isEnclosable

end Spelled

mutual

/-- A condition without SQL of its own has opaque leaves, if no condition stands
where an operand should. -/
theorem Condition.hasOpaqueLeaves (spells : sink.Spells) {context : Context}
    (condition : Condition) (rawFree : condition.isRawFree context)
    (scalars : condition.hasScalars) : condition.HasOpaqueLeaves sink context := by
  have answers := spells.answers
  match condition with
  | .all members | .any members => exact haveOpaqueLeaves spells members rawFree scalars
  | .negation inner => exact inner.hasOpaqueLeaves spells rawFree scalars
  | .existence query =>
    show (query.write sink _).Always IsEnclosable
    rw [query.write_eq sink]
    exact always_isEnclosable spells (query.reads_render _ rawFree)
  | .test column comparison =>
    obtain ⟨columnRawFree, comparisonRawFree⟩ := Bool.and_eq_true_iff.mp rawFree
    obtain ⟨columnScalar, comparisonScalars⟩ := Bool.and_eq_true_iff.mp scalars
    refine fun _ => ⟨?_, comparison.hasTerms spells comparisonRawFree comparisonScalars⟩
    rw [column.writeName_eq sink]
    exact column.always_isTerm_renderName spells context columnRawFree columnScalar
  | .plain node =>
    intro state text after written
    have nodeWritten : ((node.render context).writeTo sink).start state = (.ok text, after) := by
      rw [← node.write_eq sink]
      exact written
    exact .inr (node.always_isTerm_render spells context rawFree scalars _ _ _ nodeWritten)

/-- The members of a group. -/
theorem haveOpaqueLeaves (spells : sink.Spells) {context : Context} (members : List Condition)
    (rawFree : areRawFreeMembers context members) (scalars : haveScalars members) :
    HaveOpaqueLeaves sink context members := by
  match members with
  | [] => trivial
  | member :: rest =>
    obtain ⟨memberRawFree, others⟩ := Bool.and_eq_true_iff.mp rawFree
    obtain ⟨memberScalars, otherScalars⟩ := Bool.and_eq_true_iff.mp scalars
    exact ⟨member.hasOpaqueLeaves spells memberRawFree memberScalars,
      haveOpaqueLeaves spells rest others otherScalars⟩

end

end SqlTree
