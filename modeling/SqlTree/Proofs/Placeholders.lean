/-
This file proves that placeholders keep to themselves: in the text of a
prepared statement the parameters are the placeholders of its values, each once
and in order, and nothing that a caller put into a name is read as one.

The text is spelled from the lexemes of the rendering, and a place in it is
spelled as one token, the placeholder with its number. So the numbers of the
parameters in the text are the numbers of the places, from the first on. What is
left to see is that no other lexeme is a parameter. A name in quotes is one token
whatever stands in it; a word begins with a letter, and a dollar sign inside a
word stays inside it. This is what a tree without SQL of its own has in its
rendering, and the reason why it is asked for.
-/

import SqlTree.Proofs.Legible

namespace SqlTree

open Reading

/-! ### Placeholders as a spelling -/

/-- Every scalar is spelled as the placeholder of its number. -/
def Spelling.placeholders : Spelling where
  text number _ := placeholder number
  tokens number _ := [.parameter number]
  reads number _ := reads_placeholder number
  balanced _ _ := .token rfl .nil

/-- Places are numbered one after another, and what stands between them has no number. -/
theorem parameterNumbers_spell_placeholders (number : Nat) (lexemes : List Lexeme)
    (noParameters : parameterNumbers (Lexeme.tokens lexemes) = []) :
    parameterNumbers (Spelling.placeholders.spell number lexemes) =
      List.range' number (Lexeme.values lexemes).length := by
  induction lexemes generalizing number with
  | nil => rfl
  | cons lexeme rest inductionHypothesis =>
    cases lexeme with
    | fixed token =>
      have split : parameterNumbers (Lexeme.tokens (.fixed token :: rest)) =
          parameterNumbers [token] ++ parameterNumbers (Lexeme.tokens rest) :=
        parameterNumbers_append [token] (Lexeme.tokens rest)
      rw [split] at noParameters
      obtain ⟨this, others⟩ := List.append_eq_nil_iff.mp noParameters
      show parameterNumbers ([token] ++ Spelling.placeholders.spell number rest) = _
      rw [parameterNumbers_append, this, inductionHypothesis number others]
      rfl
    | place value =>
      show number :: parameterNumbers (Spelling.placeholders.spell (number + 1) rest) = _
      rw [inductionHypothesis (number + 1) noParameters]
      rfl

/-! ### Prepared statements -/

/-- The text of a prepared statement without SQL of its own has tokens, and the
parameters among them count from one to the number of its values. -/
theorem Node.parameterNumbers_prepare (node : Node) (rawFree : node.isRawFree .ordinary)
    (prepared : Prepared) (outcome : node.prepare = .ok prepared) :
    ∃ tokens, tokens? prepared.text.toList = some tokens ∧
      parameterNumbers tokens = List.range' 1 prepared.values.length := by
  rw [node.prepare_eq] at outcome
  cases fault : (node.render .ordinary).fault with
  | some fault =>
    rw [fault] at outcome
    cases outcome
  | none =>
    rw [fault] at outcome
    cases outcome
    obtain ⟨lexemes, lexed⟩ := node.reads_render .ordinary rawFree fault
    refine ⟨_, (lexed.spelled .placeholders 1).1, ?_⟩
    rw [parameterNumbers_spell_placeholders 1 lexemes lexed.noParameters, lexed.values]

/-- A query whose names are made to look like placeholders, strings and comments. -/
def disguised : Node :=
  .select
    { columns := [.node (.renamed ⟨.node (.literal ⟨.text "it's", none⟩), "$1\" -- "⟩)]
      distinct := none
      target := none
      sources := ⟨[⟨.path "T$2", []⟩], none⟩
      condition := .test (.path "A'\\.B$3")
        (.membership (.list [.value (.text "$9"), .value .null]) false)
      grouping := []
      groupCondition := .nothing
      ordering := []
      limit := none
      offset := none }

/-- Names that look like placeholders, comments and strings are names. -/
theorem parameterNumbers_disguised :
    disguised.isRawFree .ordinary ∧
    disguised.prepare = .ok
      ⟨"SELECT $1 AS \"$1\"\" -- \" FROM \"T$2\" WHERE \"A'\\\".\"B$3\" IN ($2, $3)",
        [.text "it's", .text "$9", .null]⟩ ∧
    ∃ tokens,
      tokens?
          ("SELECT $1 AS \"$1\"\" -- \" FROM \"T$2\" WHERE \"A'\\\".\"B$3\" IN ($2, $3)").toList =
        some tokens ∧
      parameterNumbers tokens = [1, 2, 3] :=
  ⟨rfl, rfl, disguised.parameterNumbers_prepare rfl ⟨_, _⟩ rfl⟩

end SqlTree
