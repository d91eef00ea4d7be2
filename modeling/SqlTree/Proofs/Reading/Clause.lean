/-
This file reads what renderings are put together with: lists, parentheses,
clauses and cells. Each says what the whole is like if its parts can be read,
whatever the parts are.

A separator of the library has a space or a comma at both ends, or is a comma with
a space behind it, so items can stand on either side of it. Parentheses keep what
is in them apart from what is around them. A clause that may be missing has to be
good for its place in either case, so an empty rendering is looked at next to
each.
-/

import SqlTree.Proofs.RawFree
import SqlTree.Proofs.Reading.Rendering

namespace SqlTree.Rendering

open Reading

/-! ### Lists -/

/-- Items that can be read, with a separating text between them. -/
theorem reads_join {separator : String} (separating : isSeparating separator)
    {renderings : List Rendering} (read : ∀ rendering ∈ renderings, rendering.Reads) :
    (join separator renderings).Reads := by
  induction renderings with
  | nil => exact opens_empty.reads
  | cons rendering rest inductionHypothesis =>
    obtain ⟨this, others⟩ := List.forall_mem_cons.mp read
    cases rest with
    | nil => exact this
    | cons next following =>
      exact (this.append_separates (separates_ofText separating)).append_reads
        (inductionHypothesis others)

/-- Fewer of them. -/
theorem reads_joinPresent {separator : String} (separating : isSeparating separator)
    {renderings : List Rendering} (read : ∀ rendering ∈ renderings, rendering.Reads) :
    (joinPresent separator renderings).Reads :=
  reads_join separating fun rendering member => read rendering (List.mem_filter.mp member).1

theorem reads_commaSeparated {renderings : List Rendering}
    (read : ∀ rendering ∈ renderings, rendering.Reads) : (commaSeparated renderings).Reads :=
  reads_join (by decide) read

/-- Parentheses may stand between any two texts, whatever is in them. -/
theorem separates_parenthesized {rendering : Rendering} (reads : rendering.Reads) :
    (parenthesized rendering).Separates :=
  separates_enclosed separates_opening reads separates_closing

theorem opens_parenthesized {rendering : Rendering} (reads : rendering.Reads) :
    (parenthesized rendering).Opens :=
  (separates_parenthesized reads).opens

theorem opens_array :
    (ofText "ARRAY[").Lexes (Having Reading.Opens (BalancedBut Bracket.opened? .square)) := by
  have opens : Reading.Opens "ARRAY[".toList [.word "ARRAY".toList, .mark '['] := rfl
  exact lexes_ofText_bracket opens rfl rfl

theorem separates_square :
    (ofText "]").Lexes (Having Reading.Separates (BalancedBut Bracket.closed? .square)) := by
  have separates : Reading.Separates "]".toList [.mark ']'] := ⟨rfl, ']', rfl, rfl⟩
  exact lexes_ofText_bracket separates rfl rfl

/-- A list in brackets or in parentheses lets any text follow. -/
theorem opens_listed (form : ListForm) {items : List Rendering}
    (read : ∀ item ∈ items, item.Reads) : (listed form items).Opens := by
  cases form with
  | array => exact opens_enclosed opens_array (reads_commaSeparated read) separates_square
  | row => exact opens_parenthesized (reads_commaSeparated read)

/-! ### Clauses -/

/-- What may be left out has to be good for its place in both cases. -/
theorem lexes_ifPresent {shape : List Char → List Token → Prop} {rendering : Rendering}
    {change : Rendering → Rendering} (absent : empty.Lexes shape)
    (present : (change rendering).Lexes shape) : (rendering.ifPresent change).Lexes shape := by
  rw [ifPresent]
  split
  · exact absent
  · exact present

/-- A clause may follow any text, because its keyword begins with a space. -/
theorem follows_clause {keyword : String} (separating : isSeparating keyword)
    {rendering : Rendering} (reads : rendering.Reads) : (clause keyword rendering).Follows :=
  lexes_ifPresent follows_empty ((separates_ofText separating).append_reads reads)

/-- So may a clause with a list. -/
theorem follows_listClause {keyword : String} (separating : isSeparating keyword)
    {items : List Rendering} (read : ∀ item ∈ items, item.Reads) :
    (listClause keyword items).Follows := by
  rw [listClause]
  split
  · exact follows_empty
  · exact (separates_ofText separating).append_reads (reads_commaSeparated read)

/-- So may a limit. -/
theorem follows_renderCount {keyword : String} (separating : isSeparating keyword)
    (count : Option UInt64) : (renderCount keyword count).Follows := by
  cases count with
  | none => exact follows_empty
  | some count =>
    have digits : (ofText (String.ofList (Digits.natural count.toNat))).Reads := by
      have read := reads_natural count.toNat
      rw [← String.toList_ofList (l := Digits.natural count.toNat)] at read
      exact lexes_ofText_of_areFixed read rfl
    exact lexes_ofText_append ((separates_ofText separating).append_reads digits)

/-! ### Names -/

/-- The name of a column or a table, or a chain of them. -/
def IsChain (text : String) : Prop :=
  ∃ tokens, Chain text.toList tokens ∧ PathTokens tokens

/-- A path without a trailer is a chain of names. -/
theorem isChain_quotePath {path : String} (plain : isPlainPath path) :
    IsChain (quotePath path) := by
  rw [IsChain, quotePath, String.toList_ofList]
  exact chain_path _ (trailer_eq_nil plain)

theorem IsChain.reads {text : String} (chain : IsChain text) : (ofText text).Reads := by
  obtain ⟨tokens, chain, path⟩ := chain
  exact lexes_ofText ⟨chain.reads, .of_all path.all_isUnbracketed⟩ path.noParameters

/-- Such a path can be read; one with a trailer is copied in part and need not be. -/
theorem reads_quotePath {path : String} (plain : isPlainPath path) :
    (ofText (quotePath path)).Reads :=
  (isChain_quotePath plain).reads

/-- A qualifier and a key with a point between them. -/
theorem IsChain.append {first second : String} (chain : IsChain first) (others : IsChain second) :
    IsChain (first ++ "." ++ second) := by
  obtain ⟨tokens, chain, path⟩ := chain
  obtain ⟨more, otherChain, otherPath⟩ := others
  refine ⟨tokens ++ .mark '.' :: more, ?_, .point path otherPath⟩
  rw [String.toList_append, String.toList_append, List.append_assoc]
  exact chain.append otherChain

theorem reads_identifier {identifier : Identifier} (plain : isPlainPath identifier.path) :
    identifier.render.Reads := by
  rw [Identifier.render, Identifier.text]
  refine lexes_ofText_append (Opens.append_reads ?_ (reads_quotePath plain))
  split <;> exact opens_ofText (by decide)

/-- Columns in a list are quoted one by one and never read as paths. -/
theorem reads_columnNames (columns : List String) : (ofText (columnNames columns)).Reads := by
  induction columns with
  | nil => exact (opens_ofText (by decide)).reads
  | cons column rest inductionHypothesis =>
    cases rest with
    | nil => exact reads_quoteName column
    | cons next others =>
      have separated : (ofText (quoteName column ++ ", ")).Opens :=
        lexes_ofText_append
          ((reads_quoteName column).append_separates (separates_ofText (by decide)))
      rw [columnNames, List.map_cons, List.map_cons, String.intercalate_cons_cons]
      exact lexes_ofText_append (separated.append_reads inductionHypothesis)

/-! ### Cells -/

/-- A key is a string and a path behind it. -/
theorem reads_renderJsonKey {qualifier : Option String} {key : String}
    (rawFree : isRawFreeKey qualifier key) : (renderJsonKey qualifier key).Reads := by
  obtain ⟨plainQualifier, plainKey⟩ := Bool.and_eq_true_iff.mp rawFree
  have opened : (ofText (quoteText key ++ ", ")).Opens :=
    lexes_ofText_append ((reads_quoteText key).append_separates (separates_ofText (by decide)))
  cases qualifier with
  | none => exact lexes_ofText_append (opened.append_reads (reads_quotePath plainKey))
  | some table =>
    have chain := (isChain_quotePath plainQualifier).append (isChain_quotePath plainKey)
    have whole := lexes_ofText_append (opened.append_reads chain.reads)
    rw [← String.append_assoc, ← String.append_assoc] at whole
    exact whole

theorem reads_renderJsonMember {cell : Cell} (reads : cell.2.Reads) :
    (renderJsonMember cell).Reads := by
  have opened : (ofText (quoteText cell.1 ++ ", ")).Opens :=
    lexes_ofText_append ((reads_quoteText cell.1).append_separates (separates_ofText (by decide)))
  exact opened.append_reads reads

/-- The column of an assignment is a path. -/
theorem reads_renderAssignment {cell : Cell} (plain : isPlainPath cell.1) (reads : cell.2.Reads) :
    (renderAssignment cell).Reads := by
  have opened : (ofText (quotePath cell.1 ++ " = ")).Opens :=
    lexes_ofText_append ((reads_quotePath plain).append_separates (separates_ofText (by decide)))
  exact opened.append_reads reads

theorem follows_renderResolution {assignments : List Cell}
    (plain : ∀ cell ∈ assignments, isPlainPath cell.1)
    (read : ∀ cell ∈ assignments, cell.2.Reads) : (renderResolution assignments).Follows := by
  rw [renderResolution]
  split
  · exact follows_ofText (by decide) (by decide)
  · refine (separates_ofText (by decide)).append_reads
      (reads_commaSeparated fun rendering member => ?_)
    obtain ⟨cell, inAssignments, rfl⟩ := List.mem_map.mp member
    exact reads_renderAssignment (plain cell inAssignments) (read cell inAssignments)

/-- The cell of a column or its substitute. -/
theorem reads_cellOf {row : List Cell} {missing : Rendering} (read : ∀ cell ∈ row, cell.2.Reads)
    (reads : missing.Reads) (column : String) : (cellOf row missing column).Reads := by
  rw [cellOf]
  cases found : row.find? fun cell => cell.1 = column with
  | none => exact reads
  | some cell => exact read cell (List.mem_of_find?_eq_some found)

/-- Rows, each in parentheses. -/
theorem reads_rowsOf (columns : List String) {missing : Rendering} {rows : List (List Cell)}
    (reads : missing.Reads) (read : ∀ row ∈ rows, ∀ cell ∈ row, cell.2.Reads) :
    (rowsOf columns missing rows).Reads := by
  refine reads_commaSeparated fun rendering member => ?_
  obtain ⟨row, inRows, rfl⟩ := List.mem_map.mp member
  refine (opens_parenthesized (reads_commaSeparated fun cell inRow => ?_)).reads
  obtain ⟨column, -, rfl⟩ := List.mem_map.mp inRow
  exact reads_cellOf (read row inRows) reads column

end SqlTree.Rendering
