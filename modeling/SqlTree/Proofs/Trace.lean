/-
This file proves that the traversal that writes a tree into a sink and the
rendering of the tree say the same: writing a tree is handing the pieces of its
rendering to the sink one after another, up to the fault of the rendering. The
traversal asks of the texts that come back whether they are empty, the
rendering asks it of its pieces; the two agree for every sink that answers a
scalar with a text.

The rendering is what later files reason about: it has no state, so what two
sinks make of a tree can be read off the same pieces. The traversal is what the
library runs, and it asks for the answers of the sink while it goes along. Here
they are tied together once, for all trees, and the sink that answers with
nothing is the only reason why a hypothesis is needed.
-/

import SqlTree.Tree.Write

namespace SqlTree

open Writing

variable {State : Type} (sink : Sink State)

/-! ### Handing over pieces -/

/-- Hands the scalars among some pieces to a sink, in their order, and puts its answers
between the texts. -/
def writePieces : List Piece → Writing State String
  | [] => return ""
  | .text contents :: rest => return contents ++ (← writePieces rest)
  | .value scalar :: rest => return (← sink.write scalar) ++ (← writePieces rest)

/-- Hands the scalars of a rendering to a sink and puts the answers in their places. -/
def Rendering.writeTo (rendering : Rendering) : Writing State String := do
  let text ← writePieces sink rendering.pieces
  match rendering.fault with
  | some fault => throw fault
  | none => return text

/-- The sink is asked for the pieces of the first list, then for those of the second. -/
theorem writePieces_append (first second : List Piece) :
    writePieces sink (first ++ second) =
      (do return (← writePieces sink first) ++ (← writePieces sink second)) := by
  induction first with
  | nil => simp only [List.nil_append, writePieces, pure_bind, String.empty_append, bind_pure]
  | cons piece rest inductionHypothesis =>
    cases piece <;>
      simp only [List.cons_append, writePieces, inductionHypothesis, bind_assoc, pure_bind,
        String.append_assoc]

namespace Rendering

/-- One rendering behind another is written behind it, unless the first one ends in a
fault. -/
theorem writeTo_append (first second : Rendering) :
    (first ++ second).writeTo sink =
      (do return (← first.writeTo sink) ++ (← second.writeTo sink)) := by
  show (append first second).writeTo sink = _
  obtain ⟨pieces, fault⟩ := first
  cases fault with
  | some fault => simp only [append, writeTo, bind_assoc, throw_bind]
  | none =>
    obtain ⟨otherPieces, otherFault⟩ := second
    cases otherFault <;>
      simp only [append, writeTo, writePieces_append, bind_assoc, pure_bind, throw_bind]

theorem writeTo_empty : empty.writeTo sink = pure "" := by
  simp only [empty, writeTo, writePieces, pure_bind]

theorem writeTo_ofText (text : String) : (ofText text).writeTo sink = pure text := by
  simp only [ofText, writeTo, writePieces, pure_bind, String.append_empty]

theorem writeTo_ofValue (value : Value) : (ofValue value).writeTo sink = sink.write value := by
  simp only [ofValue, writeTo, writePieces, pure_bind, String.append_empty, bind_pure]

theorem writeTo_fail (fault : Fault) : (fail fault).writeTo sink = throw fault := by
  simp only [fail, writeTo, writePieces, pure_bind]

/-- What a builder has recorded is raised before the sink is asked for anything. -/
theorem writeTo_check (misuse : Option Misuse) :
    (check misuse).writeTo sink = (do Writing.check misuse; return "") := by
  cases misuse with
  | none => simp only [check, Writing.check, writeTo_empty, pure_bind]
  | some misuse => exact writeTo_fail sink _

/-- Separators stand between texts as they stand between renderings. -/
theorem writeTo_join (separator : String) (renderings : List Rendering) :
    (join separator renderings).writeTo sink =
      (do return separator.intercalate (← renderings.mapM (writeTo sink))) := by
  induction renderings with
  | nil => simp only [join, writeTo_empty, List.mapM_nil, pure_bind, String.intercalate_nil]
  | cons rendering rest inductionHypothesis =>
    cases rest with
    | nil =>
      simp only [join, List.mapM_cons, List.mapM_nil, pure_bind, bind_assoc,
        String.intercalate_singleton, bind_pure]
    | cons next others =>
      simp only [join, writeTo_append, writeTo_ofText, inductionHypothesis, List.mapM_cons,
        bind_assoc, pure_bind, String.intercalate_cons_cons]

theorem writeTo_commaSeparated (renderings : List Rendering) :
    (commaSeparated renderings).writeTo sink =
      (do return commaText (← renderings.mapM (writeTo sink))) :=
  writeTo_join sink ", " renderings

theorem writeTo_parenthesized (rendering : Rendering) :
    (parenthesized rendering).writeTo sink =
      (do return parenthesizedText (← rendering.writeTo sink)) := by
  simp only [parenthesized, writeTo_append, writeTo_ofText, bind_assoc, pure_bind,
    parenthesizedText]

theorem writeTo_listed (form : ListForm) (items : List Rendering) :
    (listed form items).writeTo sink =
      (do return listText form (← items.mapM (writeTo sink))) := by
  cases form with
  | array =>
    simp only [listed, listText, writeTo_append, writeTo_ofText, writeTo_commaSeparated, bind_assoc,
      pure_bind]
  | row =>
    simp only [listed, listText, writeTo_parenthesized, writeTo_commaSeparated, bind_assoc,
      pure_bind]

/-- A clause without items is left out before its keyword is written. -/
theorem writeTo_listClause (keyword : String) (items : List Rendering) :
    (listClause keyword items).writeTo sink =
      (do return listClauseText keyword (← items.mapM (writeTo sink))) := by
  unfold listClause
  cases items with
  | nil =>
    simp only [List.isEmpty_nil, if_true, writeTo_empty, List.mapM_nil, pure_bind, listClauseText]
  | cons item rest =>
    simp only [List.isEmpty_cons, Bool.false_eq_true, if_false, writeTo_append, writeTo_ofText,
      writeTo_commaSeparated, List.mapM_cons, bind_assoc, pure_bind, listClauseText]

/-! ### Blank renderings and empty texts -/

/-- A blank rendering does not ask the sink for anything. -/
theorem writeTo_of_isBlank {rendering : Rendering} (blank : rendering.isBlank) :
    rendering.writeTo sink = pure "" := by
  have piecesBlank : ∀ pieces : List Piece, pieces.all Piece.isBlank →
      writePieces sink pieces = pure "" := by
    intro pieces allBlank
    induction pieces with
    | nil => rfl
    | cons piece rest inductionHypothesis =>
      rw [List.all_cons, Bool.and_eq_true] at allBlank
      cases piece with
      | text contents =>
        have noText : contents = "" := String.isEmpty_iff.mp allBlank.1
        simp only [writePieces, inductionHypothesis allBlank.2, noText, pure_bind,
          String.empty_append]
      | value scalar => exact absurd allBlank.1 Bool.false_ne_true
  obtain ⟨pieces, fault⟩ := rendering
  rw [isBlank, Bool.and_eq_true] at blank
  cases fault with
  | some fault => exact absurd blank.1 Bool.false_ne_true
  | none => simp only [writeTo, piecesBlank pieces blank.2, pure_bind]

section Answers

variable [sink.Answers]

/-- Pieces that are not all blank come back with a text, because every scalar among them
is answered with one. -/
theorem writePieces_ne_empty {pieces : List Piece} (present : ¬ pieces.all Piece.isBlank)
    {state after : State} {text : String}
    (written : (writePieces sink pieces).start state = (.ok text, after)) : text ≠ "" := by
  induction pieces generalizing state after text with
  | nil => exact absurd rfl present
  | cons piece rest inductionHypothesis =>
    rw [List.all_cons, Bool.and_eq_true] at present
    cases piece with
    | text contents =>
      obtain ⟨others, middle, restWritten, whole⟩ := start_bind_ok.mp written
      cases whole
      -- If this text is empty, it is blank, so something after it is not.
      intro none
      obtain ⟨noText, noOthers⟩ := String.append_eq_empty_iff.mp none
      exact inductionHypothesis (fun blank => present ⟨String.isEmpty_iff.mpr noText, blank⟩)
        restWritten noOthers
    | value scalar =>
      obtain ⟨mark, middle, markWritten, rest⟩ := start_bind_ok.mp written
      obtain ⟨others, last, restWritten, whole⟩ := start_bind_ok.mp rest
      cases whole
      rw [start_write] at markWritten
      cases markWritten
      exact fun none =>
        Sink.Answers.bind_ne_empty state scalar (String.append_eq_empty_iff.mp none).1

/-- A rendering that is not blank does not come back empty. This is the half that needs
the answers of the sink. -/
theorem writeTo_ne_empty {rendering : Rendering} (present : ¬ rendering.isBlank)
    {state after : State} {text : String}
    (written : (rendering.writeTo sink).start state = (.ok text, after)) : text ≠ "" := by
  obtain ⟨pieces, fault⟩ := rendering
  obtain ⟨whole, middle, piecesWritten, result⟩ := start_bind_ok.mp written
  cases fault with
  | some fault => cases result
  | none =>
    cases result
    exact writePieces_ne_empty sink (fun blank => present blank) piecesWritten

/-- Whether a text came back empty is known before it is written. -/
theorem writeTo_bind_isEmpty {Result : Type} (rendering : Rendering)
    (absent : Writing State Result) (next : String → Writing State Result) :
    (rendering.writeTo sink >>= fun text => if text.isEmpty then absent else next text) =
      if rendering.isBlank then absent else rendering.writeTo sink >>= next := by
  by_cases blank : rendering.isBlank
  · rw [if_pos blank, writeTo_of_isBlank sink blank, pure_bind]
    rfl
  · rw [if_neg blank]
    refine bind_congr_of_result _ _ _ fun state text after written => ?_
    rw [if_neg fun none => writeTo_ne_empty sink blank written (String.isEmpty_iff.mp none)]

/-- The traversal looks at the text that came back where the rendering looks at its
pieces, and both decide alike. -/
theorem writeTo_ifPresent (rendering : Rendering) (change : Rendering → Rendering)
    (changeText : String → String)
    (changed : (change rendering).writeTo sink =
      (do return changeText (← rendering.writeTo sink))) :
    (rendering.ifPresent change).writeTo sink =
      (do
        let text ← rendering.writeTo sink
        return if text.isEmpty then "" else changeText text) := by
  have decided := writeTo_bind_isEmpty sink rendering (pure "") fun text => pure (changeText text)
  simp only [← apply_ite pure] at decided
  rw [decided, ifPresent, ← changed]
  split
  · exact writeTo_empty sink
  · rfl

/-- A clause whose text came back empty is left out with its keyword. -/
theorem writeTo_clause (keyword : String) (rendering : Rendering) :
    (clause keyword rendering).writeTo sink =
      (do return clauseText keyword (← rendering.writeTo sink)) := by
  refine writeTo_ifPresent sink rendering _ (keyword ++ ·) ?_
  simp only [writeTo_append, writeTo_ofText, pure_bind]

/-- A text that is not empty stays in the list. -/
theorem filter_cons_of_ne_empty {text : String} (present : text ≠ "") (texts : List String) :
    (text :: texts).filter (fun text => !text.isEmpty) =
      text :: texts.filter fun text => !text.isEmpty := by
  rw [List.filter_cons, if_pos]
  rw [Bool.not_eq_true', ← Bool.not_eq_true, String.isEmpty_iff]
  exact present

/-- Dropping blank renderings is dropping the empty texts among their texts. -/
theorem mapM_writeTo_filter (renderings : List Rendering) :
    (renderings.filter fun rendering => !rendering.isBlank).mapM (writeTo sink) =
      (do return (← renderings.mapM (writeTo sink)).filter fun text => !text.isEmpty) := by
  induction renderings with
  | nil => simp only [List.filter_nil, List.mapM_nil, pure_bind]
  | cons rendering rest inductionHypothesis =>
    rw [List.filter_cons, List.mapM_cons, bind_assoc]
    by_cases blank : rendering.isBlank
    · rw [if_neg (by rw [blank]; exact Bool.false_ne_true), inductionHypothesis,
        writeTo_of_isBlank sink blank, pure_bind]
      simp only [bind_assoc, pure_bind, List.filter_cons]
      rfl
    · rw [if_pos (by rw [Bool.not_eq_true] at blank; rw [blank]; rfl), List.mapM_cons,
        inductionHypothesis]
      refine bind_congr_of_result _ _ _ fun state text after written => ?_
      simp only [bind_assoc, pure_bind,
        filter_cons_of_ne_empty (writeTo_ne_empty sink blank written)]

/-- The texts that came back empty are those of the renderings that are left out. -/
theorem writeTo_joinPresent (separator : String) (renderings : List Rendering) :
    (joinPresent separator renderings).writeTo sink =
      (do
        let texts ← renderings.mapM (writeTo sink)
        return separator.intercalate (texts.filter fun text => !text.isEmpty)) := by
  rw [joinPresent, writeTo_join, mapM_writeTo_filter]
  simp only [bind_assoc, pure_bind]

/-- A group in parentheses is never left out. -/
theorem parenthesizedText_ne_empty (text : String) : parenthesizedText text ≠ "" := by
  intro none
  rw [parenthesizedText, String.append_assoc] at none
  exact absurd (String.append_eq_empty_iff.mp none).1 (by decide)

end Answers

/-! ### Cells -/

/-- The action that writes a cell. -/
def cellTo (cell : Cell) : CellWriting State :=
  (cell.1, cell.2.writeTo sink)

/-- Writing a row leaves its columns as they are. -/
theorem map_fst_cellTo (row : List Cell) :
    (row.map (cellTo sink)).map Prod.fst = row.map Prod.fst := by
  rw [List.map_map]
  rfl

/-- The cell of a column is found among the writings as among the renderings, or the
substitute in its place. -/
theorem writeTo_cellOf (row : List Cell) (missing : Rendering) (column : String) :
    (cellOf row missing column).writeTo sink =
      writeCellOf (row.map (cellTo sink)) (missing.writeTo sink) column := by
  induction row with
  | nil => rfl
  | cons cell rest inductionHypothesis =>
    unfold cellOf writeCellOf at *
    rw [List.map_cons, List.find?_cons, List.find?_cons]
    show _ = ((match decide (cell.1 = column) with
      | true => some (cellTo sink cell)
      | false => _).map _).getD _
    cases decide (cell.1 = column) with
    | true => rfl
    | false => exact inductionHypothesis

/-- One row in the order of some columns. -/
theorem writeTo_rowOf (columns : List String) (missing : Rendering) (row : List Cell) :
    (rowOf columns missing row).writeTo sink =
      writeRowOf columns (missing.writeTo sink) (row.map (cellTo sink)) := by
  have cells : writeTo sink ∘ cellOf row missing =
      writeCellOf (row.map (cellTo sink)) (missing.writeTo sink) :=
    funext (writeTo_cellOf sink row missing)
  rw [rowOf, writeRowOf, writeTo_parenthesized, writeTo_commaSeparated, List.mapM_map, cells]
  simp only [bind_assoc, pure_bind]

/-- Rows, one after another, in the order of the same columns. -/
theorem writeTo_rowsOf (columns : List String) (missing : Rendering) (rows : List (List Cell)) :
    (rowsOf columns missing rows).writeTo sink =
      writeRowsOf columns (missing.writeTo sink) (rows.map fun row => row.map (cellTo sink)) := by
  have written : writeTo sink ∘ rowOf columns missing =
      writeRowOf columns (missing.writeTo sink) ∘ fun row => row.map (cellTo sink) :=
    funext (writeTo_rowOf sink columns missing)
  rw [rowsOf, writeRowsOf, writeTo_commaSeparated, List.mapM_map, List.mapM_map, written]

/-- Rows as a table, once their cells are at hand. -/
theorem writeTo_valuesText (name : String) (first : List Cell) (rest : List (List Cell)) :
    (ofText "(VALUES " ++ rowsOf (first.map Prod.fst) (ofValue .null) (first :: rest)
        ++ ofText (") " ++ quoteName name
          ++ "(" ++ columnNames (first.map Prod.fst) ++ ")")).writeTo sink =
      (do
        let rows ← writeRowsOf ((first.map (cellTo sink)).map Prod.fst) (sink.write .null)
          ((first :: rest).map fun row => row.map (cellTo sink))
        return "(VALUES " ++ rows ++ ") " ++ quoteName name
          ++ "(" ++ columnNames ((first.map (cellTo sink)).map Prod.fst) ++ ")") := by
  simp only [map_fst_cellTo, writeTo_append, writeTo_ofText, writeTo_rowsOf, writeTo_ofValue,
    bind_assoc, pure_bind, String.append_assoc]

/-- The rows of an insertion, once their cells are at hand. -/
theorem writeTo_rowsText (first : List Cell) (rest : List (List Cell)) :
    (ofText (" (" ++ columnNames (first.map Prod.fst) ++ ") VALUES ")
        ++ rowsOf (first.map Prod.fst) (ofText "DEFAULT") (first :: rest)).writeTo sink =
      (do
        return " (" ++ columnNames ((first.map (cellTo sink)).map Prod.fst) ++ ") VALUES "
          ++ (← writeRowsOf ((first.map (cellTo sink)).map Prod.fst) (pure "DEFAULT")
            ((first :: rest).map fun row => row.map (cellTo sink)))) := by
  simp only [map_fst_cellTo, writeTo_append, writeTo_ofText, writeTo_rowsOf, pure_bind]

theorem writeTo_renderJsonMember (cell : Cell) :
    (renderJsonMember cell).writeTo sink = writeJsonMember (cellTo sink cell) := by
  simp only [renderJsonMember, writeJsonMember, cellTo, writeTo_append, writeTo_ofText, pure_bind]

theorem writeTo_renderAssignment (cell : Cell) :
    (renderAssignment cell).writeTo sink = writeAssignment (cellTo sink cell) := by
  simp only [renderAssignment, writeAssignment, cellTo, writeTo_append, writeTo_ofText, pure_bind]

/-- What is done about a conflict, with assignments or without. -/
theorem writeTo_renderResolution (assignments : List Cell) :
    (renderResolution assignments).writeTo sink =
      writeResolution (assignments.map (cellTo sink)) := by
  have written : writeTo sink ∘ renderAssignment = writeAssignment ∘ cellTo sink :=
    funext (writeTo_renderAssignment sink)
  rw [renderResolution, writeResolution, List.isEmpty_map]
  split
  · exact writeTo_ofText sink _
  · rw [writeTo_append, writeTo_ofText, writeTo_commaSeparated, List.mapM_map, List.mapM_map,
      written]
    simp only [bind_assoc, pure_bind]

theorem writeTo_renderCount (keyword : String) (count : Option UInt64) :
    (renderCount keyword count).writeTo sink = pure (countText keyword count) := by
  cases count with
  | none => exact writeTo_empty sink
  | some count => exact writeTo_ofText sink _

/-! ### Statements

Each says in which order the parts of a statement are written, whatever they are. -/

/-- A query, once its clauses are rendered. The sink is asked for the scalars of one
clause after another, in the order of the text. -/
theorem writeTo_selectText [sink.Answers] (misuse : Option Misuse)
    (distinct columns target condition groupCondition : Rendering)
    (sources grouping ordering : List Rendering) (limit offset : Option UInt64) :
    (check misuse ++ ofText "SELECT " ++ distinct ++ columns ++ target
        ++ listClause " FROM " sources ++ clause " WHERE " condition
        ++ listClause " GROUP BY " grouping ++ clause " HAVING " groupCondition
        ++ listClause " ORDER BY " ordering ++ renderCount " LIMIT " limit
        ++ renderCount " OFFSET " offset).writeTo sink =
      (do
        Writing.check misuse
        let distinct ← distinct.writeTo sink
        let columns ← columns.writeTo sink
        let target ← target.writeTo sink
        let sources ← sources.mapM (writeTo sink)
        let condition ← condition.writeTo sink
        let grouping ← grouping.mapM (writeTo sink)
        let groupCondition ← groupCondition.writeTo sink
        let ordering ← ordering.mapM (writeTo sink)
        return "SELECT " ++ distinct ++ columns ++ target ++ listClauseText " FROM " sources
          ++ clauseText " WHERE " condition ++ listClauseText " GROUP BY " grouping
          ++ clauseText " HAVING " groupCondition ++ listClauseText " ORDER BY " ordering
          ++ countText " LIMIT " limit ++ countText " OFFSET " offset) := by
  simp only [writeTo_append, writeTo_check, writeTo_ofText, writeTo_listClause, writeTo_clause,
    writeTo_renderCount, bind_assoc, pure_bind, String.empty_append]

/-- An insertion, once its parts are rendered. What is done about conflicts is asked for
in between, if at all. -/
theorem writeTo_insertText (misuse : Option Misuse) (table body conflict : Rendering)
    (handled : Bool) (update : List Cell) (returning : List Rendering) :
    (check misuse ++ ofText "INSERT INTO " ++ table ++ body
        ++ (if handled then ofText " ON CONFLICT" ++ conflict ++ renderResolution update else empty)
        ++ listClause " RETURNING " returning).writeTo sink =
      (do
        Writing.check misuse
        let table ← table.writeTo sink
        let body ← body.writeTo sink
        let handling ← if handled then do
            let conflict ← conflict.writeTo sink
            let resolution ← writeResolution (update.map (cellTo sink))
            pure (" ON CONFLICT" ++ conflict ++ resolution)
          else pure ""
        let returning ← returning.mapM (writeTo sink)
        return "INSERT INTO " ++ table ++ body ++ handling
          ++ listClauseText " RETURNING " returning) := by
  cases handled with
  | true =>
    simp only [if_true, writeTo_append, writeTo_check, writeTo_ofText, writeTo_listClause,
      writeTo_renderResolution, bind_assoc, pure_bind, String.empty_append]
  | false =>
    simp only [Bool.false_eq_true, if_false, writeTo_append, writeTo_check, writeTo_ofText,
      writeTo_empty, writeTo_listClause, bind_assoc, pure_bind, String.empty_append]

/-- An update with assignments, once its clauses are rendered. -/
theorem writeTo_updateText [sink.Answers] (table condition : Rendering) (assignments : List Cell)
    (sources returning : List Rendering) :
    (ofText "UPDATE " ++ table
        ++ ofText " SET " ++ commaSeparated (assignments.map renderAssignment)
        ++ listClause " FROM " sources ++ clause " WHERE " condition
        ++ listClause " RETURNING " returning).writeTo sink =
      (do
        let table ← table.writeTo sink
        let assignments ← (assignments.map (cellTo sink)).mapM writeAssignment
        let sources ← sources.mapM (writeTo sink)
        let condition ← condition.writeTo sink
        let returning ← returning.mapM (writeTo sink)
        return "UPDATE " ++ table ++ " SET " ++ commaText assignments
          ++ listClauseText " FROM " sources ++ clauseText " WHERE " condition
          ++ listClauseText " RETURNING " returning) := by
  have written : writeTo sink ∘ renderAssignment = writeAssignment ∘ cellTo sink :=
    funext (writeTo_renderAssignment sink)
  simp only [writeTo_append, writeTo_ofText, writeTo_commaSeparated, List.mapM_map, written,
    writeTo_listClause, writeTo_clause, bind_assoc, pure_bind]

/-- A deletion, once its clauses are rendered. -/
theorem writeTo_deleteText [sink.Answers] (table condition : Rendering)
    (sources returning : List Rendering) :
    (ofText "DELETE FROM " ++ table ++ listClause " USING " sources
        ++ clause " WHERE " condition ++ listClause " RETURNING " returning).writeTo sink =
      (do
        let table ← table.writeTo sink
        let sources ← sources.mapM (writeTo sink)
        let condition ← condition.writeTo sink
        let returning ← returning.mapM (writeTo sink)
        return "DELETE FROM " ++ table ++ listClauseText " USING " sources
          ++ clauseText " WHERE " condition ++ listClauseText " RETURNING " returning) := by
  simp only [writeTo_append, writeTo_ofText, writeTo_listClause, writeTo_clause, bind_assoc,
    pure_bind]

end Rendering

open Rendering

/-! ### Leaves -/

mutual

/-- A scalar that is a name is written without a look at the sink. -/
theorem Value.writeName_eq (value : Value) :
    (value.writeName : Writing State String) = value.renderName.writeTo sink := by
  cases value with
  | null | bytes _ | json _ => exact (writeTo_fail sink _).symm
  | bool _ | integer _ | float _ | text _ | timestamp _ | uuid _ =>
    exact (writeTo_ofText sink _).symm
  | array items =>
    rw [Value.writeName, Value.renderName, writeTo_listed, Value.writeItemNames_eq items]

theorem Value.writeItemNames_eq (items : List Value) :
    (Value.writeItemNames items : Writing State (List String)) =
      (Value.renderItemNames items).mapM (writeTo sink) := by
  cases items with
  | nil => rfl
  | cons item rest =>
    rw [Value.writeItemNames, Value.renderItemNames, List.mapM_cons, Value.writeName_eq item,
      Value.writeItemNames_eq rest]

end

theorem Literal.write_eq (literal : Literal) :
    literal.write sink = literal.render.writeTo sink := by
  unfold Literal.write Literal.render
  cases literal.cast with
  | none => simp only [writeTo_ofValue, bind_pure]
  | some type =>
    simp only [writeTo_append, writeTo_ofText, writeTo_ofValue, pure_bind, String.append_assoc]

/-! ### The tree -/

variable [sink.Answers]

-- Most of these use the variable through one another only, which the linter does not see.
set_option linter.unusedSectionVars false in
mutual

/-- An operand where a value is wanted. Which operand of a join condition is a name is
decided by the tree in both. -/
theorem Operand.writeValue_eq (context : Context) (form : ListForm) (operand : Operand) :
    operand.writeValue sink context form = (operand.renderValue context form).writeTo sink := by
  match operand with
  | .value scalar => exact (writeTo_ofValue sink scalar).symm
  | .list items =>
    rw [Operand.writeValue, Operand.renderValue, writeTo_listed, writeValues_eq context form items]
  | .node (.unresolved inner) =>
    rw [Operand.writeValue, Operand.renderValue]
    split
    · exact inner.writeName_eq context
    · exact inner.writeValue_eq context form
  | .node (.identifier _) | .node (.literal _) | .node (.snippet _) | .node (.renamed _)
  | .node (.condition _) | .node (.comparison _) | .node (.jsonObject _) | .node (.values _)
  | .node (.sources _) | .node (.join _) => exact Node.write_eq context _
  | .node (.select _) | .node (.insert _) | .node (.update _) | .node (.delete _) =>
    refine Eq.trans ?_ (writeTo_parenthesized sink _).symm
    rw [← Node.write_eq .ordinary _]
    rfl

/-- An operand where a name is wanted. -/
theorem Operand.writeName_eq (context : Context) (operand : Operand) :
    operand.writeName sink context = (operand.renderName context).writeTo sink := by
  match operand with
  | .value scalar => exact scalar.writeName_eq sink
  | .list items =>
    rw [Operand.writeName, Operand.renderName, writeTo_listed, writeNames_eq context items]
  | .node inner =>
    rw [Operand.writeName, Operand.renderName]
    split
    · rw [writeTo_parenthesized, inner.write_eq .ordinary]
    · exact inner.write_eq context

theorem writeValues_eq (context : Context) (form : ListForm) (operands : List Operand) :
    writeValues sink context form operands =
      (renderValues context form operands).mapM (writeTo sink) := by
  match operands with
  | [] => rfl
  | operand :: rest =>
    rw [writeValues, renderValues, List.mapM_cons, operand.writeValue_eq context form,
      writeValues_eq context form rest]

theorem writeNames_eq (context : Context) (operands : List Operand) :
    writeNames sink context operands = (renderNames context operands).mapM (writeTo sink) := by
  match operands with
  | [] => rfl
  | operand :: rest =>
    rw [writeNames, renderNames, List.mapM_cons, operand.writeName_eq context,
      writeNames_eq context rest]

/-- Writing a node is handing over its rendering. -/
theorem Node.write_eq (context : Context) (node : Node) :
    node.write sink context = (node.render context).writeTo sink := by
  match node with
  | .identifier identifier => exact (writeTo_ofText sink _).symm
  | .literal literal => exact literal.write_eq sink
  | .snippet snippet => exact snippet.write_eq context
  | .unresolved _ => exact (writeTo_fail sink _).symm
  | .renamed item => exact item.write_eq context
  | .condition condition => exact condition.write_eq context
  | .comparison comparison => exact comparison.write_eq context
  | .jsonObject object => exact object.write_eq context
  | .values list => exact list.write_eq context
  | .sources list => exact list.write_eq context
  | .join join => exact join.write_eq context
  | .select statement => exact statement.write_eq context
  | .insert statement => exact statement.write_eq context
  | .update statement => exact statement.write_eq context
  | .delete statement => exact statement.write_eq context

theorem Snippet.write_eq (context : Context) (snippet : Snippet) :
    snippet.write sink context = (snippet.render context).writeTo sink := by
  match snippet with
  | ⟨head, slots, misuse⟩ =>
    simp only [Snippet.write, Snippet.render, writeTo_append, writeTo_check, writeTo_ofText,
      writeSlots_eq context slots, bind_assoc, pure_bind, String.empty_append]

theorem writeSlots_eq (context : Context) (slots : List Slot) :
    writeSlots sink context slots = (renderSlots context slots).writeTo sink := by
  match slots with
  | [] => exact (writeTo_empty sink).symm
  | ⟨operand, after⟩ :: rest =>
    simp only [writeSlots, renderSlots, writeTo_append, writeTo_ofText,
      operand.writeValue_eq context .array, writeSlots_eq context rest, bind_assoc, pure_bind]

theorem Renaming.write_eq (context : Context) (item : Renaming) :
    item.write sink context = (item.render context).writeTo sink := by
  match item with
  | ⟨target, name⟩ =>
    simp only [Renaming.write, Renaming.render, writeTo_append, writeTo_ofText,
      target.writeName_eq context, pure_bind, String.append_assoc]

/-- A condition. Negations, groups and tests are left out by their texts here and by their
pieces there. -/
theorem Condition.write_eq (context : Context) (condition : Condition) :
    condition.write sink context = (condition.render context).writeTo sink := by
  match condition with
  | .all members | .any members =>
    simp only [Condition.write, Condition.render, writeTo_joinPresent,
      writeMembers_eq context members, bind_assoc, pure_bind]
  | .negation inner =>
    simp only [Condition.write, Condition.render, inner.write_eq context]
    refine (writeTo_ifPresent sink _ _ (fun text => "NOT " ++ parenthesizedText text) ?_).symm
    simp only [writeTo_append, writeTo_ofText, writeTo_parenthesized, bind_assoc, pure_bind]
  | .existence query =>
    simp only [Condition.write, Condition.render, writeTo_append, writeTo_ofText,
      writeTo_parenthesized, query.write_eq, bind_assoc, pure_bind]
  | .test column comparison =>
    rw [Condition.write, Condition.render]
    split
    · simp only [writeTo_append, writeTo_ofText, column.writeName_eq context,
        comparison.write_eq context, bind_assoc, pure_bind]
    · exact (writeTo_empty sink).symm
  | .plain inner => exact inner.write_eq context

/-- The members of a group, with the parentheses that each of them gets. -/
theorem writeMembers_eq (context : Context) (members : List Condition) :
    writeMembers sink context members =
      (do
        let texts ← (renderMembers context members).mapM (writeTo sink)
        return texts.filter fun text => !text.isEmpty) := by
  match members with
  | [] => rfl
  | member :: rest =>
    simp only [writeMembers, renderMembers, List.mapM_cons, member.write_eq context,
      writeMembers_eq context rest, bind_assoc, pure_bind]
    cases member.isGroup with
    | true =>
      simp only [if_true, writeTo_ifPresent sink _ parenthesized parenthesizedText
        (writeTo_parenthesized sink _), bind_assoc, pure_bind]
      refine bind_congr fun text => bind_congr fun texts => congrArg pure ?_
      by_cases none : text.isEmpty
      · rw [if_pos none, if_pos none]
        rfl
      · rw [if_neg none, if_neg none, filter_cons_of_ne_empty (parenthesizedText_ne_empty text)]
    | false =>
      simp only [Bool.false_eq_true, if_false]
      refine bind_congr fun text => bind_congr fun texts => congrArg pure ?_
      by_cases none : text.isEmpty
      · rw [if_pos none, String.isEmpty_iff.mp none]
        rfl
      · rw [if_neg none, filter_cons_of_ne_empty fun same => none (String.isEmpty_iff.mpr same)]

/-- A comparison without its column. -/
theorem Comparison.write_eq (context : Context) (comparison : Comparison) :
    comparison.write sink context = (comparison.render context).writeTo sink := by
  match comparison with
  | .relation relation operand none =>
    simp only [Comparison.write, Comparison.render, writeTo_append, writeTo_ofText,
      operand.writeValue_eq context .array, pure_bind]
  | .relation relation operand (some quantifier) =>
    simp only [Comparison.write, Comparison.render, writeTo_append, writeTo_ofText,
      operand.writeValue_eq context .array, pure_bind]
    split <;> simp only [writeTo_parenthesized, bind_assoc, pure_bind]
  | .nullity negated => exact (writeTo_ofText sink _).symm
  | .like pattern insensitive =>
    simp only [Comparison.write, Comparison.render, writeTo_append, writeTo_ofText,
      pattern.writeValue_eq context .array, pure_bind]
  | .between low high =>
    simp only [Comparison.write, Comparison.render, writeTo_append, writeTo_ofText,
      low.writeValue_eq context .array, high.writeValue_eq context .array, bind_assoc, pure_bind]
  | .membership (.list []) negated => exact (writeTo_empty sink).symm
  | .membership (.list (first :: rest)) negated =>
    simp only [Comparison.write, Comparison.render, writeTo_append, writeTo_ofText, writeTo_listed,
      List.mapM_cons, first.writeValue_eq context .row, writeValues_eq context .row rest,
      bind_assoc, pure_bind]
  | .membership (.node inner) negated =>
    simp only [Comparison.write, Comparison.render, writeTo_append, writeTo_ofText,
      writeTo_parenthesized, inner.write_eq, bind_assoc, pure_bind]
  | .membership (.value scalar) negated =>
    simp only [Comparison.write, Comparison.render, writeTo_append, writeTo_ofText,
      writeTo_parenthesized, writeTo_ofValue, bind_assoc, pure_bind]

/-- The cells of a row are writings that have not run yet, so a cell that no column asks
for is never written. -/
theorem ColumnMap.writeCells_eq (context : Context) (map : ColumnMap) :
    map.writeCells sink context = (map.cells context).map (cellTo sink) := by
  match map with
  | ⟨fields⟩ => exact writeFields_eq context fields

theorem writeFields_eq (context : Context) (fields : List Field) :
    writeFields sink context fields = (renderCells context fields).map (cellTo sink) := by
  match fields with
  | [] => rfl
  | ⟨column, operand⟩ :: rest =>
    rw [writeFields, renderCells, List.map_cons, operand.writeValue_eq context .array,
      writeFields_eq context rest]
    rfl

theorem ColumnMap.writeNameCells_eq (context : Context) (map : ColumnMap) :
    map.writeNameCells sink context = (map.nameCells context).map (cellTo sink) := by
  match map with
  | ⟨fields⟩ => exact writeNameFields_eq context fields

theorem writeNameFields_eq (context : Context) (fields : List Field) :
    writeNameFields sink context fields = (renderNameCells context fields).map (cellTo sink) := by
  match fields with
  | [] => rfl
  | ⟨column, operand⟩ :: rest =>
    rw [writeNameFields, renderNameCells, List.map_cons, operand.writeName_eq context,
      writeNameFields_eq context rest]
    rfl

/-- The members of a JSON object. -/
theorem writeItems_eq (context : Context) (qualifier : Option String) (items : List JsonItem) :
    writeItems sink context qualifier items =
      (renderItems context qualifier items).mapM (writeTo sink) := by
  match items with
  | [] => rfl
  | .key key :: rest =>
    simp only [writeItems, renderItems, List.mapM_cons, renderJsonKey, writeTo_ofText,
      writeItems_eq context qualifier rest, pure_bind]
  | .keys keys :: rest =>
    have texts : writeTo sink ∘ renderJsonKey qualifier =
        fun key => pure (jsonKeyText qualifier key) :=
      funext fun key => writeTo_ofText sink (jsonKeyText qualifier key)
    simp only [writeItems, renderItems, List.mapM_append, List.mapM_map, texts, List.mapM_pure,
      writeItems_eq context qualifier rest, pure_bind]
  | .map columns :: rest =>
    have members : writeTo sink ∘ renderJsonMember = writeJsonMember ∘ cellTo sink :=
      funext (writeTo_renderJsonMember sink)
    simp only [writeItems, renderItems, List.mapM_append, List.mapM_map, members,
      columns.writeNameCells_eq context, writeItems_eq context qualifier rest]

theorem JsonObject.write_eq (context : Context) (object : JsonObject) :
    object.write sink context = (object.render context).writeTo sink := by
  match object with
  | ⟨items, qualifier, binary⟩ =>
    simp only [JsonObject.write, JsonObject.render, writeTo_append, writeTo_ofText,
      writeTo_parenthesized, writeTo_commaSeparated, writeItems_eq context qualifier items,
      bind_assoc, pure_bind]

theorem writeRows_eq (context : Context) (rows : List ColumnMap) :
    writeRows sink context rows =
      (renderRows context rows).map fun row => row.map (cellTo sink) := by
  match rows with
  | [] => rfl
  | row :: rest =>
    rw [writeRows, renderRows, List.map_cons, row.writeCells_eq context, writeRows_eq context rest]

/-- A list of values, which is looked at for its name, rows and columns before anything is
written. -/
theorem ValuesList.write_eq (context : Context) (list : ValuesList) :
    list.write sink context = (list.render context).writeTo sink := by
  match list with
  | ⟨rows, name⟩ =>
    unfold ValuesList.write ValuesList.render
    rw [writeRows_eq context rows]
    match name, renderRows context rows with
    | none, _ => exact (writeTo_fail sink _).symm
    | some _, [] => exact (writeTo_fail sink _).symm
    | some _, [] :: _ => exact (writeTo_fail sink _).symm
    | some name, (first :: others) :: rest =>
      exact (writeTo_valuesText sink name (first :: others) rest).symm

/-- A joined table. A condition whose text came back empty is no condition. -/
theorem Join.write_eq (context : Context) (join : Join) :
    join.write sink context = (join.render context).writeTo sink := by
  match join with
  | ⟨kind, table, condition⟩ =>
    simp only [Join.write, Join.render, writeTo_append, writeTo_ofText, writeTo_clause,
      table.writeName_eq context, condition.write_eq .joinCondition, bind_assoc, pure_bind,
      String.append_assoc]

theorem writeJoins_eq (context : Context) (joins : List Join) :
    writeJoins sink context joins = (renderJoins context joins).writeTo sink := by
  match joins with
  | [] => exact (writeTo_empty sink).symm
  | join :: rest =>
    simp only [writeJoins, renderJoins, writeTo_append, writeTo_ofText, join.write_eq context,
      writeJoins_eq context rest, bind_assoc, pure_bind]

theorem writeSources_eq (context : Context) (sources : List Source) :
    writeSources sink context sources =
      (renderSources context sources).mapM (writeTo sink) := by
  match sources with
  | [] => rfl
  | ⟨table, joins⟩ :: rest =>
    simp only [writeSources, renderSources, List.mapM_cons, writeTo_append,
      table.writeName_eq context, writeJoins_eq context joins, writeSources_eq context rest,
      bind_assoc, pure_bind]

theorem SourceList.write_eq (context : Context) (list : SourceList) :
    list.write sink context = (list.render context).writeTo sink := by
  match list with
  | ⟨sources, misuse⟩ =>
    simp only [SourceList.write, SourceList.render, writeTo_append, writeTo_check,
      writeTo_commaSeparated, writeSources_eq context sources, bind_assoc, pure_bind,
      String.empty_append]

theorem writeOrderKeys_eq (context : Context) (keys : List OrderKey) :
    writeOrderKeys sink context keys = (renderOrderKeys context keys).mapM (writeTo sink) := by
  match keys with
  | [] => rfl
  | ⟨key, none⟩ :: rest =>
    simp only [writeOrderKeys, renderOrderKeys, List.mapM_cons, key.writeName_eq context,
      writeOrderKeys_eq context rest]
  | ⟨key, some direction⟩ :: rest =>
    simp only [writeOrderKeys, renderOrderKeys, List.mapM_cons, key.writeName_eq context,
      writeOrderKeys_eq context rest, writeTo_append, writeTo_ofText, bind_assoc, pure_bind,
      String.append_assoc]

theorem writeDistinct_eq (context : Context) (distinct : Option (List Operand)) :
    writeDistinct sink context distinct = (renderDistinct context distinct).writeTo sink := by
  match distinct with
  | none => exact (writeTo_empty sink).symm
  | some [] => exact (writeTo_ofText sink _).symm
  | some (first :: rest) =>
    simp only [writeDistinct, renderDistinct, writeTo_append, writeTo_ofText, writeTo_listed,
      List.mapM_cons, first.writeName_eq context, writeNames_eq context rest, bind_assoc, pure_bind]

theorem writeColumns_eq (context : Context) (columns : List Operand) :
    writeColumns sink context columns = (renderColumns context columns).writeTo sink := by
  match columns with
  | [] => exact (writeTo_ofText sink _).symm
  | first :: rest =>
    simp only [writeColumns, renderColumns, writeTo_commaSeparated, List.mapM_cons,
      first.writeName_eq context, writeNames_eq context rest, bind_assoc, pure_bind]

theorem writeTarget_eq (context : Context) (target : Option Operand) :
    writeTarget sink context target = (renderTarget context target).writeTo sink := by
  match target with
  | none => exact (writeTo_empty sink).symm
  | some table =>
    simp only [writeTarget, renderTarget, writeTo_append, writeTo_ofText,
      table.writeName_eq context, pure_bind]

/-- A query. -/
theorem Select.write_eq (context : Context) (statement : Select) :
    statement.write sink context = (statement.render context).writeTo sink := by
  match statement with
  | ⟨columns, distinct, target, ⟨sources, misuse⟩, condition, grouping, groupCondition,
      ordering, limit, offset⟩ =>
    rw [Select.write, Select.render, writeTo_selectText, writeDistinct_eq context distinct,
      writeColumns_eq context columns, writeTarget_eq context target,
      writeSources_eq context sources, condition.write_eq context, writeNames_eq context grouping,
      groupCondition.write_eq context, writeOrderKeys_eq context ordering]

/-- The body of an insertion. Its columns are a writing too, which runs only before a
query. -/
theorem InsertBody.write_eq (context : Context) (columns : List Rendering) (body : InsertBody) :
    body.write sink context (columns.mapM (writeTo sink)) =
      (body.render context columns).writeTo sink := by
  match body with
  | .query query =>
    simp only [InsertBody.write, InsertBody.render, writeTo_append, writeTo_ofText, query.write_eq,
      bind_assoc, pure_bind]
    cases columns with
    | nil =>
      simp only [List.mapM_nil, List.isEmpty_nil, if_true, writeTo_empty, pure_bind]
    | cons first rest =>
      simp only [List.mapM_cons, List.isEmpty_cons, Bool.false_eq_true, if_false, writeTo_append,
        writeTo_ofText, writeTo_listed, bind_assoc, pure_bind]
  | .rows rows =>
    unfold InsertBody.write InsertBody.render
    rw [writeRows_eq context rows]
    match renderRows context rows with
    | [] => exact (writeTo_fail sink _).symm
    | [] :: _ => exact (writeTo_fail sink _).symm
    | (first :: others) :: rest => exact (writeTo_rowsText sink (first :: others) rest).symm

/-- What a conflict is about. -/
theorem writeConflict_eq (context : Context) (constraint : Option String)
    (conflict : Option (List Operand)) :
    writeConflict sink context constraint conflict =
      (renderConflict context constraint conflict).writeTo sink := by
  match constraint, conflict with
  | some name, _ =>
    unfold writeConflict renderConflict
    exact (writeTo_ofText sink _).symm
  | none, some (first :: rest) =>
    simp only [writeConflict, renderConflict, writeTo_append, writeTo_ofText, writeTo_listed,
      List.mapM_cons, first.writeName_eq context, writeNames_eq context rest, bind_assoc, pure_bind]
  | none, some [] => exact (writeTo_empty sink).symm
  | none, none => exact (writeTo_empty sink).symm

/-- An insertion. -/
theorem Insert.write_eq (context : Context) (statement : Insert) :
    statement.write sink context = (statement.render context).writeTo sink := by
  match statement with
  | ⟨table, columns, body, conflict, constraint, update, returning, misuse⟩ =>
    rw [Insert.write, Insert.render, writeTo_insertText, table.writeName_eq context,
      writeNames_eq context columns, InsertBody.write_eq context _ body,
      writeConflict_eq context constraint conflict, update.writeCells_eq context,
      writeNames_eq context returning]

/-- An update. -/
theorem Update.write_eq (context : Context) (statement : Update) :
    statement.write sink context = (statement.render context).writeTo sink := by
  match statement with
  | ⟨table, assignments, sources, condition, returning⟩ =>
    unfold Update.write Update.render
    rw [assignments.writeCells_eq context]
    match assignments.cells context with
    | [] => exact (writeTo_fail sink _).symm
    | cell :: rest =>
      dsimp only
      rw [writeTo_updateText, table.writeName_eq context, writeNames_eq context sources,
        condition.write_eq context, writeNames_eq context returning]
      rfl

theorem Delete.write_eq (context : Context) (statement : Delete) :
    statement.write sink context = (statement.render context).writeTo sink := by
  match statement with
  | ⟨table, sources, condition, returning⟩ =>
    rw [Delete.write, Delete.render, writeTo_deleteText, table.writeName_eq context,
      writeNames_eq context sources, condition.write_eq context, writeNames_eq context returning]

end

end SqlTree
