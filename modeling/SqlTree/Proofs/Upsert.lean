/-
This file proves what an insertion calls a column that is updated on conflict. The
list of columns has the whole column as one name, while the assignment and the row
that was proposed have it as a path. The three agree exactly for columns that are
one name as a path as well.

The statement is given by its text, over every sink: the table, the grid of the
rows, what is in conflict, the assignments that were made before and the new one
after them. A column that is assigned already is left as it is, so the text is
that of the statement without the call. Which columns agree is then a fact about
two spellings of a name, and needs nothing of the statement.
-/

import SqlTree.Proofs.Rows
import SqlTree.Proofs.SingleName
import SqlTree.Tree.Change

namespace SqlTree

open Writing

/-! ### Assignments of what was proposed -/

variable {State : Type} {sink : Sink State} {context : Context}

theorem writeFields_append (first second : List Field) :
    writeFields sink context (first ++ second) =
      writeFields sink context first ++ writeFields sink context second := by
  induction first with
  | nil => rfl
  | cons field rest inductionHypothesis =>
    obtain ⟨column, operand⟩ := field
    rw [List.cons_append, writeFields, writeFields, inductionHypothesis, List.cons_append]

/-- A column that is new gets the last cell. -/
theorem ColumnMap.writeCells_insertNew {map : ColumnMap} {column : String}
    (fresh : map.contains column = false) (operand : Operand) :
    (map.insertNew column operand).writeCells sink context =
      map.writeCells sink context ++ [(column, operand.writeValue sink context .array)] := by
  have absent : column ∉ map.columns := fun present => by
    rw [(map.contains_iff column).mpr present] at fresh
    cases fresh
  have stored := map.fields_insertNew column operand
  rw [if_neg absent] at stored
  have cells (any : ColumnMap) : any.writeCells sink context =
      writeFields sink context any.fields := by
    cases any
    rfl
  rw [cells, cells, stored]
  exact writeFields_append map.fields [⟨column, operand⟩]

namespace Insert

theorem writeValue_proposed (column : String) :
    (proposed column).writeValue sink context .array =
      pure (quotePath ("EXCLUDED." ++ column)) := by
  show pure ("" ++ quotePath ("EXCLUDED." ++ column)) = _
  rw [String.empty_append]

/-- The assignment of what was proposed comes after those that were made before. -/
theorem writeResolution_proposed {statement : Insert} {column : String}
    (fresh : statement.update.contains column = false) :
    writeResolution ((statement.addUpdateColumns [column]).update.writeCells sink context) =
      (do
        let assignments ← (statement.update.writeCells sink context).mapM writeAssignment
        return " DO UPDATE SET " ++ commaText (assignments ++
          [quotePath column ++ " = " ++ quotePath ("EXCLUDED." ++ column)])) := by
  have cells : (statement.addUpdateColumns [column]).update.writeCells sink context =
      statement.update.writeCells sink context ++
        [(column, (proposed column).writeValue sink context .array)] :=
    ColumnMap.writeCells_insertNew fresh (proposed column)
  rw [cells, writeResolution, if_neg (by simp), List.mapM_append, List.mapM_cons, List.mapM_nil,
    writeAssignment, writeValue_proposed]
  simp only [bind_assoc, pure_bind]

/-- What was proposed does not replace what is assigned already. -/
theorem addUpdateColumns_eq_self {statement : Insert} {column : String}
    (assigned : statement.update.contains column = true) :
    statement.addUpdateColumns [column] = statement := by
  have kept : statement.update.insertNew column (proposed column) = statement.update :=
    if_pos assigned
  rw [addUpdateColumns, List.foldl_cons, List.foldl_nil, kept]
  cases statement
  rfl

/-- The end of the statement has one assignment more, from what was proposed. -/
theorem writeTail_addUpdateColumns {statement : Insert} {column : String}
    (handled : statement.conflict.isSome || statement.constraint.isSome)
    (fresh : statement.update.contains column = false) :
    (statement.addUpdateColumns [column]).writeTail sink context =
      (do
        let conflict ← writeConflict sink context statement.constraint statement.conflict
        let assignments ← (statement.update.writeCells sink context).mapM writeAssignment
        let returning ← writeNames sink context statement.returning
        return " ON CONFLICT" ++ conflict ++ " DO UPDATE SET "
          ++ commaText (assignments ++
            [quotePath column ++ " = " ++ quotePath ("EXCLUDED." ++ column)])
          ++ listClauseText " RETURNING " returning) := by
  have sameHandled : ((statement.addUpdateColumns [column]).conflict.isSome
      || (statement.addUpdateColumns [column]).constraint.isSome) = true := handled
  rw [writeTail, writeResolution_proposed fresh, sameHandled]
  simp only [if_true, bind_assoc, pure_bind, String.append_assoc]
  rfl

/-- A column of the first row that is updated on conflict with what was proposed
stands as one name in the list of columns, and as a path where it is assigned and
where it is taken from the proposed row. Each of the two paths is the name exactly
if the column is one name as a path. A column that is assigned already stays as it
was assigned. -/
theorem write_addUpdateColumns {statement : Insert} {rows : List ColumnMap}
    {earlier later : List String} {column : String} (body : statement.body = .rows rows)
    (columns : headColumns rows = earlier ++ column :: later)
    (handled : statement.conflict.isSome || statement.constraint.isSome) :
    (statement.update.contains column = true →
        statement.addUpdateColumns [column] = statement) ∧
      (statement.update.contains column = false →
        ∀ (State : Type) (sink : Sink State) (context : Context),
          (statement.addUpdateColumns [column]).write sink context =
            (do
              check statement.misuse
              let table ← statement.table.writeName sink context
              let grid ← writeGrid sink context (return "DEFAULT") (headColumns rows) rows
              let conflict ← writeConflict sink context statement.constraint statement.conflict
              let assignments ← (statement.update.writeCells sink context).mapM writeAssignment
              let returning ← writeNames sink context statement.returning
              return "INSERT INTO " ++ table ++ " ("
                ++ commaText (earlier.map quoteName ++ quoteName column :: later.map quoteName)
                ++ ") VALUES " ++ gridText grid ++ " ON CONFLICT" ++ conflict
                ++ " DO UPDATE SET " ++ commaText (assignments ++
                  [quotePath column ++ " = " ++ quotePath ("EXCLUDED." ++ column)])
                ++ listClauseText " RETURNING " returning)) ∧
      (quotePath column = quoteName column ↔ IsSingleName column) ∧
      (quotePath ("EXCLUDED." ++ column) = "EXCLUDED." ++ quoteName column ↔
        IsSingleName column) := by
  refine ⟨addUpdateColumns_eq_self, fun fresh State sink context => ?_,
    quotePath_eq_quoteName_iff column, quotePath_proposed_eq_iff column⟩
  have present : headColumns rows ≠ [] := by
    rw [columns]
    exact List.append_ne_nil_of_right_ne_nil _ (List.cons_ne_nil _ _)
  have listed : columnNames (headColumns rows) =
      commaText (earlier.map quoteName ++ quoteName column :: later.map quoteName) := by
    rw [columnNames, columns, List.map_append, List.map_cons, commaText]
  have sameBody : (statement.addUpdateColumns [column]).body = .rows rows := body
  rw [write_of_rows sameBody, RowForm.insertion.write_eq_grid present,
    writeTail_addUpdateColumns handled fresh]
  simp only [RowForm.text, RowForm.missing, listed, bind_assoc, pure_bind, String.append_assoc]
  rfl

/-- A guest whose home is in a column of a given name. -/
def guestFrom (home : String) : Insert :=
  ((ofTable (.text "Guest")).addRow
    (.ofList [("Id", .value (.integer 1)), (home, .text "Oslo")])).onConflict [.text "Id"]

theorem guestFrom_home :
    (guestFrom "Home").update.contains "Home" = false ∧
      (((guestFrom "Home").addUpdateColumns ["Home"]).write .inline .ordinary).start () =
        (.ok ("INSERT INTO \"Guest\" (\"Id\", \"Home\") VALUES ('1', 'Oslo')"
          ++ " ON CONFLICT (\"Id\") DO UPDATE SET \"Home\" = EXCLUDED.\"Home\""), ()) ∧
      quotePath "Home" = quoteName "Home" ∧
      quotePath ("EXCLUDED." ++ "Home") = "EXCLUDED." ++ quoteName "Home" := by
  have single : IsSingleName "Home" := ⟨by decide, by decide, by decide⟩
  have columns : headColumns [.ofList [("Id", .value (.integer 1)), ("Home", .text "Oslo")]] =
      ["Id"] ++ "Home" :: [] := rfl
  have fresh : (guestFrom "Home").update.contains "Home" = false := rfl
  obtain ⟨-, written, assigned, taken⟩ :=
    write_addUpdateColumns (show (guestFrom "Home").body = .rows _ from rfl) columns rfl
  refine ⟨fresh, ?_, assigned.mpr single, taken.mpr single⟩
  rw [written fresh]
  rfl

/-- With a point in its name the column is inserted under one name, updated under
another, and taken from a row that was not proposed. -/
theorem guestFrom_homeTown :
    headColumns [.ofList [("Id", .value (.integer 1)), ("Home.Town", .text "Oslo")]] =
        ["Id", "Home.Town"] ∧
      (Node.insert ((guestFrom "Home.Town").addUpdateColumns ["Home.Town"])).toText =
        .ok ("INSERT INTO \"Guest\" (\"Id\", \"Home.Town\") VALUES ('1', 'Oslo')"
          ++ " ON CONFLICT (\"Id\") DO UPDATE SET"
          ++ " \"Home\".\"Town\" = \"EXCLUDED\".\"Home\".\"Town\"") ∧
      quotePath "Home.Town" ≠ quoteName "Home.Town" ∧
      quotePath ("EXCLUDED." ++ "Home.Town") ≠ "EXCLUDED." ++ quoteName "Home.Town" := by
  refine ⟨rfl, rfl, ?_, ?_⟩ <;> decide

end Insert

end SqlTree
