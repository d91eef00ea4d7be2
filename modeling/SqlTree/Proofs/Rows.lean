/-
This file proves that rows are written as a rectangle, in an insertion and as a
table of their own. The first row has the columns. Every row has a cell for each
of them, in their order: its operand for the column as a value, or what stands
for a missing one. Where a later row keeps a column, and what else it has, makes
no difference.

A row is a map from columns to operands. What the two forms of a statement have in
common, the grid of cells, is written first, with the action for a missing cell as
a parameter; then each form is the grid with its own words around it. Success and
failure are equivalences with what the cells do one after the other, so a failing
cell is a failing statement, and texts and states are those of the cells in the
order of the grid.
-/

import Mathlib.Data.List.Forall2
import SqlTree.Proofs.ColumnMap
import SqlTree.Proofs.Misuse.Report

namespace SqlTree

open Writing Rendering

/-! ### Actions one after another -/

namespace Writing

variable {State Source Result : Type}

/-- The actions succeed one after another with the texts, and lead from one state
to another. -/
inductive InTurn : State → List (Writing State String) → List String → State → Prop
  | nil {state : State} : InTurn state [] [] state
  | cons {state middle after : State} {action : Writing State String} {text : String}
    {actions : List (Writing State String)} {texts : List String}
    (first : action.start state = (.ok text, middle))
    (others : InTurn middle actions texts after) :
    InTurn state (action :: actions) (text :: texts) after

/-- The action fails when it is started in the state. -/
def FailsFrom (action : Writing State Result) (state : State) : Prop :=
  ∃ fault after, action.start state = (.error fault, after)

/-- The action fails in every state. -/
def Fails (action : Writing State Result) : Prop :=
  ∀ state, action.FailsFrom state

theorem failsFrom_throw (fault : Fault) (state : State) :
    (throw fault : Writing State Result).FailsFrom state :=
  ⟨fault, state, rfl⟩

theorem not_failsFrom_of_ok {action : Writing State Result} {state after : State} {result : Result}
    (succeeds : action.start state = (.ok result, after)) : ¬ action.FailsFrom state := by
  rintro ⟨fault, last, failed⟩
  rw [succeeds] at failed
  cases failed

theorem exists_ok_of_not_failsFrom {action : Writing State Result} {state : State}
    (succeeds : ¬ action.FailsFrom state) :
    ∃ result after, action.start state = (.ok result, after) := by
  rcases outcome : action.start state with ⟨fault | result, after⟩
  · exact absurd ⟨fault, after, outcome⟩ succeeds
  · exact ⟨result, after, rfl⟩

/-- What is made of the result of an action makes no difference to its failing. -/
theorem failsFrom_return_iff {Other : Type} (action : Writing State Result)
    (change : Result → Other) (state : State) :
    (do return change (← action) : Writing State Other).FailsFrom state ↔
      action.FailsFrom state := by
  rw [FailsFrom, FailsFrom, start_bind]
  rcases action.start state with ⟨_ | result, after⟩
  · exact ⟨fun _ => ⟨_, _, rfl⟩, fun _ => ⟨_, _, rfl⟩⟩
  · exact ⟨fun ⟨_, _, same⟩ => (nomatch same), fun ⟨_, _, same⟩ => (nomatch same)⟩

/-- Two lists of actions succeed in turn if the second does where the first has left
the state. -/
theorem inTurn_append_iff {first second : List (Writing State String)} {texts : List String}
    {state after : State} :
    InTurn state (first ++ second) texts after ↔
      ∃ before others middle, texts = before ++ others ∧ InTurn state first before middle ∧
        InTurn middle second others after := by
  induction first generalizing state texts with
  | nil =>
    constructor
    · exact fun run => ⟨[], texts, state, rfl, .nil, run⟩
    · rintro ⟨before, others, middle, rfl, run, rest⟩
      cases run
      exact rest
  | cons action actions inductionHypothesis =>
    constructor
    · rintro (_ | ⟨written, run⟩)
      obtain ⟨before, others, middle, rfl, front, rest⟩ := inductionHypothesis.mp run
      exact ⟨_ :: before, others, middle, rfl, .cons written front, rest⟩
    · rintro ⟨before, others, middle, rfl, run, rest⟩
      obtain _ | ⟨written, front⟩ := run
      exact .cons written (inductionHypothesis.mpr ⟨_, _, _, rfl, front, rest⟩)

theorem InTurn.length_eq {actions : List (Writing State String)} {texts : List String}
    {state after : State} (run : InTurn state actions texts after) :
    texts.length = actions.length := by
  induction run with
  | nil => rfl
  | cons _ _ inductionHypothesis =>
    rw [List.length_cons, List.length_cons, inductionHypothesis]

/-- A walk over a list succeeds if its actions do so in turn. -/
theorem mapM_eq_ok_iff (act : Source → Writing State String) {sources : List Source}
    {texts : List String} {state after : State} :
    (sources.mapM act).start state = (.ok texts, after) ↔
      InTurn state (sources.map act) texts after := by
  induction sources generalizing state texts with
  | nil =>
    constructor
    · intro written
      cases written
      exact .nil
    · rintro (_ | _)
      rfl
  | cons source rest inductionHypothesis =>
    rw [List.mapM_cons, start_bind_ok]
    constructor
    · rintro ⟨text, middle, written, others⟩
      obtain ⟨more, last, restWritten, whole⟩ := start_bind_ok.mp others
      cases whole
      exact .cons written (inductionHypothesis.mp restWritten)
    · rintro (_ | ⟨written, run⟩)
      exact ⟨_, _, written,
        start_bind_ok.mpr ⟨_, _, inductionHypothesis.mpr run, rfl⟩⟩

theorem mapM_congr {act other : Source → Writing State Result} {sources : List Source}
    (same : ∀ source ∈ sources, act source = other source) :
    sources.mapM act = sources.mapM other := by
  induction sources with
  | nil => rfl
  | cons source rest inductionHypothesis =>
    obtain ⟨first, others⟩ := List.forall_mem_cons.mp same
    rw [List.mapM_cons, List.mapM_cons, first, inductionHypothesis others]

end Writing

variable {State : Type} (sink : Sink State) (context : Context)

/-- The pieces of a snippet are always written. -/
theorem start_writePieces (pieces : List Piece) (state : State) :
    ∃ text after, (writePieces sink pieces).start state = (.ok text, after) := by
  induction pieces generalizing state with
  | nil => exact ⟨"", state, rfl⟩
  | cons piece rest inductionHypothesis =>
    cases piece with
    | text contents =>
      obtain ⟨others, after, written⟩ := inductionHypothesis state
      exact ⟨contents ++ others, after, start_bind_ok.mpr ⟨others, after, written, rfl⟩⟩
    | value scalar =>
      obtain ⟨others, after, written⟩ := inductionHypothesis (sink.bind state scalar).1
      exact ⟨(sink.bind state scalar).2 ++ others, after,
        start_bind_ok.mpr ⟨_, _, start_write sink scalar state,
          start_bind_ok.mpr ⟨others, after, written, rfl⟩⟩⟩

/-- Whether a rendering fails to be written does not depend on where the sink is. -/
theorem Rendering.failsFrom_writeTo_iff (rendering : Rendering) (state : State) :
    (rendering.writeTo sink).FailsFrom state ↔ rendering.fails := by
  obtain ⟨text, middle, written⟩ := start_writePieces sink rendering.pieces state
  rw [FailsFrom, Rendering.writeTo, start_bind, written]
  obtain ⟨pieces, fault⟩ := rendering
  cases fault with
  | none =>
    constructor
    · rintro ⟨_, _, same⟩
      cases same
    · intro fails
      cases fails
  | some fault => exact ⟨fun _ => rfl, fun _ => ⟨fault, middle, rfl⟩⟩

/-! ### Rows and their cells -/

/-- The columns of the first row. -/
def headColumns : List ColumnMap → List String
  | [] => []
  | first :: _ => first.columns

/-- The cell of a row for a column: its operand as a value, or what stands for a
missing one. -/
def ColumnMap.writeCell (missing : Writing State String) (row : ColumnMap) (column : String) :
    Writing State String :=
  match row.get? column with
  | some operand => operand.writeValue sink context .array
  | none => missing

/-- The cells of all rows, row by row, each row in the order of the columns. -/
def writeGrid (missing : Writing State String) (columns : List String) (rows : List ColumnMap) :
    Writing State (List (List String)) :=
  rows.mapM fun row => columns.mapM (row.writeCell sink context missing)

/-- The text of a grid, each line in parentheses. -/
def gridText (grid : List (List String)) : String :=
  commaText (grid.map fun cells => parenthesizedText (commaText cells))

/-- The two ways in which rows stand in a statement. -/
inductive RowForm where
  /-- As what an insertion inserts. -/
  | insertion
  /-- As a table with a name. -/
  | table (name : String)

namespace RowForm

/-- Writes the rows in the form. -/
def write (rows : List ColumnMap) : RowForm → Writing State String
  | insertion => (InsertBody.rows rows).write sink context (pure [])
  | table name => (ValuesList.mk rows (some name)).write sink context

/-- What stands for the cell that a row does not have. -/
def missing : RowForm → Writing State String
  | insertion => return "DEFAULT"
  | table _ => sink.write .null

/-- The text of a statement in the form, with its columns and its grid. -/
def text (columns : List String) (grid : List (List String)) : RowForm → String
  | insertion => " (" ++ columnNames columns ++ ") VALUES " ++ gridText grid
  | table name =>
    "(VALUES " ++ gridText grid ++ ") " ++ quoteName name ++ "(" ++ columnNames columns ++ ")"

end RowForm

/-! ### Cells from the tree -/

variable {sink context}

theorem ColumnMap.columns_writeCells (row : ColumnMap) :
    (row.writeCells sink context).map Prod.fst = row.columns := by
  obtain ⟨fields⟩ := row
  show (writeFields sink context fields).map Prod.fst = fields.map Field.column
  induction fields with
  | nil => rfl
  | cons field rest inductionHypothesis =>
    obtain ⟨column, operand⟩ := field
    rw [writeFields, List.map_cons, inductionHypothesis]
    rfl

/-- To look for a cell among those of the row is to look for the operand in the row. -/
theorem ColumnMap.writeCellOf_writeCells (row : ColumnMap) (missing : Writing State String)
    (column : String) :
    writeCellOf (row.writeCells sink context) missing column =
      row.writeCell sink context missing column := by
  obtain ⟨fields⟩ := row
  show writeCellOf (writeFields sink context fields) missing column =
    (ColumnMap.mk fields).writeCell sink context missing column
  induction fields with
  | nil => rfl
  | cons field rest inductionHypothesis =>
    obtain ⟨name, operand⟩ := field
    by_cases same : name = column
    · simp only [writeFields, writeCellOf, ColumnMap.writeCell, ColumnMap.get?, List.find?_cons,
        same, decide_true, Option.map_some, Option.getD_some]
    · rw [writeFields, writeCellOf, List.find?_cons_of_neg (by simpa using same)]
      rw [writeCellOf] at inductionHypothesis
      rw [inductionHypothesis, ColumnMap.writeCell, ColumnMap.writeCell, ColumnMap.get?,
        ColumnMap.get?, ColumnMap.fields,
        List.find?_cons_of_neg (by simpa [Field.column] using same)]

theorem writeRows_eq_map (rows : List ColumnMap) :
    writeRows sink context rows = rows.map (ColumnMap.writeCells sink context) := by
  induction rows with
  | nil => rfl
  | cons row rest inductionHypothesis =>
    rw [writeRows, inductionHypothesis, List.map_cons]

theorem renderRows_eq_map (rows : List ColumnMap) :
    renderRows context rows = rows.map (ColumnMap.cells context) := by
  induction rows with
  | nil => rfl
  | cons row rest inductionHypothesis =>
    rw [renderRows, inductionHypothesis, List.map_cons]

theorem mapM_return_map {Source Middle Result : Type} (act : Source → Writing State Middle)
    (change : Middle → Result) (sources : List Source) :
    (sources.mapM fun source => do return change (← act source)) =
      (do return (← sources.mapM act).map change) := by
  induction sources with
  | nil => rfl
  | cons source rest inductionHypothesis =>
    simp only [List.mapM_cons, inductionHypothesis, bind_assoc, pure_bind, List.map_cons]

variable (sink context) in
/-- Rows are written as the text of their grid. -/
theorem writeRowsOf_eq_grid (missing : Writing State String) (columns : List String)
    (rows : List ColumnMap) :
    writeRowsOf columns missing (writeRows sink context rows) =
      (do return gridText (← writeGrid sink context missing columns rows)) := by
  have rowOf : (writeRowOf columns missing ∘ ColumnMap.writeCells sink context) =
      fun row : ColumnMap => (do
        return parenthesizedText
          (commaText (← columns.mapM (row.writeCell sink context missing)))) := by
    funext row
    have cells : writeCellOf (row.writeCells sink context) missing =
        row.writeCell sink context missing :=
      funext (row.writeCellOf_writeCells missing)
    rw [Function.comp_apply, writeRowOf, cells]
  rw [writeRowsOf, writeRows_eq_map, List.mapM_map, rowOf,
    mapM_return_map _ fun cells => parenthesizedText (commaText cells)]
  simp only [bind_assoc, pure_bind, writeGrid, gridText]

/-- The grid has a line for each row and in it a cell for each column. -/
structure IsGrid (columns : List String) (rows : List ColumnMap) (grid : List (List String)) :
    Prop where
  height : grid.length = rows.length
  width : ∀ cells ∈ grid, cells.length = columns.length

theorem isGrid_cons_iff {columns cells : List String} {row : ColumnMap} {rows : List ColumnMap}
    {grid : List (List String)} :
    IsGrid columns (row :: rows) (cells :: grid) ↔
      cells.length = columns.length ∧ IsGrid columns rows grid := by
  constructor
  · rintro ⟨height, width⟩
    exact ⟨width cells List.mem_cons_self, Nat.succ.inj height,
      fun line member => width line (List.mem_cons_of_mem _ member)⟩
  · rintro ⟨first, height, width⟩
    exact ⟨congrArg Nat.succ height, List.forall_mem_cons.mpr ⟨first, width⟩⟩

/-- A grid is written if its cells are, row by row. -/
theorem writeGrid_eq_ok_iff {missing : Writing State String} {columns : List String}
    {rows : List ColumnMap} {grid : List (List String)} {state after : State} :
    (writeGrid sink context missing columns rows).start state = (.ok grid, after) ↔
      IsGrid columns rows grid ∧
        InTurn state (rows.flatMap fun row => columns.map (row.writeCell sink context missing))
          grid.flatten after := by
  induction rows generalizing state grid with
  | nil =>
    constructor
    · intro written
      cases written
      exact ⟨⟨rfl, fun _ member => nomatch member⟩, .nil⟩
    · rintro ⟨⟨height, _⟩, run⟩
      rw [List.eq_nil_of_length_eq_zero height] at run ⊢
      cases run
      rfl
  | cons row rest inductionHypothesis =>
    rw [writeGrid, List.mapM_cons, start_bind_ok, List.flatMap_cons]
    constructor
    · rintro ⟨cells, middle, written, others⟩
      obtain ⟨more, last, restWritten, whole⟩ := start_bind_ok.mp others
      cases whole
      obtain ⟨shape, restRun⟩ := inductionHypothesis.mp restWritten
      have firstRun := (mapM_eq_ok_iff _).mp written
      refine ⟨isGrid_cons_iff.mpr ⟨?_, shape⟩, ?_⟩
      · rw [firstRun.length_eq, List.length_map]
      · exact inTurn_append_iff.mpr ⟨cells, _, middle, rfl, firstRun, restRun⟩
    · rintro ⟨shape, run⟩
      obtain _ | ⟨cells, more⟩ := grid
      · cases shape.height
      obtain ⟨width, restShape⟩ := isGrid_cons_iff.mp shape
      obtain ⟨before, others, middle, same, firstRun, restRun⟩ := inTurn_append_iff.mp run
      have sameLength : cells.length = before.length := by
        rw [width, firstRun.length_eq, List.length_map]
      obtain ⟨rfl, rfl⟩ := List.append_inj same sameLength
      exact ⟨cells, middle, (mapM_eq_ok_iff _).mpr firstRun,
        start_bind_ok.mpr ⟨more, after, inductionHypothesis.mpr ⟨restShape, restRun⟩, rfl⟩⟩

/-- A grid fails to be written exactly if some cell of it does. -/
theorem failsFrom_writeGrid_iff [sink.Answers] (substitute : Rendering) {columns : List String}
    {rows : List ColumnMap} {state : State} :
    (writeGrid sink context (substitute.writeTo sink) columns rows).FailsFrom state ↔
      ∃ row ∈ rows, ∃ column ∈ columns,
        (row.writeCell sink context (substitute.writeTo sink) column).Fails := by
  have cellFails (row : ColumnMap) (column : String) :
      (cellOf (row.cells context) substitute column).fails = true ↔
        (row.writeCell sink context (substitute.writeTo sink) column).Fails := by
    rw [← row.writeCellOf_writeCells, row.writeCells_eq sink, ← writeTo_cellOf]
    exact ⟨fun fails state => (Rendering.failsFrom_writeTo_iff sink _ state).mpr fails,
      fun fails => (Rendering.failsFrom_writeTo_iff sink _ state).mp (fails state)⟩
  have rowsOf := writeTo_rowsOf sink columns substitute (renderRows context rows)
  rw [← writeRows_eq, writeRowsOf_eq_grid] at rowsOf
  rw [← failsFrom_return_iff _ gridText, ← rowsOf, Rendering.failsFrom_writeTo_iff, fails_rowsOf,
    renderRows_eq_map, List.any_map]
  simp only [List.any_eq_true, Function.comp_apply, cellFails]

/-! ### Rows in their two places -/

namespace RowForm

/-- Without a column in the first row, both forms fail. -/
theorem write_fails (form : RowForm) {rows : List ColumnMap} (absent : headColumns rows = []) :
    (form.write sink context rows).Fails := by
  intro state
  obtain _ | ⟨first, rest⟩ := rows
  · cases form <;> exact failsFrom_throw _ state
  have noCells : first.writeCells sink context = [] := by
    rw [← List.map_eq_nil_iff, first.columns_writeCells]
    exact absent
  cases form <;>
    · simp only [write, InsertBody.write, ValuesList.write, writeRows, noCells]
      exact failsFrom_throw _ state

/-- Rows whose first has columns are written as a grid. -/
theorem write_eq_grid (form : RowForm) {rows : List ColumnMap} (present : headColumns rows ≠ []) :
    form.write sink context rows =
      (do
        let grid ← writeGrid sink context (form.missing sink) (headColumns rows) rows
        return form.text (headColumns rows) grid) := by
  obtain _ | ⟨first, rest⟩ := rows
  · exact absurd rfl present
  have columns : (first.writeCells sink context).map Prod.fst = headColumns (first :: rest) :=
    first.columns_writeCells
  have rowsOf := writeRowsOf_eq_grid sink context (form.missing sink) (headColumns (first :: rest))
    (first :: rest)
  rcases cells : writeRows sink context (first :: rest) with _ | ⟨_ | ⟨cell, others⟩, more⟩
  · cases cells
  · rw [writeRows] at cells
    rw [(List.cons.inj cells).1] at columns
    exact absurd columns.symm present
  · rw [writeRows] at cells
    rw [(List.cons.inj cells).1] at columns
    rw [writeRows, cells] at rowsOf
    cases form with
    | insertion =>
      rw [missing] at rowsOf
      simp only [write, InsertBody.write, writeRows, cells, columns, rowsOf, bind_assoc, pure_bind,
        missing, text]
    | table name =>
      rw [missing] at rowsOf
      simp only [write, ValuesList.write, writeRows, cells, columns, rowsOf, bind_assoc, pure_bind,
        missing, text]

/-- Rows are written exactly if the first has columns and all their cells are
written, one after another. -/
theorem write_eq_ok_iff (form : RowForm) {rows : List ColumnMap} {text : String}
    {state after : State} :
    (form.write sink context rows).start state = (.ok text, after) ↔
      headColumns rows ≠ [] ∧
        ∃ grid, IsGrid (headColumns rows) rows grid ∧
          InTurn state
            (rows.flatMap fun row =>
              (headColumns rows).map (row.writeCell sink context (form.missing sink)))
            grid.flatten after ∧
          text = form.text (headColumns rows) grid := by
  constructor
  · intro written
    have present : headColumns rows ≠ [] := fun absent =>
      not_failsFrom_of_ok written (form.write_fails absent state)
    rw [form.write_eq_grid present] at written
    obtain ⟨grid, last, gridWritten, whole⟩ := start_bind_ok.mp written
    cases whole
    obtain ⟨shape, run⟩ := writeGrid_eq_ok_iff.mp gridWritten
    exact ⟨present, grid, shape, run, rfl⟩
  · rintro ⟨present, grid, shape, run, rfl⟩
    rw [form.write_eq_grid present]
    exact start_bind_ok.mpr ⟨grid, after, writeGrid_eq_ok_iff.mpr ⟨shape, run⟩, rfl⟩

/-- Rows fail to be written exactly if the first has no columns, or is not there,
or a cell fails. -/
theorem failsFrom_write_iff [sink.Answers] (form : RowForm) {rows : List ColumnMap}
    {state : State} :
    (form.write sink context rows).FailsFrom state ↔
      rows = [] ∨ headColumns rows = [] ∨ ∃ row ∈ rows, ∃ column ∈ headColumns rows,
        (row.writeCell sink context (form.missing sink) column).Fails := by
  by_cases absent : headColumns rows = []
  · exact ⟨fun _ => .inr (.inl absent), fun _ => form.write_fails absent state⟩
  · have notEmpty : rows ≠ [] := fun none => absent (congrArg headColumns none)
    obtain ⟨substitute, missing⟩ : ∃ substitute : Rendering,
        form.missing sink = substitute.writeTo sink := by
      cases form with
      | insertion => exact ⟨ofText "DEFAULT", (writeTo_ofText sink _).symm⟩
      | table name => exact ⟨ofValue .null, (writeTo_ofValue sink _).symm⟩
    rw [form.write_eq_grid absent, failsFrom_return_iff, missing, failsFrom_writeGrid_iff,
      or_iff_right notEmpty, or_iff_right absent]

end RowForm

/-! ### What a later row may look like -/

namespace ColumnMap

/-- A map that is built has each of its columns once. -/
theorem nodup_columns_ofList (entries : List (String × Operand)) :
    (ofList entries).columns.Nodup := by
  have kept (map : ColumnMap) (distinct : map.columns.Nodup) :
      (entries.foldl (fun map entry => map.insert entry.1 entry.2) map).columns.Nodup := by
    induction entries generalizing map with
    | nil => exact distinct
    | cons entry rest inductionHypothesis =>
      refine inductionHypothesis _ ?_
      rw [columns_insert]
      split
      · exact distinct
      · next absent =>
        exact distinct.append (List.nodup_singleton _)
          (List.disjoint_singleton.mpr absent)
  exact kept empty List.nodup_nil

/-- The two rows have the same under the columns, and each column once. The order
and what there is under other columns do not count. -/
structure AgreesOn (columns : List String) (row other : ColumnMap) : Prop where
  distinct : row.columns.Nodup
  otherDistinct : other.columns.Nodup
  perm : (row.fields.filter fun field => field.column ∈ columns).Perm
    (other.fields.filter fun field => field.column ∈ columns)

/-- Rows that agree on columns have the same operands there. -/
theorem AgreesOn.get?_eq {columns : List String} {row other : ColumnMap}
    (agree : AgreesOn columns row other) {column : String} (asked : column ∈ columns) :
    row.get? column = other.get? column := by
  have same (operand : Operand) :
      (⟨column, operand⟩ : Field) ∈ row.fields ↔ ⟨column, operand⟩ ∈ other.fields := by
    have member := agree.perm.mem_iff (a := ⟨column, operand⟩)
    simpa [List.mem_filter, asked] using member
  refine Option.ext fun operand => ?_
  rw [get?_eq_some_iff agree.distinct, get?_eq_some_iff agree.otherDistinct, same]

end ColumnMap

namespace RowForm

theorem writeCell_eq_of_agreesOn {missing : Writing State String} {columns : List String}
    {row other : ColumnMap} (agree : row.AgreesOn columns other) {column : String}
    (asked : column ∈ columns) :
    row.writeCell sink context missing column = other.writeCell sink context missing column := by
  rw [ColumnMap.writeCell, ColumnMap.writeCell, agree.get?_eq asked]

/-- The grid sees no more of the rows than the columns it asks for. -/
theorem writeGrid_eq_of_agreesOn {missing : Writing State String} {columns : List String}
    {rows others : List ColumnMap}
    (agree : List.Forall₂ (ColumnMap.AgreesOn columns) rows others) :
    writeGrid sink context missing columns rows =
      writeGrid sink context missing columns others := by
  induction agree with
  | nil => rfl
  | cons first _ inductionHypothesis =>
    rw [writeGrid, writeGrid, List.mapM_cons, List.mapM_cons]
    rw [writeGrid, writeGrid] at inductionHypothesis
    rw [inductionHypothesis, mapM_congr fun column asked =>
      writeCell_eq_of_agreesOn first asked]

/-- Later rows count only under the columns of the first. -/
theorem write_eq_of_agreesOn (form : RowForm) {first : ColumnMap} {rest others : List ColumnMap}
    (agree : List.Forall₂ (ColumnMap.AgreesOn first.columns) rest others) :
    form.write sink context (first :: others) = form.write sink context (first :: rest) := by
  by_cases absent : first.columns = []
  · have noCells : first.writeCells sink context = [] := by
      rw [← List.map_eq_nil_iff, first.columns_writeCells]
      exact absent
    cases form <;> simp only [write, InsertBody.write, ValuesList.write, writeRows, noCells]
  · have presentIn (later : List ColumnMap) : headColumns (first :: later) ≠ [] := absent
    rw [form.write_eq_grid (presentIn others), form.write_eq_grid (presentIn rest), writeGrid,
      writeGrid, List.mapM_cons, List.mapM_cons]
    have same : writeGrid sink context (form.missing sink) first.columns rest =
        writeGrid sink context (form.missing sink) first.columns others :=
      writeGrid_eq_of_agreesOn agree
    rw [writeGrid, writeGrid] at same
    rw [headColumns, headColumns, same]

end RowForm

/-! ### Rows in a statement -/

/-- What an insertion says after its rows. -/
def Insert.writeTail (sink : Sink State) (context : Context) (statement : Insert) :
    Writing State String := do
  let handling ← if statement.conflict.isSome || statement.constraint.isSome then do
      let conflict ← writeConflict sink context statement.constraint statement.conflict
      let resolution ← writeResolution (statement.update.writeCells sink context)
      pure (" ON CONFLICT" ++ conflict ++ resolution)
    else pure ""
  let returning ← writeNames sink context statement.returning
  return handling ++ listClauseText " RETURNING " returning

/-- The rows of an insertion stand after its table and before the rest. -/
theorem Insert.write_of_rows {statement : Insert} {rows : List ColumnMap}
    (body : statement.body = .rows rows) :
    statement.write sink context =
      (do
        check statement.misuse
        let table ← statement.table.writeName sink context
        let part ← RowForm.insertion.write sink context rows
        let tail ← statement.writeTail sink context
        return "INSERT INTO " ++ table ++ part ++ tail) := by
  obtain ⟨table, columns, _, conflict, constraint, update, returning, misuse⟩ := statement
  subst body
  -- The columns that a query would fill make no difference to rows.
  have part : InsertBody.write sink context (writeNames sink context columns) (.rows rows) =
      RowForm.insertion.write sink context rows := rfl
  rw [Insert.write, part, Insert.writeTail]
  cases handled : conflict.isSome || constraint.isSome <;>
    simp only [if_true, Bool.false_eq_true, if_false, bind_assoc, pure_bind,
      String.append_assoc]

/-- Rows are written as a rectangle or not at all. They are written exactly if the
first row has columns and every cell is written, one after another and row by row:
each row has one for each column of the first row and no others. They fail exactly
if there are no rows, if the first has no columns, or if such a cell fails. A later
row may have its columns in another order and beside others. Rows stand so in an
insertion, between its table and the rest, and as a table with a name. -/
theorem RowForm.rectangle_or_fault (sink : Sink State) [sink.Answers] (context : Context)
    (form : RowForm) (rows : List ColumnMap) (state : State) :
    (∀ text after, (form.write sink context rows).start state = (.ok text, after) ↔
      headColumns rows ≠ [] ∧
        ∃ grid, IsGrid (headColumns rows) rows grid ∧
          InTurn state
            (rows.flatMap fun row =>
              (headColumns rows).map (row.writeCell sink context (form.missing sink)))
            grid.flatten after ∧
          text = form.text (headColumns rows) grid) ∧
      ((form.write sink context rows).FailsFrom state ↔
        rows = [] ∨ headColumns rows = [] ∨ ∃ row ∈ rows, ∃ column ∈ headColumns rows,
          (row.writeCell sink context (form.missing sink) column).Fails) ∧
      (∀ first rest others, rows = first :: rest →
        List.Forall₂ (ColumnMap.AgreesOn first.columns) rest others →
        form.write sink context (first :: others) = form.write sink context rows) ∧
      (∀ statement : Insert, statement.body = .rows rows →
        statement.write sink context =
          (do
            check statement.misuse
            let table ← statement.table.writeName sink context
            let part ← insertion.write sink context rows
            let tail ← statement.writeTail sink context
            return "INSERT INTO " ++ table ++ part ++ tail)) ∧
      ∀ name, (Node.values ⟨rows, some name⟩).write sink context =
        (table name).write sink context rows := by
  refine ⟨fun _ _ => form.write_eq_ok_iff, form.failsFrom_write_iff, ?_,
    fun _ body => Insert.write_of_rows body, fun _ => rfl⟩
  rintro first rest others rfl agree
  exact form.write_eq_of_agreesOn agree

/-- Visits with a town where it is known. -/
def visits : List ColumnMap :=
  [.ofList [("Person", .value (.integer 1)), ("Town", .text "Oslo")],
    .ofList [("Person", .value (.integer 2)), ("Town", .text "Bergen")],
    .ofList [("Person", .value (.integer 3))]]

/-- The same visits, the second in another order and with a remark. -/
def remarkedVisits : List ColumnMap :=
  [.ofList [("Person", .value (.integer 1)), ("Town", .text "Oslo")],
    .ofList [("Remark", .text "late"), ("Town", .text "Bergen"), ("Person", .value (.integer 2))],
    .ofList [("Person", .value (.integer 3))]]

/-- An insertion of the visits that returns the person. -/
def visitEntry : Insert :=
  ⟨.text "Visit", [], .rows visits, none, none, .empty, [.text "Person"], none⟩

theorem RowForm.remarkedVisits_written :
    RowForm.insertion.write .inline .ordinary remarkedVisits =
        RowForm.insertion.write .inline .ordinary visits ∧
      (visitEntry.write .inline .ordinary).start () =
        (.ok ("INSERT INTO \"Visit\" (\"Person\", \"Town\") VALUES ('1', 'Oslo'), ('2', 'Bergen'), "
          ++ "('3', DEFAULT) RETURNING \"Person\""), ()) ∧
      ((table "Visit").write .inline .ordinary remarkedVisits).start () =
        (.ok ("(VALUES ('1', 'Oslo'), ('2', 'Bergen'), ('3', NULL)) "
          ++ "\"Visit\"(\"Person\", \"Town\")"), ()) := by
  have agree : List.Forall₂ (ColumnMap.AgreesOn ["Person", "Town"]) visits.tail
      remarkedVisits.tail := by
    refine .cons ⟨ColumnMap.nodup_columns_ofList _, ColumnMap.nodup_columns_ofList _, ?_⟩
      (.cons ⟨ColumnMap.nodup_columns_ofList _, ColumnMap.nodup_columns_ofList _, .refl _⟩ .nil)
    exact .swap _ _ _
  obtain ⟨_, _, others, placed, _⟩ := rectangle_or_fault .inline .ordinary .insertion visits ()
  refine ⟨others _ _ _ rfl agree, ?_, rfl⟩
  rw [placed visitEntry rfl]
  rfl

end SqlTree
