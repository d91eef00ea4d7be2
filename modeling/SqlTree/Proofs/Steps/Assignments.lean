/-
This file proves that what is assigned to a column is what it was first mentioned
with. An update and an insertion take mentions of columns one at a time or in a
map, with other steps between them. The list of assignments has the first mention
of each column, in the order of the mentions, and nothing of the later ones; the
rest of the statement is what the other steps make of it.

Updates and insertions are two values of one slot: where the assignments are in
the statement, which steps mention columns, and what the statement is with and
without assignments. A step that mentions columns changes the slot only, and any
other step leaves it alone, so a run splits into the two; the result is proved
once for the slot, by induction on the run, and holds of both statements.
-/

import SqlTree.Proofs.ColumnMap
import SqlTree.Proofs.SingleName
import SqlTree.Proofs.Steps.Conditions
import SqlTree.Proofs.Steps.Insertion

namespace SqlTree

open Rendering (check ofText clause listClause commaSeparated)

/-! ### First mentions -/

/-- The mentions without those of a column that was mentioned before. -/
def firstMentions (mentions : List Field) : List Field :=
  mentions.eraseDupsBy fun mention earlier => mention.column = earlier.column

/-- The first mention stays, and the later mentions of its column go. -/
theorem firstMentions_cons (mention : Field) (rest : List Field) :
    firstMentions (mention :: rest) =
      mention :: firstMentions (rest.filter fun later => later.column ≠ mention.column) := by
  rw [firstMentions, List.eraseDupsBy_cons, firstMentions]
  congr 2
  refine List.filter_congr fun later _ => ?_
  by_cases same : later.column = mention.column <;> simp [same]

/-- Where no column is mentioned twice, all mentions are first ones. -/
theorem firstMentions_eq_self {mentions : List Field}
    (distinct : (mentions.map Field.column).Nodup) : firstMentions mentions = mentions := by
  induction mentions with
  | nil => rfl
  | cons mention rest inductionHypothesis =>
    obtain ⟨fresh, restDistinct⟩ := List.nodup_cons.mp distinct
    have others : rest.filter (fun later => later.column ≠ mention.column) = rest := by
      refine List.filter_eq_self.mpr fun later member => decide_eq_true fun same => ?_
      exact fresh (List.mem_map.mpr ⟨later, member, same⟩)
    rw [firstMentions_cons, others, inductionHypothesis restDistinct]

namespace ColumnMap

theorem insertNewAll_append (map : ColumnMap) (mentions more : List Field) :
    (map.insertNewAll ⟨mentions⟩).insertNewAll ⟨more⟩ = map.insertNewAll ⟨mentions ++ more⟩ :=
  List.foldl_append.symm

/-- A map takes the first mention of each column that it does not have yet. -/
theorem fields_insertNewAll (map : ColumnMap) (mentions : List Field) :
    (map.insertNewAll ⟨mentions⟩).fields =
      map.fields ++
        firstMentions (mentions.filter fun mention => mention.column ∉ map.columns) := by
  induction mentions generalizing map with
  | nil => exact (List.append_nil _).symm
  | cons mention rest inductionHypothesis =>
    obtain ⟨column, operand⟩ := mention
    show ((map.insertNew column operand).insertNewAll ⟨rest⟩).fields = _
    rw [inductionHypothesis, fields_insertNew, columns_insertNew]
    by_cases present : column ∈ map.columns
    · rw [if_pos present, if_pos present, List.filter_cons_of_neg (by simpa using present)]
    · have narrowed :
          (rest.filter fun later => later.column ∉ map.columns ++ [column]) =
            (rest.filter fun later => later.column ∉ map.columns).filter fun later =>
              later.column ≠ column := by
        rw [List.filter_filter]
        refine List.filter_congr fun later _ => ?_
        simp [and_comm]
      rw [if_neg present, if_neg present, List.filter_cons_of_pos (by simpa using present),
        firstMentions_cons, narrowed, List.append_assoc]
      rfl

theorem nodup_columns_insertNewAll {map : ColumnMap} (distinct : map.columns.Nodup)
    (mentions : List Field) : (map.insertNewAll ⟨mentions⟩).columns.Nodup := by
  induction mentions generalizing map with
  | nil => exact distinct
  | cons mention rest inductionHypothesis =>
    have stillDistinct : (map.insertNew mention.column mention.operand).columns.Nodup := by
      rw [columns_insertNew]
      split
      · exact distinct
      · next absent =>
        exact distinct.append (List.nodup_singleton _) (List.disjoint_singleton.mpr absent)
    exact inductionHypothesis stillDistinct

/-- A column has what the map had, or else what it was first mentioned with. -/
theorem get?_insertNewAll (map : ColumnMap) (mentions : List Field) (column : String) :
    (map.insertNewAll ⟨mentions⟩).get? column =
      (map.get? column).or
        ((mentions.find? fun mention => mention.column = column).map Field.operand) := by
  induction mentions generalizing map with
  | nil => exact (Option.or_none).symm
  | cons mention rest inductionHypothesis =>
    show ((map.insertNew mention.column mention.operand).insertNewAll ⟨rest⟩).get? column = _
    rw [inductionHypothesis, get?_insertNew, Option.or_assoc]
    by_cases same : mention.column = column
    · rw [if_pos same, List.find?_cons_of_pos (by simpa using same)]
      rfl
    · rw [if_neg same, List.find?_cons_of_neg (by simpa using same), Option.none_or]

/-- The assignments that mentions make, one after another. -/
theorem fields_empty_insertNewAll (mentions : List Field) :
    (empty.insertNewAll ⟨mentions⟩).fields = firstMentions mentions := by
  rw [fields_insertNewAll]
  exact congrArg firstMentions (List.filter_eq_self.mpr fun _ _ => decide_eq_true List.not_mem_nil)

/-- Later mentions can be left out beforehand. -/
theorem insertNewAll_firstMentions (mentions : List Field) :
    empty.insertNewAll ⟨firstMentions mentions⟩ = empty.insertNewAll ⟨mentions⟩ := by
  have distinct : ((firstMentions mentions).map Field.column).Nodup := by
    rw [← fields_empty_insertNewAll]
    exact nodup_columns_insertNewAll nodup_columns_empty mentions
  refine eq_of_fields ?_
  rw [fields_empty_insertNewAll, fields_empty_insertNewAll, firstMentions_eq_self distinct]

end ColumnMap

/-! ### Assignments in a list -/

/-- Assignments one after another, each column with its operand as a value. -/
def renderAssignments (context : Context) (fields : List Field) : Rendering :=
  commaSeparated (fields.map fun field =>
    ofText (quotePath field.column ++ " = ") ++ field.operand.renderValue context .array)

theorem renderCells_eq_map (context : Context) (fields : List Field) :
    renderCells context fields =
      fields.map fun field => (field.column, field.operand.renderValue context .array) := by
  induction fields with
  | nil => rfl
  | cons field rest inductionHypothesis =>
    obtain ⟨column, operand⟩ := field
    rw [renderCells, inductionHypothesis, List.map_cons]

/-- The assignments of a map are those of its fields in a list. -/
theorem commaSeparated_cells (context : Context) (map : ColumnMap) :
    commaSeparated ((map.cells context).map renderAssignment) =
      renderAssignments context map.fields := by
  obtain ⟨fields⟩ := map
  rw [ColumnMap.cells, renderCells_eq_map, List.map_map]
  rfl

theorem isEmpty_cells (context : Context) (map : ColumnMap) :
    (map.cells context).isEmpty = map.fields.isEmpty := by
  obtain ⟨fields⟩ := map
  rw [ColumnMap.cells, renderCells_eq_map, List.isEmpty_map]

/-- The scalars of an operand that is assigned. -/
def Field.scalars (field : Field) : List Value :=
  (field.operand.renderValue .ordinary .array).scalars

/-- Assignments hand over the scalars of their operands in the order of the columns. -/
theorem scalars_renderAssignments {fields : List Field}
    (sound : (renderAssignments .ordinary fields).fails = false) :
    (renderAssignments .ordinary fields).scalars = fields.flatMap Field.scalars := by
  rw [renderAssignments, Rendering.fails_commaSeparated] at sound
  rw [renderAssignments, commaSeparated, Rendering.scalars_join _ sound, List.flatMap_map]
  simp only [Rendering.scalars_append, Rendering.scalars_ofText, List.nil_append,
    Rendering.fails_ofText, Bool.false_eq_true, if_false]
  rfl

/-! ### Assignments in a statement -/

/-- The assignments of a statement, with the steps that mention columns. All other
steps leave the assignments alone and do not look at them. -/
structure AssignmentSlot (Statement Step : Type) where
  node : Statement → Node
  take : Statement → Step → Statement
  /-- The columns that a step mentions with what they would be assigned, if it does. -/
  mentioned? : Step → Option (List Field)
  assignments : Statement → ColumnMap
  put : Statement → ColumnMap → Statement
  put_assignments : ∀ statement, put statement (assignments statement) = statement
  assignments_put : ∀ statement stored, assignments (put statement stored) = stored
  put_put : ∀ statement first second, put (put statement first) second = put statement second
  /-- Mentions one column. -/
  assign : Statement → Field → Statement
  assign_eq : ∀ statement mention, assign statement mention =
    put statement ((assignments statement).insertNew mention.column mention.operand)
  take_of_mentioned : ∀ {step mentions}, mentioned? step = some mentions → ∀ statement,
    take statement step = put statement ((assignments statement).insertNewAll ⟨mentions⟩)
  take_put_of_none : ∀ {step}, mentioned? step = none → ∀ statement stored,
    take (put statement stored) step = put (take statement step) stored
  /-- Whether the statement writes its assignments. -/
  isWritten : Statement → Bool
  isWritten_put : ∀ statement stored, isWritten (put statement stored) = isWritten statement
  /-- What comes before the assignments. -/
  opening : Statement → Context → Rendering
  closing : Statement → Context → Rendering
  /-- What the statement says if nothing is assigned. -/
  bare : Statement → Context → Rendering
  render_put : ∀ {statement}, isWritten statement → ∀ stored context,
    (node (put statement stored)).render context =
      if stored.fields.isEmpty then bare statement context
      else opening statement context ++ (renderAssignments context stored.fields
        ++ closing statement context)

namespace AssignmentSlot

variable {Statement Step : Type} (slot : AssignmentSlot Statement Step)

/-- The columns that steps mention, in their order. -/
def mentions (steps : List Step) : List Field :=
  steps.flatMap fun step => (slot.mentioned? step).getD []

/-- The steps that leave the assignments alone. -/
def others (steps : List Step) : List Step :=
  steps.filter fun step => (slot.mentioned? step).isNone

theorem assignAll_put (statement : Statement) (stored : ColumnMap) (mentions : List Field) :
    mentions.foldl slot.assign (slot.put statement stored) =
      slot.put statement (stored.insertNewAll ⟨mentions⟩) := by
  induction mentions generalizing stored with
  | nil => rfl
  | cons mention rest inductionHypothesis =>
    rw [List.foldl_cons, slot.assign_eq, slot.assignments_put, slot.put_put, inductionHypothesis]
    rfl

/-- A run of steps adds up its mentions apart from what the other steps do. -/
theorem takeAll_put (statement : Statement) (stored : ColumnMap) (steps : List Step) :
    steps.foldl slot.take (slot.put statement stored) =
      slot.put ((slot.others steps).foldl slot.take statement)
        (stored.insertNewAll ⟨slot.mentions steps⟩) := by
  induction steps generalizing statement stored with
  | nil => rfl
  | cons step rest inductionHypothesis =>
    rw [List.foldl_cons, others, List.filter_cons, mentions, List.flatMap_cons]
    cases asked : slot.mentioned? step with
    | none =>
      rw [slot.take_put_of_none asked, inductionHypothesis]
      rfl
    | some mentioned =>
      rw [slot.take_of_mentioned asked, slot.assignments_put, slot.put_put, inductionHypothesis,
        ColumnMap.insertNewAll_append]
      rfl

theorem others_others (steps : List Step) :
    slot.others (slot.others steps) = slot.others steps := by
  rw [others, others, List.filter_filter]
  simp only [Bool.and_self]

theorem mentions_others (steps : List Step) : slot.mentions (slot.others steps) = [] := by
  refine List.flatMap_eq_nil_iff.mpr fun step member => ?_
  rw [Option.isNone_iff_eq_none.mp (List.mem_filter.mp member).2]
  rfl

/-- What a run makes of a statement without assignments. -/
theorem takeAll_eq_put {start : Statement} (unassigned : slot.assignments start = .empty)
    (steps : List Step) :
    steps.foldl slot.take start =
      slot.put ((slot.others steps).foldl slot.take start)
        (ColumnMap.empty.insertNewAll ⟨slot.mentions steps⟩) := by
  rw [← takeAll_put, ← unassigned, slot.put_assignments]

/-- However a run mentions columns, the statement is the one that takes the other steps
first and then the first mention of each column on its own, so that other batches of
the same mentions make no difference. Where the assignments are written, they are
those of the first mentions in their order, with the scalars of these in the same
order; what stands around them depends on the other steps only. -/
def KeepsFirst (start : Statement) : Prop :=
  ∀ steps : List Step,
    let built := steps.foldl slot.take start
    let rest := (slot.others steps).foldl slot.take start
    let firsts := firstMentions (slot.mentions steps)
    built = firsts.foldl slot.assign rest ∧
      (∀ batches, slot.mentions batches = slot.mentions steps →
        slot.others batches = slot.others steps → batches.foldl slot.take start = built) ∧
      (slot.assignments built).fields = firsts ∧
      (slot.assignments built).columns.Nodup ∧
      (∀ column, (slot.assignments built).get? column =
        ((slot.mentions steps).find? fun mention => mention.column = column).map
          Field.operand) ∧
      (slot.isWritten built →
        (∀ (State : Type) (sink : Sink State) [sink.Answers] (context : Context),
          (slot.node built).write sink context =
            (if firsts.isEmpty then slot.bare rest context
              else slot.opening rest context ++ (renderAssignments context firsts
                ++ slot.closing rest context)).writeTo sink) ∧
          ∀ prepared, firsts ≠ [] → (slot.node built).prepare = .ok prepared →
            prepared.values = (slot.opening rest .ordinary).scalars ++
              (firsts.flatMap Field.scalars ++ (slot.closing rest .ordinary).scalars))

/-- A statement that starts with no assignment keeps the first mentions. -/
theorem keepsFirst {start : Statement} (unassigned : slot.assignments start = .empty) :
    slot.KeepsFirst start := by
  intro steps built rest firsts
  have whole : built = slot.put rest (ColumnMap.empty.insertNewAll ⟨slot.mentions steps⟩) :=
    slot.takeAll_eq_put unassigned steps
  have restAlone : rest = slot.put rest .empty := by
    have kept := slot.takeAll_eq_put unassigned (slot.others steps)
    rwa [others_others, mentions_others] at kept
  have stored : slot.assignments built =
      ColumnMap.empty.insertNewAll ⟨slot.mentions steps⟩ := by
    rw [whole, slot.assignments_put]
  have fields : (slot.assignments built).fields = firsts := by
    rw [stored, ColumnMap.fields_empty_insertNewAll]
  refine ⟨?_, fun batches sameMentions sameOthers => ?_, fields, ?_, fun column => ?_,
    fun written => ?_⟩
  · calc built = slot.put rest (ColumnMap.empty.insertNewAll ⟨firsts⟩) := by
          rw [whole, ColumnMap.insertNewAll_firstMentions]
      _ = firsts.foldl slot.assign (slot.put rest .empty) := (slot.assignAll_put _ _ _).symm
      _ = firsts.foldl slot.assign rest := by rw [← restAlone]
  · rw [slot.takeAll_eq_put unassigned, sameMentions, sameOthers, whole]
  · rw [stored]
    exact ColumnMap.nodup_columns_insertNewAll ColumnMap.nodup_columns_empty _
  · rw [stored, ColumnMap.get?_insertNewAll]
    rfl
  · have restWritten : slot.isWritten rest := by
      rwa [whole, slot.isWritten_put] at written
    have rendered (context : Context) : (slot.node built).render context =
        if firsts.isEmpty then slot.bare rest context
        else slot.opening rest context ++ (renderAssignments context firsts
          ++ slot.closing rest context) := by
      rw [whole, slot.render_put restWritten, ColumnMap.fields_empty_insertNewAll]
    refine ⟨fun State sink _ context => ?_, fun prepared present succeeded => ?_⟩
    · rw [Node.write_eq, rendered]
    · obtain ⟨sound, valued⟩ := Node.scalars_of_prepare succeeded
      rw [rendered, if_neg (by simpa using present)] at sound valued
      rw [Rendering.fails_append, Rendering.fails_append, Bool.or_eq_false_iff,
        Bool.or_eq_false_iff] at sound
      obtain ⟨openingSound, listSound, -⟩ := sound
      rw [valued, Rendering.scalars_append, openingSound, Rendering.scalars_append, listSound,
        scalars_renderAssignments listSound]
      rfl

end AssignmentSlot

/-! ### Updates and insertions -/

namespace Update

/-- The statement with other assignments. -/
def assigning (statement : Update) (stored : ColumnMap) : Update :=
  { statement with assignments := stored }

theorem assigning_assignments (statement : Update) :
    statement.assigning statement.assignments = statement := by
  cases statement
  rfl

/-- The assignments of an update. -/
def assignmentSlot : AssignmentSlot Update UpdateStep where
  node := .update
  take := take
  mentioned?
    | .assign column operand => some [⟨column, operand⟩]
    | .assignAll assignments => some assignments.fields
    | _ => none
  assignments := assignments
  put := assigning
  put_assignments := assigning_assignments
  assignments_put _ _ := rfl
  put_put _ _ _ := rfl
  assign statement mention := statement.assign mention.column mention.operand
  assign_eq _ _ := rfl
  take_of_mentioned {step mentions} asked statement := by
    cases step with
    | assign column operand | assignAll assignments => cases asked; rfl
    | source _ | condition _ | returning _ => cases asked
  take_put_of_none {step} asked statement stored := by
    cases step with
    | assign _ _ | assignAll _ => cases asked
    | source _ | condition _ | returning _ => rfl
  isWritten _ := true
  isWritten_put _ _ := rfl
  opening statement context :=
    ofText "UPDATE " ++ statement.table.renderName context ++ ofText " SET "
  closing statement context :=
    listClause " FROM " (renderNames context statement.sources)
      ++ clause " WHERE " (statement.condition.render context)
      ++ listClause " RETURNING " (renderNames context statement.returning)
  bare _ _ := .fail .updateWithoutAssignments
  render_put {statement} _ stored context := by
    obtain ⟨table, _, sources, condition, returning⟩ := statement
    have sameEmptiness := isEmpty_cells context stored
    have sameList := commaSeparated_cells context stored
    cases cells : stored.cells context with
    | nil =>
      rw [cells] at sameEmptiness
      rw [assigning, Node.render, Update.render, cells, ← sameEmptiness]
      rfl
    | cons first others =>
      rw [cells] at sameEmptiness sameList
      rw [assigning, Node.render, Update.render, cells, ← sameEmptiness, ← sameList]
      simp only [Rendering.append_assoc]
      rfl

end Update

namespace Insert

/-- The columns that a step mentions with what they would be assigned. -/
def mentioned? : InsertStep → Option (List Field)
  | .update assignments => some assignments.fields
  | .updateColumns columns => some (columns.map fun column => ⟨column, proposed column⟩)
  | _ => none

/-- Taking rows or a query does not look at the assignments. -/
theorem accept_assigning (statement : Insert) (stored : ColumnMap) (supply : Supply) :
    { statement with update := stored }.accept supply =
      { statement.accept supply with update := stored } := by
  obtain ⟨table, columns, body, conflict, constraint, update, returning, misuse⟩ := statement
  match supply, body with
  | .row _, .rows _ | .row _, .query _ | .query _, .rows [] | .query _, .rows (_ :: _)
  | .query _, .query _ => rfl

theorem addRows_assigning (statement : Insert) (stored : ColumnMap) (rows : List ColumnMap) :
    { statement with update := stored }.addRows rows =
      { statement.addRows rows with update := stored } := by
  induction rows generalizing statement with
  | nil => rfl
  | cons row rest inductionHypothesis =>
    show ({ statement with update := stored }.accept (.row row)).addRows rest = _
    rw [accept_assigning, inductionHypothesis]
    rfl

/-- What comes before the resolution of a conflict. -/
def renderHead (context : Context) (statement : Insert) : Rendering :=
  check statement.misuse ++ ofText "INSERT INTO " ++ statement.table.renderName context
    ++ statement.body.render context (renderNames context statement.columns)
    ++ ofText " ON CONFLICT" ++ renderConflict context statement.constraint statement.conflict

/-- The assignments of an insertion, which apply on conflict. -/
def assignmentSlot : AssignmentSlot Insert InsertStep where
  node := .insert
  take := take
  mentioned? := mentioned?
  assignments := update
  put statement stored := { statement with update := stored }
  put_assignments statement := by cases statement; rfl
  assignments_put _ _ := rfl
  put_put _ _ _ := rfl
  assign statement mention := statement.addUpdate ⟨[mention]⟩
  assign_eq _ _ := rfl
  take_of_mentioned {step mentions} asked statement := by
    cases step with
    | update assignments => cases asked; rfl
    | updateColumns columns =>
      cases asked
      rw [ColumnMap.insertNewAll, List.foldl_map]
      rfl
    | row _ | rows _ | columns _ | query _ | conflict _ | constraint _ | pass | returning _ =>
      cases asked
  take_put_of_none {step} asked statement stored := by
    cases step with
    | update _ | updateColumns _ => cases asked
    | columns _ | conflict _ | constraint _ | pass | returning _ => rfl
    | row row => exact accept_assigning statement stored (.row row)
    | rows rows => exact addRows_assigning statement stored rows
    | query query => exact accept_assigning statement stored (.query query)
  isWritten statement := statement.conflict.isSome || statement.constraint.isSome
  isWritten_put _ _ := rfl
  opening statement context := statement.renderHead context ++ ofText " DO UPDATE SET "
  closing statement context := listClause " RETURNING " (renderNames context statement.returning)
  bare statement context :=
    statement.renderHead context ++ ofText " DO NOTHING"
      ++ listClause " RETURNING " (renderNames context statement.returning)
  render_put {statement} written stored context := by
    obtain ⟨table, columns, body, conflict, constraint, _, returning, misuse⟩ := statement
    have handled : (conflict.isSome || constraint.isSome) = true := written
    rw [Node.render, Insert.render, handled, renderResolution, isEmpty_cells, commaSeparated_cells]
    by_cases unassigned : stored.fields.isEmpty
    · simp only [unassigned, if_true, renderHead, Rendering.append_assoc]
    · simp only [unassigned, if_true, Bool.false_eq_true, if_false, renderHead,
        Rendering.append_assoc]

end Insert

/-- Whatever mentions an update and an insertion get, and in whichever batches and
between whichever other steps, each column is assigned what it was first mentioned
with. A column that is mentioned without an operand is assigned what was proposed
for it: the path of the column in the proposed row, which is the column under its
quoted name exactly if the column has a single name. -/
theorem first_mention_stays :
    (∀ table, Update.assignmentSlot.KeepsFirst (.ofTable table)) ∧
      (∀ table, Insert.assignmentSlot.KeepsFirst (.ofTable table)) ∧
      ∀ context column,
        (Insert.proposed column).renderValue context .array =
            ofText (quotePath ("EXCLUDED." ++ column)) ∧
          (quotePath ("EXCLUDED." ++ column) = "EXCLUDED." ++ quoteName column ↔
            IsSingleName column) := by
  refine ⟨fun _ => Update.assignmentSlot.keepsFirst rfl,
    fun _ => Insert.assignmentSlot.keepsFirst rfl, fun context column =>
      ⟨?_, quotePath_proposed_eq_iff column⟩⟩
  show ofText ("" ++ quotePath ("EXCLUDED." ++ column)) = _
  rw [String.empty_append]

/-- A guest who may be there already. The name is mentioned twice, with a text first, and
the town as well, first as what was proposed. -/
def returningGuest : List InsertStep :=
  [.update (.ofList [("Name", .text "Ada")]),
    .row (.ofList [("Id", .value (.integer 1)), ("Town", .text "Oslo")]),
    .updateColumns ["Name", "Town"], .conflict [.text "Id"],
    .update (.ofList [("Town", .text "Bergen"), ("Visits", .value (.integer 2))])]

theorem returningGuest_assigned :
    Insert.assignmentSlot.isWritten (.built (.text "Guest") returningGuest) = true ∧
      (Insert.built (.text "Guest") returningGuest).update.columns = ["Name", "Town", "Visits"] ∧
      (Node.insert (.built (.text "Guest") returningGuest)).prepare =
        .ok ⟨"INSERT INTO \"Guest\" (\"Id\", \"Town\") VALUES ($1, $2) ON CONFLICT (\"Id\")"
          ++ " DO UPDATE SET \"Name\" = $3, \"Town\" = EXCLUDED.\"Town\", \"Visits\" = $4",
          [.integer 1, .text "Oslo", .text "Ada", .integer 2]⟩ ∧
      [.integer 1, .text "Oslo", .text "Ada", .integer 2] =
        [.integer 1, .text "Oslo"] ++
          (firstMentions (Insert.assignmentSlot.mentions returningGuest)).flatMap
            Field.scalars := by
  have written : Insert.assignmentSlot.isWritten (.built (.text "Guest") returningGuest) := rfl
  obtain ⟨-, -, fields, -, -, writes⟩ := first_mention_stays.2.1 (.text "Guest") returningGuest
  obtain ⟨-, values⟩ := writes written
  refine ⟨written, ?_, rfl, (values _ (List.cons_ne_nil _ _) rfl).trans ?_⟩
  · exact congrArg (List.map Field.column) fields
  · rfl

end SqlTree
