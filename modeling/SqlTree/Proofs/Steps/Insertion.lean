/-
This file proves what an insertion makes of the rows and the queries that it is
handed, whatever other steps come between them. It keeps rows or one query, but
never both. The first step that would mix them, or bring a second query, is
recorded and stays so; such steps change nothing else, and from then on the
insertion fails to be written with what was recorded first.

What the insertion should hold is kept apart from it, as rows and at most one
query beside each other with the first misuse, and every step of the insertion is
a step of these holdings. That they are never rows and a query at once is an
invariant of the holdings. The insertion itself stores only one of the two, so the
invariant is what makes it say as much as the holdings do.
-/

import SqlTree.Proofs.Misuse.Refusal
import SqlTree.Tree.Change
import SqlTree.Tree.Query

namespace SqlTree

/-! ### Steps -/

/-- What an insertion is handed to take its rows from. -/
inductive Supply where
  | row (row : ColumnMap)
  | query (query : Node)

namespace Supply

/-- The row, if it is one. -/
def row? : Supply → Option ColumnMap
  | .row fields => some fields
  | .query _ => none

/-- Whether a row is handed over. -/
def isRow (supply : Supply) : Bool :=
  supply.row?.isSome

/-- Whether it goes with what came before: the first does, and then rows go with
rows. -/
def goesWith (earlier : List Supply) (supply : Supply) : Bool :=
  match earlier with
  | [] => true
  | first :: _ => first.isRow && supply.isRow

/-- What is wrong with a supply that does not go with what came before. -/
def offence (earlier : List Supply) : Misuse :=
  if earlier.head?.any isRow then .rowsExist else .queryExists

/-- The query if it came first, or else all the rows. -/
def body : List Supply → InsertBody
  | .query inner :: _ => .query inner
  | supplies => .rows (supplies.filterMap row?)

theorem body_rows_append (first last : ColumnMap) (rest : List Supply) :
    body (row first :: rest ++ [row last]) = .rows (first :: rest.filterMap row? ++ [last]) := by
  show InsertBody.rows (first :: (rest ++ [row last]).filterMap row?) = _
  rw [List.filterMap_append]
  rfl

end Supply

/-- A step in which an insertion is built. -/
inductive InsertStep where
  | row (row : ColumnMap)
  | rows (rows : List ColumnMap)
  | columns (columns : List Operand)
  | query (query : Node)
  | conflict (columns : List Operand)
  | constraint (name : String)
  /-- Nothing is done on conflict, as long as there are no assignments. -/
  | pass
  | update (assignments : ColumnMap)
  | updateColumns (columns : List String)
  | returning (columns : List Operand)

/-- What the insertion is handed in a step, row by row. -/
def InsertStep.supplies : InsertStep → List Supply
  | .row fields => [.row fields]
  | .rows list => list.map .row
  | .query inner => [.query inner]
  | .columns _ | .conflict _ | .constraint _ | .pass | .update _ | .updateColumns _
  | .returning _ => []

/-- What the insertion is handed in a run of steps. -/
def InsertStep.allSupplies (steps : List InsertStep) : List Supply :=
  steps.flatMap supplies

namespace Insert

variable (statement : Insert)

/-- Takes one step. -/
def take : InsertStep → Insert
  | .row row => statement.addRow row
  | .rows rows => statement.addRows rows
  | .columns columns => statement.addColumns columns
  | .query query => statement.fromQuery query
  | .conflict columns => statement.onConflict columns
  | .constraint name => statement.onConstraint name
  | .pass => statement
  | .update assignments => statement.addUpdate assignments
  | .updateColumns columns => statement.addUpdateColumns columns
  | .returning columns => statement.addReturning columns

/-- Takes the steps one after another. -/
def takeAll (steps : List InsertStep) : Insert :=
  steps.foldl take statement

/-- Hands over a row or a query. -/
def accept : Supply → Insert
  | .row row => statement.addRow row
  | .query query => statement.fromQuery query

/-- Builds an insertion into a table. -/
def built (table : Operand) (steps : List InsertStep) : Insert :=
  (ofTable table).takeAll steps

end Insert

/-! ### Rows and a query in places of their own -/

/-- Rows and a query that are kept apart, and the first misuse. Nothing in the
form of it keeps rows and a query from being there together. -/
structure Holdings where
  rows : List ColumnMap
  query : Option Node
  misuse : Option Misuse

namespace Holdings

/-- There is nothing yet. -/
def empty : Holdings :=
  ⟨[], none, none⟩

variable (holdings : Holdings)

/-- Records a misuse, unless there is one already. -/
def record (misuse : Misuse) : Holdings :=
  { holdings with misuse := holdings.misuse.or (some misuse) }

/-- Takes a row or a query, or records why it cannot be taken. -/
def take : Supply → Holdings
  | .row row =>
    if holdings.query.isSome then holdings.record .queryExists
    else { holdings with rows := holdings.rows ++ [row] }
  | .query query =>
    if holdings.query.isSome then holdings.record .queryExists
    else if holdings.rows.isEmpty then { holdings with query := some query }
    else holdings.record .rowsExist

/-- Takes what is handed over, one after another. -/
def takeAll (supplies : List Supply) : Holdings :=
  supplies.foldl take holdings

/-- There are no rows or there is no query. -/
def IsOneSided : Prop :=
  holdings.rows = [] ∨ holdings.query = none

variable {holdings}

/-- No step brings rows and a query together. -/
theorem IsOneSided.take (oneSided : holdings.IsOneSided) (supply : Supply) :
    (holdings.take supply).IsOneSided := by
  obtain ⟨rows, query, misuse⟩ := holdings
  match supply, rows, query with
  | .row _, _, none | .query _, _ :: _, none => exact Or.inr rfl
  | .query _, [], none => exact Or.inl rfl
  | .row _, _, some _ | .query _, _, some _ => exact oneSided

theorem IsOneSided.takeAll (oneSided : holdings.IsOneSided) (supplies : List Supply) :
    (holdings.takeAll supplies).IsOneSided := by
  induction supplies generalizing holdings with
  | nil => exact oneSided
  | cons supply rest inductionHypothesis => exact inductionHypothesis (oneSided.take supply)

/-! ### Runs -/

/-- After a query nothing more is taken. -/
theorem takeAll_query (query : Node) (misuse : Option Misuse) (supplies : List Supply) :
    (Holdings.mk [] (some query) misuse).takeAll supplies =
      ⟨[], some query, if supplies.isEmpty then misuse else misuse.or (some .queryExists)⟩ := by
  induction supplies generalizing misuse with
  | nil => rfl
  | cons supply rest inductionHypothesis =>
    have taken : (Holdings.mk [] (some query) misuse).take supply =
        ⟨[], some query, misuse.or (some .queryExists)⟩ := by
      cases supply <;> rfl
    show ((Holdings.mk [] (some query) misuse).take supply).takeAll rest = _
    rw [taken, inductionHypothesis, Option.or_assoc]
    cases rest <;> rfl

/-- After a row only rows are taken. -/
theorem takeAll_rows (row : ColumnMap) (rows : List ColumnMap) (misuse : Option Misuse)
    (supplies : List Supply) :
    (Holdings.mk (row :: rows) none misuse).takeAll supplies =
      ⟨row :: rows ++ supplies.filterMap Supply.row?, none,
        if supplies.all Supply.isRow then misuse else misuse.or (some .rowsExist)⟩ := by
  induction supplies generalizing rows misuse with
  | nil => rw [List.filterMap_nil, List.append_nil]; rfl
  | cons supply rest inductionHypothesis =>
    cases supply with
    | row next =>
      show (Holdings.mk (row :: (rows ++ [next])) none misuse).takeAll rest = _
      rw [inductionHypothesis, ← List.cons_append, List.append_assoc]
      rfl
    | query query =>
      show (Holdings.mk (row :: rows) none (misuse.or (some .rowsExist))).takeAll rest = _
      rw [inductionHypothesis, Option.or_assoc]
      cases rest.all Supply.isRow <;> rfl

/-- What is held in the end, by what came first. -/
theorem takeAll_empty (supplies : List Supply) :
    empty.takeAll supplies =
      match supplies with
      | [] => empty
      | .query query :: rest =>
        ⟨[], some query, if rest.isEmpty then none else some .queryExists⟩
      | .row row :: rest =>
        ⟨row :: rest.filterMap Supply.row?, none,
          if rest.all Supply.isRow then none else some .rowsExist⟩ := by
  match supplies with
  | [] => rfl
  | .query query :: rest => exact takeAll_query query none rest
  | .row row :: rest => exact takeAll_rows row [] none rest

/-- The rows and the query in one place. -/
def body : Holdings → InsertBody
  | ⟨_, some inner, _⟩ => .query inner
  | ⟨list, none, _⟩ => .rows list

theorem body_takeAll_empty (supplies : List Supply) :
    (empty.takeAll supplies).body = Supply.body supplies := by
  rw [takeAll_empty]
  match supplies with
  | [] | .query _ :: _ | .row _ :: _ => rfl

/-- A misuse is recorded, unless there were rows alone or one query alone. -/
theorem misuse_takeAll_empty (supplies : List Supply) :
    (empty.takeAll supplies).misuse.isSome ↔
      ¬ (supplies.all Supply.isRow ∨ ∃ query, supplies = [.query query]) := by
  rw [takeAll_empty]
  match supplies with
  | [] => simp [empty]
  | [.query _] => simp
  | .query _ :: _ :: _ => simp [Supply.isRow, Supply.row?]
  | .row _ :: rest => cases rows : rest.all Supply.isRow <;> simp [rows, Supply.isRow, Supply.row?]

/-- Which misuse is recorded goes by what came first, a row or a query. -/
theorem misuse_eq_offence {supplies : List Supply} {misuse : Misuse}
    (recorded : (empty.takeAll supplies).misuse = some misuse) :
    misuse = Supply.offence supplies := by
  rw [takeAll_empty] at recorded
  match supplies with
  | [] => cases recorded
  | .query _ :: rest | .row _ :: rest =>
    dsimp only at recorded
    split at recorded
    · cases recorded
    · cases recorded
      rfl

end Holdings

/-! ### Insertions -/

namespace Insert

variable {statement : Insert}

/-- The insertion has its rows or its query and its misuse from the holdings. -/
def Holds (statement : Insert) (holdings : Holdings) : Prop :=
  statement.body = holdings.body ∧ statement.misuse = holdings.misuse

/-- A supply does to the insertion what it does to the holdings. -/
theorem Holds.accept {holdings : Holdings} (holds : statement.Holds holdings) (supply : Supply) :
    (statement.accept supply).Holds (holdings.take supply) := by
  obtain ⟨table, columns, body, conflict, constraint, update, returning, found⟩ := statement
  obtain ⟨rows, query, misuse⟩ := holdings
  obtain ⟨sameBody, sameMisuse⟩ := holds
  cases sameMisuse
  match supply, rows, query with
  | .row _, _, some _ | .row _, _, none | .query _, _, some _ | .query _, [], none
  | .query _, _ :: _, none =>
    cases sameBody
    exact ⟨rfl, rfl⟩

theorem Holds.acceptAll {holdings : Holdings} (holds : statement.Holds holdings)
    (supplies : List Supply) :
    (supplies.foldl Insert.accept statement).Holds (holdings.takeAll supplies) := by
  induction supplies generalizing statement holdings with
  | nil => exact holds
  | cons supply rest inductionHypothesis => exact inductionHypothesis (holds.accept supply)

/-- A step that hands nothing over leaves what is held as it is. -/
theorem Holds.take {holdings : Holdings} (holds : statement.Holds holdings) (step : InsertStep) :
    (statement.take step).Holds (holdings.takeAll step.supplies) := by
  cases step with
  | row row => exact holds.accept (.row row)
  | rows rows =>
    have accepted : (rows.map Supply.row).foldl Insert.accept statement = statement.addRows rows :=
      List.foldl_map
    rw [InsertStep.supplies, Insert.take, ← accepted]
    exact holds.acceptAll _
  | query query => exact holds.accept (.query query)
  | columns _ | conflict _ | constraint _ | pass | update _ | updateColumns _ | returning _ =>
    exact holds

/-- A run of steps does to the insertion what its supplies do to the holdings. -/
theorem Holds.takeAll {holdings : Holdings} (holds : statement.Holds holdings)
    (steps : List InsertStep) :
    (statement.takeAll steps).Holds (holdings.takeAll (InsertStep.allSupplies steps)) := by
  induction steps generalizing statement holdings with
  | nil => exact holds
  | cons step rest inductionHypothesis =>
    have taken := inductionHypothesis (holds.take step)
    rwa [Holdings.takeAll, Holdings.takeAll, ← List.foldl_append] at taken

/-- Every insertion that is built holds what it was handed. -/
theorem holds_built (table : Operand) (steps : List InsertStep) :
    (built table steps).Holds (Holdings.empty.takeAll (InsertStep.allSupplies steps)) :=
  Holds.takeAll ⟨rfl, rfl⟩ steps

/-- What is accepted joins what is held, and what is not accepted is recorded
and changes nothing else. -/
theorem accept_eq {earlier : List Supply} (held : statement.body = Supply.body earlier)
    (supply : Supply) :
    statement.accept supply =
      if supply.goesWith earlier then
        { statement with body := Supply.body (earlier ++ [supply]) }
      else statement.record (Supply.offence earlier) := by
  obtain ⟨table, columns, body, conflict, constraint, update, returning, found⟩ := statement
  cases held
  match earlier, supply with
  | [], .row _ | [], .query _ | .query _ :: _, .row _ | .query _ :: _, .query _
  | .row _ :: _, .query _ => rfl
  | .row first :: rest, .row last =>
    exact congrArg (Insert.mk table columns · conflict constraint update returning found)
      (Supply.body_rows_append first last rest).symm

/-! ### What is recorded -/

theorem misuse_accept {misuse : Misuse} (recorded : statement.misuse = some misuse)
    (supply : Supply) : (statement.accept supply).misuse = some misuse := by
  obtain ⟨table, columns, body, conflict, constraint, update, returning, found⟩ := statement
  cases recorded
  match supply, body with
  | .row _, .rows _ | .row _, .query _ | .query _, .rows [] | .query _, .rows (_ :: _)
  | .query _, .query _ => rfl

theorem misuse_addRows {misuse : Misuse} (recorded : statement.misuse = some misuse)
    (rows : List ColumnMap) : (statement.addRows rows).misuse = some misuse := by
  induction rows generalizing statement with
  | nil => exact recorded
  | cons row rest inductionHypothesis =>
    exact inductionHypothesis (misuse_accept recorded (.row row))

/-- No step takes back what is recorded. -/
theorem misuse_take {misuse : Misuse} (recorded : statement.misuse = some misuse)
    (step : InsertStep) : (statement.take step).misuse = some misuse := by
  cases step with
  | row row => exact misuse_accept recorded (.row row)
  | rows rows => exact misuse_addRows recorded rows
  | query query => exact misuse_accept recorded (.query query)
  | columns _ | conflict _ | constraint _ | pass | update _ | updateColumns _ | returning _ =>
    exact recorded

/-- What is recorded stays through every run of steps. -/
theorem misuse_takeAll {misuse : Misuse} (recorded : statement.misuse = some misuse)
    (steps : List InsertStep) : (statement.takeAll steps).misuse = some misuse := by
  induction steps generalizing statement with
  | nil => exact recorded
  | cons step rest inductionHypothesis => exact inductionHypothesis (misuse_take recorded step)

/-! ### Runs of steps -/

/-- However an insertion is built, it holds one query or all the rows. A misuse
is recorded if it is handed rows and a query or two queries. What is not accepted
is recorded and changes nothing else. What is recorded first stays recorded in
all further steps, and the insertion is refused with it in both ways. -/
theorem built_supplies (table : Operand) (steps : List InsertStep) :
    (built table steps).Holds (Holdings.empty.takeAll (InsertStep.allSupplies steps)) ∧
      (Holdings.empty.takeAll (InsertStep.allSupplies steps)).IsOneSided ∧
      (built table steps).body = Supply.body (InsertStep.allSupplies steps) ∧
      ((built table steps).misuse.isSome ↔
        ¬ ((InsertStep.allSupplies steps).all Supply.isRow ∨
          ∃ query, InsertStep.allSupplies steps = [.query query])) ∧
      (∀ misuse, (built table steps).misuse = some misuse →
        (Fault.misuse misuse).message = "Sequencing error: " ++
          if (InsertStep.allSupplies steps).head?.any Supply.isRow then
            "insert values already exist"
          else "a select statement already exists") ∧
      (∀ supply, (built table steps).accept supply =
        if supply.goesWith (InsertStep.allSupplies steps) then
          { built table steps with body := Supply.body (InsertStep.allSupplies steps ++ [supply]) }
        else (built table steps).record (Supply.offence (InsertStep.allSupplies steps))) ∧
      ∀ misuse, (built table steps).misuse = some misuse →
        ∀ later, (built table (steps ++ later)).misuse = some misuse ∧
          (Node.insert (built table (steps ++ later))).Refuses (.misuse misuse) ∧
          (Node.insert (built table (steps ++ later))).toText = .error (.misuse misuse) ∧
          (Node.insert (built table (steps ++ later))).prepare = .error (.misuse misuse) := by
  obtain ⟨sameBody, sameMisuse⟩ := holds_built table steps
  rw [Holdings.body_takeAll_empty] at sameBody
  refine ⟨holds_built table steps, .takeAll (Or.inl rfl) _, sameBody, ?_,
    fun misuse recorded => ?_, accept_eq sameBody, fun misuse recorded later => ?_⟩
  · rw [sameMisuse]
    exact Holdings.misuse_takeAll_empty _
  · rw [sameMisuse] at recorded
    rw [Holdings.misuse_eq_offence recorded, Supply.offence]
    split <;> rfl
  · have kept : (built table (steps ++ later)).misuse = some misuse := by
      rw [built, takeAll, List.foldl_append]
      exact misuse_takeAll recorded later
    exact ⟨kept, refuses kept, (refuses kept).toText, (refuses kept).prepare⟩

/-- Persons from a list, among the steps a query for more of them. -/
def newcomers : List InsertStep :=
  [.rows [⟨[⟨"Name", .text "Ada"⟩]⟩, ⟨[⟨"Name", .text "Alan"⟩]⟩], .pass,
    .query (.select (Select.empty.addSource (.text "Guest")))]

theorem newcomers_refused :
    (built (.text "Person") newcomers).misuse = some .rowsExist ∧
      (Node.insert (built (.text "Person")
        (newcomers ++ [.row ⟨[⟨"Name", .text "Grace"⟩]⟩]))).toText =
        .error (.misuse .rowsExist) :=
  ⟨rfl, ((built_supplies (.text "Person") newcomers).2.2.2.2.2.2 .rowsExist rfl _).2.2.1⟩

end Insert

end SqlTree
