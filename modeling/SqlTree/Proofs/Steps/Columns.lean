/-
This file proves that a map of columns is what the steps in which it was built say.
It has each column once, and under it what the column was last set to, if it was
not removed since. The columns stand in the order in which they entered: a column
keeps its place while it is set again, and loses it when it is removed. A step at
one column leaves the others as they were, in the order that they had.

The history of a map is the list of its settings since it was last made anew, with
a removal as a setting without an operand. What a map should be is said of the
history alone, by the last setting of a column and by the place at which the
column entered and was not removed since. Each step adds to the history and keeps
the map its reflection, and induction on the steps carries this to every run.
-/

import Mathlib.Data.List.Induction
import SqlTree.Proofs.ColumnMap

namespace SqlTree

/-! ### Steps and what they say -/

/-- A step in which a map of columns is built. -/
inductive ColumnStep where
  | insert (column : String) (operand : Operand)
  /-- The column is removed if there is no operand. -/
  | insertOptional (column : String) (operand : Option Operand)
  /-- The map is made anew of a list of entries. -/
  | ofList (entries : List (String × Operand))

/-- A column is set to an operand or, without one, removed. -/
structure Setting where
  column : String
  operand : Option Operand

namespace ColumnStep

/-- What was said before and in the step. What came before a new map counts no more. -/
def record (earlier : List Setting) : ColumnStep → List Setting
  | insert column operand => earlier ++ [⟨column, some operand⟩]
  | insertOptional column operand => earlier ++ [⟨column, operand⟩]
  | ofList entries => entries.map fun entry => ⟨entry.1, some entry.2⟩

/-- The settings that count after some steps, in their order. -/
def history (steps : List ColumnStep) : List Setting :=
  steps.foldl record []

/-- The column of a step that is about one column. -/
def column? : ColumnStep → Option String
  | insert column _ | insertOptional column _ => some column
  | ofList _ => none

end ColumnStep

/-- What a column was last set to; none if it was removed then, or never set. -/
def lastOperand? (history : List Setting) (column : String) : Option Operand :=
  (history.reverse.find? fun setting => setting.column = column).bind Setting.operand

/-- A column entered at a place in the history: it was set there, there was nothing
under it before, and it has not been removed since. -/
structure EntersAt (history : List Setting) (column : String) (place : Nat) : Prop where
  set : ∃ operand, history[place]? = some ⟨column, some operand⟩
  absentBefore : lastOperand? (history.take place) column = none
  keptSince : ⟨column, none⟩ ∉ history.drop (place + 1)

/-- The first column entered at an earlier place than the second. -/
def EntersBefore (history : List Setting) (first second : String) : Prop :=
  ∃ place later, place < later ∧ EntersAt history first place ∧ EntersAt history second later

namespace ColumnMap

/-- Takes one step. -/
def take (map : ColumnMap) : ColumnStep → ColumnMap
  | .insert column operand => map.insert column operand
  | .insertOptional column operand => map.insertOptional column operand
  | .ofList entries => ofList entries

/-- Takes the steps one after another, from the empty map on. -/
def built (steps : List ColumnStep) : ColumnMap :=
  steps.foldl take empty

/-- The map has what a history says, in the order in which it says so. -/
structure Reflects (map : ColumnMap) (history : List Setting) : Prop where
  distinct : map.columns.Nodup
  get?_eq : ∀ column, map.get? column = lastOperand? history column
  enters : ∀ column ∈ map.columns, ∃! place, EntersAt history column place
  ordered : map.columns.Pairwise (EntersBefore history)

end ColumnMap

/-! ### Histories -/

/-- The newest setting decides about its column and about no other. -/
theorem lastOperand?_append (history : List Setting) (setting : Setting) (column : String) :
    lastOperand? (history ++ [setting]) column =
      if setting.column = column then setting.operand else lastOperand? history column := by
  rw [lastOperand?, List.reverse_append, List.reverse_singleton, List.singleton_append,
    List.find?_cons]
  by_cases same : setting.column = column
  · simp [same]
  · simp [same, lastOperand?]

/-- What was set and not removed since is there. -/
theorem lastOperand?_isSome {earlier later : List Setting} {column : String} {operand : Operand}
    (kept : ⟨column, none⟩ ∉ later) :
    (lastOperand? (earlier ++ ⟨column, some operand⟩ :: later) column).isSome := by
  induction later using List.reverseRecOn with
  | nil => rw [lastOperand?_append, if_pos rfl]; rfl
  | append_singleton later setting inductionHypothesis =>
    rw [List.mem_append, not_or, List.mem_singleton] at kept
    rw [← List.cons_append, ← List.append_assoc, lastOperand?_append]
    by_cases same : setting.column = column
    · rw [if_pos same, Option.isSome_iff_ne_none]
      rintro removed
      exact kept.2 (by cases setting; cases same; cases removed; rfl)
    · rw [if_neg same]
      exact inductionHypothesis kept.1

namespace EntersAt

variable {history : List Setting} {column : String} {place later : Nat}

theorem lt_length (enters : EntersAt history column place) : place < history.length := by
  obtain ⟨operand, found⟩ := enters.set
  exact (List.getElem?_eq_some_iff.mp found).1

/-- A column that entered was there at every later place. -/
theorem not_lt (enters : EntersAt history column place)
    (entersLater : EntersAt history column later) : ¬ place < later := by
  intro before
  obtain ⟨operand, found⟩ := enters.set
  obtain ⟨inside, there⟩ := List.getElem?_eq_some_iff.mp found
  obtain ⟨between, rfl⟩ : ∃ between, later = place + (between + 1) :=
    ⟨later - place - 1, by omega⟩
  have split : history.take (place + (between + 1)) =
      history.take place ++ ⟨column, some operand⟩ :: (history.drop (place + 1)).take between := by
    rw [List.take_add, List.drop_eq_getElem_cons inside, there, List.take_succ_cons]
  have present : (lastOperand? (history.take (place + (between + 1))) column).isSome := by
    rw [split]
    exact lastOperand?_isSome fun removed => enters.keptSince (List.mem_of_mem_take removed)
  rw [entersLater.absentBefore] at present
  cases present

theorem unique (enters : EntersAt history column place)
    (other : EntersAt history column later) : place = later :=
  Nat.le_antisymm (Nat.le_of_not_lt (other.not_lt enters)) (Nat.le_of_not_lt (enters.not_lt other))

/-- A column stays where it entered unless it is removed. -/
theorem append (enters : EntersAt history column place) {setting : Setting}
    (kept : setting ≠ ⟨column, none⟩) : EntersAt (history ++ [setting]) column place := by
  have inside := enters.lt_length
  constructor
  · rw [List.getElem?_append_left inside]
    exact enters.set
  · rw [List.take_append_of_le_length (Nat.le_of_lt inside)]
    exact enters.absentBefore
  · rw [List.drop_append_of_le_length inside, List.mem_append, not_or, List.mem_singleton]
    exact ⟨enters.keptSince, Ne.symm kept⟩

/-- What was not there and is set enters at the end. -/
theorem last {operand : Operand} (absent : lastOperand? history column = none) :
    EntersAt (history ++ [⟨column, some operand⟩]) column history.length := by
  constructor
  · exact ⟨operand, List.getElem?_concat_length⟩
  · rw [List.take_left]
    exact absent
  · rw [List.drop_eq_nil_of_le (by simp)]
    exact List.not_mem_nil

end EntersAt

/-- Two columns keep their order unless one of them is removed. -/
theorem EntersBefore.append {history : List Setting} {first second : String} {setting : Setting}
    (before : EntersBefore history first second) (firstKept : setting ≠ ⟨first, none⟩)
    (secondKept : setting ≠ ⟨second, none⟩) :
    EntersBefore (history ++ [setting]) first second := by
  obtain ⟨place, later, order, entersFirst, entersSecond⟩ := before
  exact ⟨place, later, order, entersFirst.append firstKept, entersSecond.append secondKept⟩

namespace ColumnMap

/-! ### One setting -/

theorem reflects_empty : empty.Reflects [] where
  distinct := List.nodup_nil
  get?_eq _ := rfl
  enters _ member := nomatch member
  ordered := .nil

variable {map : ColumnMap} {history : List Setting}

theorem get?_insertOptional (map : ColumnMap) (column : String) (operand : Option Operand)
    (other : String) :
    (map.insertOptional column operand).get? other =
      if column = other then operand else map.get? other := by
  cases operand with
  | none => exact map.get?_erase column other
  | some operand => exact map.get?_insert column operand other

/-- A column that is set keeps its place, or gets the last one if it was not there. -/
theorem Reflects.insert (reflects : map.Reflects history) (column : String) (operand : Operand) :
    (map.insert column operand).Reflects (history ++ [⟨column, some operand⟩]) := by
  have kept (other : String) : (⟨column, some operand⟩ : Setting) ≠ ⟨other, none⟩ := nofun
  have entersStill (other : String) (member : other ∈ map.columns) :
      ∃! place, EntersAt (history ++ [⟨column, some operand⟩]) other place := by
    obtain ⟨place, enters, -⟩ := reflects.enters other member
    have entersNow := enters.append (kept other)
    exact ⟨place, entersNow, fun later entersLater => entersLater.unique entersNow⟩
  have orderedStill : map.columns.Pairwise (EntersBefore (history ++ [⟨column, some operand⟩])) :=
    reflects.ordered.imp fun before => before.append (kept _) (kept _)
  have got (other : String) : (map.insert column operand).get? other =
      lastOperand? (history ++ [⟨column, some operand⟩]) other := by
    rw [get?_insert, lastOperand?_append, reflects.get?_eq]
  by_cases present : column ∈ map.columns
  · have columns : (map.insert column operand).columns = map.columns := by
      rw [columns_insert, if_pos present]
    exact ⟨columns ▸ reflects.distinct, got, columns ▸ entersStill, columns ▸ orderedStill⟩
  · have columns : (map.insert column operand).columns = map.columns ++ [column] := by
      rw [columns_insert, if_neg present]
    have absent : lastOperand? history column = none := by
      rw [← reflects.get?_eq, ← Option.not_isSome_iff_eq_none]
      exact fun there => present ((map.contains_iff column).mp there)
    have entersLast : EntersAt (history ++ [⟨column, some operand⟩]) column history.length :=
      .last absent
    constructor
    · rw [columns]
      exact reflects.distinct.append (List.nodup_singleton _) (List.disjoint_singleton.mpr present)
    · exact got
    · rw [columns]
      intro other member
      rcases List.mem_append.mp member with earlier | new
      · exact entersStill other earlier
      · cases List.mem_singleton.mp new
        exact ⟨_, entersLast, fun later entersLater => entersLater.unique entersLast⟩
    · rw [columns, List.pairwise_append]
      refine ⟨orderedStill, List.pairwise_singleton _ _, fun other member last new => ?_⟩
      cases List.mem_singleton.mp new
      obtain ⟨place, enters, -⟩ := reflects.enters other member
      exact ⟨place, history.length, enters.lt_length, enters.append (kept other), entersLast⟩

/-- When a column is removed the others move up. -/
theorem Reflects.erase (reflects : map.Reflects history) (column : String) :
    (map.erase column).Reflects (history ++ [⟨column, none⟩]) := by
  have kept {other : String} (member : other ∈ (map.erase column).columns) :
      other ∈ map.columns ∧ (⟨column, none⟩ : Setting) ≠ ⟨other, none⟩ := by
    rw [columns_erase, List.mem_filter, decide_eq_true_eq] at member
    exact ⟨member.1, fun same => member.2 (congrArg Setting.column same).symm⟩
  constructor
  · rw [columns_erase]
    exact reflects.distinct.filter _
  · intro other
    rw [get?_erase, lastOperand?_append, reflects.get?_eq]
  · intro other member
    obtain ⟨earlier, differs⟩ := kept member
    obtain ⟨place, enters, -⟩ := reflects.enters other earlier
    have entersNow := enters.append differs
    exact ⟨place, entersNow, fun later entersLater => entersLater.unique entersNow⟩
  · have ordered : (map.erase column).columns.Pairwise (EntersBefore history) := by
      rw [columns_erase]
      exact reflects.ordered.filter _
    exact ordered.imp_of_mem fun first second before =>
      before.append (kept first).2 (kept second).2

/-- A setting keeps a map the reflection of its history. -/
theorem Reflects.insertOptional (reflects : map.Reflects history) (setting : Setting) :
    (map.insertOptional setting.column setting.operand).Reflects (history ++ [setting]) := by
  obtain ⟨column, operand⟩ := setting
  cases operand with
  | none => exact reflects.erase column
  | some operand => exact reflects.insert column operand

/-! ### Runs of steps -/

theorem Reflects.insertAll (reflects : map.Reflects history) (entries : List (String × Operand)) :
    (entries.foldl (fun map entry => map.insert entry.1 entry.2) map).Reflects
      (history ++ entries.map fun entry => ⟨entry.1, some entry.2⟩) := by
  induction entries generalizing map history with
  | nil => simpa using reflects
  | cons entry rest inductionHypothesis =>
    rw [List.map_cons, List.append_cons]
    exact inductionHypothesis (reflects.insert entry.1 entry.2)

/-- Every step keeps a map the reflection of what was recorded. -/
theorem Reflects.take (reflects : map.Reflects history) (step : ColumnStep) :
    (map.take step).Reflects (step.record history) := by
  cases step with
  | insert column operand => exact reflects.insert column operand
  | insertOptional column operand => exact reflects.insertOptional ⟨column, operand⟩
  | ofList entries => exact reflects_empty.insertAll entries

/-- Every map that is built reflects its history, by induction on the steps. -/
theorem reflects_built (steps : List ColumnStep) :
    (built steps).Reflects (ColumnStep.history steps) := by
  have run {map : ColumnMap} {history : List Setting} (reflects : map.Reflects history) :
      (steps.foldl ColumnMap.take map).Reflects (steps.foldl ColumnStep.record history) := by
    induction steps generalizing map history with
    | nil => exact reflects
    | cons step rest inductionHypothesis => exact inductionHypothesis (reflects.take step)
  exact run reflects_empty

/-- A step at one column does not touch the fields of the others. -/
theorem filter_take {step : ColumnStep} {column : String} (about : step.column? = some column)
    (map : ColumnMap) :
    (map.take step).fields.filter (fun field => field.column ≠ column) =
      map.fields.filter fun field => field.column ≠ column := by
  match step with
  | .insert _ operand | .insertOptional _ (some operand) =>
    cases about
    exact filter_insertField ⟨column, operand⟩ map.fields
  | .insertOptional _ none =>
    cases about
    exact map.filter_erase column
  | .ofList _ => cases about

theorem get?_take_of_ne {step : ColumnStep} {column other : String}
    (about : step.column? = some column) (differs : other ≠ column) (map : ColumnMap) :
    (map.take step).get? other = map.get? other := by
  cases step with
  | insert _ operand =>
    cases about
    exact (map.get?_insert column operand other).trans (if_neg (Ne.symm differs))
  | insertOptional _ operand =>
    cases about
    exact (map.get?_insertOptional column operand other).trans (if_neg (Ne.symm differs))
  | ofList _ => cases about

/-- The fields are the columns in their order, each with what is under it. -/
theorem fields_eq_filterMap {map : ColumnMap} (distinct : map.columns.Nodup) :
    map.fields = map.columns.filterMap fun column => (map.get? column).map (Field.mk column) := by
  have own : ∀ field ∈ map.fields,
      ((fun column => (map.get? column).map (Field.mk column)) ∘ Field.column) field =
        some field := by
    rintro ⟨column, operand⟩ member
    rw [Function.comp_apply, (get?_eq_some_iff distinct).mpr member]
    rfl
  rw [columns, List.filterMap_map, List.filterMap_congr own, List.filterMap_some]

/-- However a map of columns is built, it has each column once, under it what was
last set there and not removed since, and its columns stand in the order in which
they entered. Its fields, its size and whether it has a column agree with that. A
step at one column leaves what is under the others, and their order, as they were. -/
theorem built_in_order_of_entry (steps : List ColumnStep) :
    (built steps).Reflects (ColumnStep.history steps) ∧
      (built steps).fields = ((built steps).columns.filterMap fun column =>
        ((built steps).get? column).map (Field.mk column)) ∧
      (∀ column, (built steps).contains column = true ↔ column ∈ (built steps).columns) ∧
      (∀ column, column ∈ (built steps).columns ↔
        (lastOperand? (ColumnStep.history steps) column).isSome) ∧
      (built steps).size = (built steps).columns.length ∧
      ((built steps).isEmpty = true ↔
        ∀ column, lastOperand? (ColumnStep.history steps) column = none) ∧
      ∀ step column, step.column? = some column →
        ((built (steps ++ [step])).fields.filter fun field => field.column ≠ column) =
            ((built steps).fields.filter fun field => field.column ≠ column) ∧
          ∀ other, other ≠ column →
            (built (steps ++ [step])).get? other = (built steps).get? other := by
  have reflects := reflects_built steps
  have present (column : String) : column ∈ (built steps).columns ↔
      (lastOperand? (ColumnStep.history steps) column).isSome := by
    rw [← reflects.get?_eq, ← contains_iff]
    rfl
  have size : (built steps).size = (built steps).columns.length := (List.length_map _).symm
  refine ⟨reflects, fields_eq_filterMap reflects.distinct, contains_iff _, present, size, ?_,
    fun step column about => ?_⟩
  · have noColumn : (built steps).isEmpty = true ↔ (built steps).columns = [] := by
      rw [isEmpty, List.isEmpty_iff, columns, List.map_eq_nil_iff]
    rw [noColumn, List.eq_nil_iff_forall_not_mem]
    exact forall_congr' fun column => (not_congr (present column)).trans
      Option.not_isSome_iff_eq_none
  · have last : built (steps ++ [step]) = (built steps).take step := by
      rw [built, List.foldl_append]
      rfl
    rw [last]
    exact ⟨filter_take about _, fun other differs => get?_take_of_ne about differs _⟩

/-- A person who moves: the town is removed and set again after the age. -/
def relocation : List ColumnStep :=
  [.insertOptional "Name" (some (.text "Ada")), .insert "Town" (.text "Oslo"),
    .insertOptional "Title" none, .insert "Name" (.text "Grace"), .insertOptional "Town" none,
    .insert "Age" (.value (.integer 36))]

theorem relocation_in_order :
    (built (relocation ++ [.insert "Town" (.text "Bergen")])).columns = ["Name", "Age", "Town"] ∧
      (built (relocation ++ [.insert "Town" (.text "Bergen")])).get? "Name" =
        some (.text "Grace") ∧
      lastOperand? (ColumnStep.history relocation) "Town" = none ∧
      EntersAt (ColumnStep.history relocation) "Name" 0 := by
  obtain ⟨reflects, -, -, -, -, -, others⟩ := built_in_order_of_entry relocation
  obtain ⟨-, untouched⟩ := others (.insert "Town" (.text "Bergen")) "Town" rfl
  refine ⟨rfl, ?_, ?_, ?_⟩
  · rw [untouched "Name" (by decide)]
    rfl
  · rw [← reflects.get?_eq]
    rfl
  · exact ⟨⟨_, rfl⟩, rfl, by simp [ColumnStep.history, relocation, ColumnStep.record]⟩

end ColumnMap

end SqlTree
