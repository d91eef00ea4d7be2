/-
This file proves what the operations on maps of columns do: which columns a map
has after them, in which order, and what it has under each column.

A map has every column once, in the order in which the columns were entered.
Entering an operand under a column that is there changes the operand and leaves
the order, and a column that was taken out and is entered again comes last. Each
operation is described by what the map has under a column afterwards and by its
list of columns, with the fields of all other columns as they were; whoever uses a
map needs these laws only, and does not look into the search for a field again.
-/

import Mathlib.Data.List.Nodup
import SqlTree.Tree.ColumnMap

namespace SqlTree.ColumnMap

theorem eq_of_fields {map other : ColumnMap} (same : map.fields = other.fields) : map = other := by
  cases map
  cases other
  cases same
  rfl

/-! ### What is under a column -/

/-- After an entry the column has the new operand, and others have what they had. -/
theorem get?_insert (map : ColumnMap) (column : String) (operand : Operand) (other : String) :
    (map.insert column operand).get? other =
      if column = other then some operand else map.get? other := by
  obtain ⟨fields⟩ := map
  show ((insertField ⟨column, operand⟩ fields).find? fun field => field.column = other).map
      Field.operand =
    if column = other then some operand
    else (fields.find? fun field => field.column = other).map Field.operand
  induction fields with
  | nil => by_cases same : column = other <;> simp [insertField, same]
  | cons field rest inductionHypothesis =>
    by_cases here : field.column = column
    · by_cases same : column = other <;> simp [insertField, here, same]
    · rw [insertField, if_neg here]
      by_cases first : field.column = other
      · have differs : ¬ column = other := fun same => here (first.trans same.symm)
        simp [first, differs]
      · rw [List.find?_cons_of_neg (by simpa using first), inductionHypothesis,
          List.find?_cons_of_neg (by simpa using first)]

/-- After a removal the column has nothing, and others have what they had. -/
theorem get?_erase (map : ColumnMap) (column other : String) :
    (map.erase column).get? other = if column = other then none else map.get? other := by
  rw [get?, get?, erase, List.find?_filter]
  by_cases same : column = other
  · rw [if_pos same, Option.map_eq_none_iff, List.find?_eq_none]
    rintro field - found
    simp only [same, Bool.decide_and, Bool.and_eq_true, decide_eq_true_eq] at found
    exact found.1 found.2
  · rw [if_neg same]
    congr 2
    funext field
    by_cases found : field.column = other
    · simp [found, Ne.symm same]
    · simp [found]

/-- With each column there once, what is under a column is in its field. -/
theorem get?_eq_some_iff {map : ColumnMap} (distinct : map.columns.Nodup) {column : String}
    {operand : Operand} : map.get? column = some operand ↔ ⟨column, operand⟩ ∈ map.fields := by
  obtain ⟨fields⟩ := map
  show (fields.find? fun field => field.column = column).map Field.operand = some operand ↔
    ⟨column, operand⟩ ∈ fields
  replace distinct : (fields.map Field.column).Nodup := distinct
  induction fields with
  | nil => exact ⟨fun found => (nomatch found), fun member => (nomatch member)⟩
  | cons field rest inductionHypothesis =>
    obtain ⟨name, first⟩ := field
    obtain ⟨fresh, restDistinct⟩ := List.nodup_cons.mp distinct
    by_cases same : name = column
    · subst same
      have notLater : (⟨name, operand⟩ : Field) ∉ rest := fun member =>
        fresh (List.mem_map.mpr ⟨_, member, rfl⟩)
      rw [List.find?_cons_of_pos (by simp), List.mem_cons, or_iff_left notLater]
      simp [eq_comm]
    · rw [List.find?_cons_of_neg (by simpa using same)]
      refine (inductionHypothesis restDistinct).trans ?_
      simp [Ne.symm same]

theorem contains_iff (map : ColumnMap) (column : String) :
    map.contains column = true ↔ column ∈ map.columns := by
  simp [contains, get?, columns]

/-! ### The columns -/

theorem nodup_columns_empty : empty.columns.Nodup :=
  List.nodup_nil

theorem insertField_of_forall_ne {new : Field} {fields : List Field}
    (absent : ∀ field ∈ fields, field.column ≠ new.column) :
    insertField new fields = fields ++ [new] := by
  induction fields with
  | nil => rfl
  | cons field rest inductionHypothesis =>
    obtain ⟨differs, others⟩ := List.forall_mem_cons.mp absent
    rw [insertField, if_neg differs, inductionHypothesis others, List.cons_append]

/-- An entry adds its column at the end, unless it is there. -/
theorem columns_insert (map : ColumnMap) (column : String) (operand : Operand) :
    (map.insert column operand).columns =
      if column ∈ map.columns then map.columns else map.columns ++ [column] := by
  obtain ⟨fields⟩ := map
  show (insertField ⟨column, operand⟩ fields).map Field.column =
    if column ∈ fields.map Field.column then fields.map Field.column
    else fields.map Field.column ++ [column]
  induction fields with
  | nil => rfl
  | cons field rest inductionHypothesis =>
    rw [insertField]
    by_cases same : field.column = column
    · rw [if_pos same, List.map_cons, List.map_cons, same, if_pos List.mem_cons_self]
    · rw [if_neg same, List.map_cons, List.map_cons, inductionHypothesis]
      by_cases later : column ∈ rest.map Field.column
      · rw [if_pos later, if_pos (List.mem_cons_of_mem _ later)]
      · rw [if_neg later, if_neg (List.not_mem_cons_of_ne_of_not_mem (Ne.symm same) later),
          List.cons_append]

/-- A column that a map does not have yet goes to the end; one that it has stays. -/
theorem fields_insertNew (map : ColumnMap) (column : String) (operand : Operand) :
    (map.insertNew column operand).fields =
      if column ∈ map.columns then map.fields else map.fields ++ [⟨column, operand⟩] := by
  by_cases present : column ∈ map.columns
  · rw [insertNew, if_pos ((map.contains_iff column).mpr present), if_pos present]
  · have absent : ∀ field ∈ map.fields, field.column ≠ column := fun field member same =>
      present (List.mem_map.mpr ⟨field, member, same⟩)
    rw [insertNew, if_neg fun contained => present ((map.contains_iff column).mp contained),
      if_neg present]
    exact insertField_of_forall_ne absent

theorem columns_insertNew (map : ColumnMap) (column : String) (operand : Operand) :
    (map.insertNew column operand).columns =
      if column ∈ map.columns then map.columns else map.columns ++ [column] := by
  rw [columns, fields_insertNew]
  split
  · rfl
  · rw [List.map_append]
    rfl

theorem get?_insertNew (map : ColumnMap) (column : String) (operand : Operand) (other : String) :
    (map.insertNew column operand).get? other =
      (map.get? other).or (if column = other then some operand else none) := by
  rw [insertNew]
  by_cases contained : map.contains column
  · rw [if_pos contained]
    by_cases same : column = other
    · subst same
      obtain ⟨found, there⟩ := Option.isSome_iff_exists.mp contained
      rw [there]
      rfl
    · rw [if_neg same, Option.or_none]
  · rw [if_neg contained, get?_insert]
    by_cases same : column = other
    · subst same
      have absent : map.get? column = none := Option.not_isSome_iff_eq_none.mp contained
      rw [absent, if_pos rfl]
      rfl
    · rw [if_neg same, if_neg same, Option.or_none]

/-- A removal takes the column out and keeps the order of the others. -/
theorem columns_erase (map : ColumnMap) (column : String) :
    (map.erase column).columns = map.columns.filter (· ≠ column) := by
  rw [columns, columns, erase, List.filter_map]
  rfl

/-! ### The other fields -/

/-- An entry changes no field of another column. -/
theorem filter_insertField (new : Field) (fields : List Field) :
    (insertField new fields).filter (fun field => field.column ≠ new.column) =
      fields.filter fun field => field.column ≠ new.column := by
  induction fields with
  | nil => simp [insertField]
  | cons field rest inductionHypothesis =>
    by_cases same : field.column = new.column
    · simp [insertField, same]
    · rw [insertField, if_neg same, List.filter_cons, List.filter_cons, inductionHypothesis]

/-- A removal changes no field of another column. -/
theorem filter_erase (map : ColumnMap) (column : String) :
    (map.erase column).fields.filter (fun field => field.column ≠ column) =
      map.fields.filter fun field => field.column ≠ column := by
  rw [erase, List.filter_filter]
  simp only [Bool.and_self]

end SqlTree.ColumnMap
