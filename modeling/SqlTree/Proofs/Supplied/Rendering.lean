/-
This file proves that a tree is written with the scalars that it supplies and with
no others, each of them once and in the order in which it supplies them. The trees
of the earlier files are compared by what is written; here what is written is
compared with the tree itself, so whatever is proved about the scalars of a text
or of a list of parameters is a fact about the scalars that a caller put in.

Only a rendering without a fault is asked for its scalars, and so the notion that
the proof carries along is conditional: a rendering hands over some scalars if it
has just these unless it fails. Parts are put together without a look at their
faults, because a whole fails with each of its parts. The exceptions are the cells
of rows that no column asks for: their faults are never told, and nothing is asked
of them.
-/

import Mathlib.Data.List.Forall2
import SqlTree.Proofs.Scalars
import SqlTree.Proofs.Supplied.Tree

namespace SqlTree

namespace Rendering

/-! ### Handing over scalars -/

/-- Unless it fails, the rendering has these scalars, in this order. -/
def HandsOver (rendering : Rendering) (values : List Value) : Prop :=
  rendering.fails = false → rendering.scalars = values

/-- Unless one of them fails, the renderings have these scalars one after another. -/
def HandOver (renderings : List Rendering) (values : List Value) : Prop :=
  renderings.any fails = false → renderings.flatMap scalars = values

variable {first second rendering : Rendering} {rest renderings : List Rendering}
variable {values others : List Value}

theorem handsOver_empty : empty.HandsOver [] := fun _ => rfl

theorem handsOver_ofText (text : String) : (ofText text).HandsOver [] := fun _ => rfl

theorem handsOver_ofValue (value : Value) : (ofValue value).HandsOver [value] := fun _ => rfl

/-- A rendering that fails hands over whatever is asked of it, so faults need no attention
where parts are put together. -/
theorem handsOver_fail (fault : Fault) (values : List Value) : (fail fault).HandsOver values := by
  intro sound
  cases sound

theorem handsOver_check (misuse : Option Misuse) : (check misuse).HandsOver [] := by
  cases misuse with
  | none => exact handsOver_empty
  | some misuse => exact handsOver_fail (.misuse misuse) []

/-- The one step that everything else is made of: the scalars of the first part, then
those of the second. -/
theorem HandsOver.append (inFirst : first.HandsOver values) (inSecond : second.HandsOver others) :
    (first ++ second).HandsOver (values ++ others) := by
  intro sound
  rw [fails_append, Bool.or_eq_false_iff] at sound
  rw [scalars_append, sound.1, inFirst sound.1]
  exact congrArg (values ++ ·) (inSecond sound.2)

/-- Text before a rendering adds no scalar. -/
theorem HandsOver.after (hands : rendering.HandsOver values) (text : String) :
    (ofText text ++ rendering).HandsOver values :=
  (handsOver_ofText text).append hands

/-- Text behind a rendering adds no scalar. -/
theorem HandsOver.before (hands : rendering.HandsOver values) (text : String) :
    (rendering ++ ofText text).HandsOver values := by
  have whole := hands.append (handsOver_ofText text)
  rwa [List.append_nil] at whole

/-! ### Lists of renderings -/

theorem handOver_nil : HandOver [] [] := fun _ => rfl

/-- Renderings hand over what they have one after another. -/
theorem HandsOver.cons (inFirst : rendering.HandsOver values) (inRest : HandOver rest others) :
    HandOver (rendering :: rest) (values ++ others) := by
  intro sound
  rw [List.any_cons, Bool.or_eq_false_iff] at sound
  rw [List.flatMap_cons, inFirst sound.1, inRest sound.2]

theorem HandOver.append (inFirst : HandOver renderings values) (inRest : HandOver rest others) :
    HandOver (renderings ++ rest) (values ++ others) := by
  intro sound
  rw [List.any_append, Bool.or_eq_false_iff] at sound
  rw [List.flatMap_append, inFirst sound.1, inRest sound.2]

/-- Separators add no scalars. -/
theorem HandOver.join (hand : HandOver renderings values) (separator : String) :
    (join separator renderings).HandsOver values := by
  intro sound
  rw [fails_join] at sound
  rw [scalars_join separator sound, hand sound]

/-- Renderings without text are left out, and with them no scalar is lost. -/
theorem HandOver.joinPresent (hand : HandOver renderings values) (separator : String) :
    (joinPresent separator renderings).HandsOver values := by
  intro sound
  rw [fails_joinPresent] at sound
  rw [scalars_joinPresent separator sound, hand sound]

/-! ### What is put around a rendering -/

theorem HandsOver.parenthesized (hands : rendering.HandsOver values) :
    (parenthesized rendering).HandsOver values :=
  (hands.after "(").before ")"

/-- A rendering that is left out without text is left out without scalars. -/
theorem HandsOver.ifPresent {change : Rendering → Rendering}
    (changed : (change rendering).HandsOver values)
    (sameFailure : (change rendering).fails = rendering.fails)
    (sameScalars : (change rendering).scalars = rendering.scalars) :
    (rendering.ifPresent change).HandsOver values := by
  intro sound
  rw [fails_ifPresent sameFailure, ← sameFailure] at sound
  rw [scalars_ifPresent sameScalars, ← sameScalars, changed sound]

theorem HandsOver.clause (hands : rendering.HandsOver values) (keyword : String) :
    (clause keyword rendering).HandsOver values :=
  (hands.after keyword).ifPresent (by simp) (by simp)

theorem HandOver.commaSeparated (hand : HandOver renderings values) :
    (commaSeparated renderings).HandsOver values :=
  hand.join ", "

/-- A list hands over the scalars of its items in either form. -/
theorem HandOver.listed (hand : HandOver renderings values) (form : ListForm) :
    (listed form renderings).HandsOver values := by
  cases form with
  | array => exact (hand.commaSeparated.after "ARRAY[").before "]"
  | row => exact hand.commaSeparated.parenthesized

/-- A clause that is left out for want of items has no scalars to lose. -/
theorem HandOver.listClause (hand : HandOver renderings values) (keyword : String) :
    (listClause keyword renderings).HandsOver values := by
  cases renderings with
  | nil => exact hand.commaSeparated
  | cons first rest => exact hand.commaSeparated.after keyword

/-! ### Cells -/

/-- The same columns, each with a rendering that hands over the scalars beside it. -/
def CellsHandOver (cells : List Cell) (supplied : List SuppliedCell) : Prop :=
  List.Forall₂ (fun cell scalars => cell.1 = scalars.1 ∧ cell.2.HandsOver scalars.2) cells supplied

variable {cells : List Cell} {supplied : List SuppliedCell}

/-- The columns of cells are those of what is supplied. -/
theorem CellsHandOver.map_fst (hand : CellsHandOver cells supplied) :
    cells.map Prod.fst = supplied.map Prod.fst := by
  induction hand with
  | nil => rfl
  | cons this _ inductionHypothesis => exact congrArg₂ List.cons this.1 inductionHypothesis

/-- Cells that are written one by one hand over what they have. -/
theorem CellsHandOver.map {write : Cell → Rendering} (hand : CellsHandOver cells supplied)
    (written : ∀ cell values, cell.2.HandsOver values → (write cell).HandsOver values) :
    HandOver (cells.map write) (supplied.flatMap Prod.snd) := by
  induction hand with
  | nil => exact handOver_nil
  | cons this _ inductionHypothesis =>
    exact (written _ _ this.2).cons inductionHypothesis

theorem handsOver_renderAssignment (cell : Cell) (values : List Value)
    (hands : cell.2.HandsOver values) : (renderAssignment cell).HandsOver values :=
  hands.after _

/-- Without assignments a conflict is passed over, and nothing is handed over. -/
theorem CellsHandOver.renderResolution (hand : CellsHandOver cells supplied) :
    (renderResolution cells).HandsOver (supplied.flatMap Prod.snd) := by
  unfold SqlTree.renderResolution
  cases hand with
  | nil => exact handsOver_ofText " DO NOTHING"
  | cons this rest =>
    exact ((CellsHandOver.map (.cons this rest) handsOver_renderAssignment).commaSeparated).after
      " DO UPDATE SET "

/-- Looking a column up in rendered cells and in what is supplied finds the same cell, or
the substitute in both. -/
theorem CellsHandOver.cellOf (hand : CellsHandOver cells supplied)
    (missing : rendering.HandsOver values) (column : String) :
    (cellOf cells rendering column).HandsOver (suppliedUnder supplied values column) := by
  unfold Rendering.cellOf suppliedUnder
  induction hand with
  | nil => exact missing
  | @cons cell scalars _ _ this _ inductionHypothesis =>
    rw [List.find?_cons, List.find?_cons, ← this.1]
    cases decide (cell.1 = column) with
    | true => exact this.2
    | false => exact inductionHypothesis

/-- A row in the order of some columns. -/
theorem CellsHandOver.rowOf (hand : CellsHandOver cells supplied)
    (missing : rendering.HandsOver values) (columns : List String) :
    (rowOf columns rendering cells).HandsOver
      (columns.flatMap (suppliedUnder supplied values)) := by
  refine HandsOver.parenthesized (HandOver.commaSeparated ?_)
  induction columns with
  | nil => exact handOver_nil
  | cons column rest inductionHypothesis =>
    exact (hand.cellOf missing column).cons inductionHypothesis

/-- Rows in the order of the same columns. -/
theorem handsOver_rowsOf {rows : List (List Cell)} {suppliedRows : List (List SuppliedCell)}
    (hand : List.Forall₂ CellsHandOver rows suppliedRows) (missing : rendering.HandsOver values)
    (columns : List String) :
    (rowsOf columns rendering rows).HandsOver
      (suppliedRows.flatMap fun row => columns.flatMap (suppliedUnder row values)) := by
  refine HandOver.commaSeparated ?_
  induction hand with
  | nil => exact handOver_nil
  | cons this _ inductionHypothesis =>
    exact (this.rowOf missing columns).cons inductionHypothesis

/-- Rows under the columns of the first one. -/
theorem handsOver_table {first : List Cell} {rest : List (List Cell)}
    {suppliedRows : List (List SuppliedCell)}
    (hand : List.Forall₂ CellsHandOver (first :: rest) suppliedRows)
    (missing : rendering.HandsOver values) :
    (rowsOf (first.map Prod.fst) rendering (first :: rest)).HandsOver
      (suppliedByTable values suppliedRows) := by
  cases hand with
  | cons inFirst inRest =>
    rw [inFirst.map_fst]
    exact handsOver_rowsOf (.cons inFirst inRest) missing _

end Rendering

open Rendering

/-! ### Leaves -/

mutual

/-- Where a name is wanted, no scalar is handed over, whatever it has in it. -/
theorem Value.handsOver_renderName (scalar : Value) : scalar.renderName.HandsOver [] := by
  match scalar with
  | .null | .bytes _ | .json _ => exact handsOver_fail _ []
  | .bool _ | .integer _ | .float _ | .text _ | .timestamp _ | .uuid _ =>
    exact handsOver_ofText _
  | .array items => exact (Value.handOver_renderItemNames items).listed .row

theorem Value.handOver_renderItemNames (items : List Value) :
    HandOver (Value.renderItemNames items) [] := by
  match items with
  | [] => exact handOver_nil
  | item :: rest => exact item.handsOver_renderName.cons (Value.handOver_renderItemNames rest)

end

/-- The type that a literal is cast to is text. -/
theorem Literal.handsOver_render (literal : Literal) :
    literal.render.HandsOver [literal.value] := by
  obtain ⟨value, cast⟩ := literal
  cases cast with
  | none => exact handsOver_ofValue value
  | some type => exact (handsOver_ofValue value).before _

theorem handOver_map_renderJsonKey (qualifier : Option String) (keys : List String) :
    HandOver (keys.map (renderJsonKey qualifier)) [] := by
  induction keys with
  | nil => exact handOver_nil
  | cons key rest inductionHypothesis => exact (handsOver_ofText _).cons inductionHypothesis

/-- Limits are written into the text as they are, so they are never bound. -/
theorem handsOver_renderCount (keyword : String) (count : Option UInt64) :
    (renderCount keyword count).HandsOver [] := by
  cases count with
  | none => exact handsOver_empty
  | some count => exact handsOver_ofText _

/-- The only operand that is taken for a name where a value stands elsewhere. -/
theorem Operand.handsOver_renderName_of_isText (context : Context) (operand : Operand)
    (isText : operand.isText) : (operand.renderName context).HandsOver [] := by
  unfold Operand.isText at isText
  split at isText
  · next path => exact handsOver_ofText (quotePath path)
  · cases isText

/-! ### The tree -/

mutual

/-- An operand where a value is wanted. The one case to look at is an unresolved text in
the condition of a join, which is a name there. -/
theorem Operand.handsOver_renderValue (context : Context) (form : ListForm) (operand : Operand) :
    (operand.renderValue context form).HandsOver (operand.suppliedAsValue context) := by
  match operand with
  | .value scalar => exact handsOver_ofValue scalar
  | .list items => exact (handOver_renderValues context form items).listed form
  | .node (.unresolved inner) =>
    rw [Operand.renderValue, Operand.suppliedAsValue]
    split
    · next named => exact inner.handsOver_renderName_of_isText context named.2
    · exact inner.handsOver_renderValue context form
  | .node (.identifier _) | .node (.literal _) | .node (.snippet _) | .node (.renamed _)
  | .node (.condition _) | .node (.comparison _) | .node (.jsonObject _) | .node (.values _)
  | .node (.sources _) | .node (.join _) => exact Node.handsOver_render context _
  | .node (.select _) | .node (.insert _) | .node (.update _) | .node (.delete _) =>
    exact (Node.handsOver_render .ordinary _).parenthesized

/-- An operand where a name is wanted. A statement in it is put in parentheses and starts
anew. -/
theorem Operand.handsOver_renderName (context : Context) (operand : Operand) :
    (operand.renderName context).HandsOver (operand.suppliedAsName context) := by
  match operand with
  | .value scalar => exact scalar.handsOver_renderName
  | .list items => exact (handOver_renderNames context items).listed .row
  | .node inner =>
    rw [Operand.renderName, Operand.suppliedAsName]
    split
    · exact (inner.handsOver_render .ordinary).parenthesized
    · exact inner.handsOver_render context

theorem handOver_renderValues (context : Context) (form : ListForm) (operands : List Operand) :
    HandOver (renderValues context form operands) (suppliedAsValues context operands) := by
  match operands with
  | [] => exact handOver_nil
  | operand :: rest =>
    exact (operand.handsOver_renderValue context form).cons
      (handOver_renderValues context form rest)

theorem handOver_renderNames (context : Context) (operands : List Operand) :
    HandOver (renderNames context operands) (suppliedAsNames context operands) := by
  match operands with
  | [] => exact handOver_nil
  | operand :: rest =>
    exact (operand.handsOver_renderName context).cons (handOver_renderNames context rest)

/-- A node that does not fail has the scalars that it supplies, in their order. -/
theorem Node.handsOver_render (context : Context) (node : Node) :
    (node.render context).HandsOver (node.supplied context) := by
  match node with
  | .identifier identifier => exact handsOver_ofText identifier.text
  | .literal literal => exact literal.handsOver_render
  | .snippet snippet => exact snippet.handsOver_render context
  | .unresolved _ => exact handsOver_fail .unresolved []
  | .renamed item => exact item.handsOver_render context
  | .condition condition => exact condition.handsOver_render context
  | .comparison comparison => exact comparison.handsOver_render context
  | .jsonObject object => exact object.handsOver_render context
  | .values list => exact list.handsOver_render context
  | .sources list => exact list.handsOver_render context
  | .join join => exact join.handsOver_render context
  | .select statement => exact statement.handsOver_render context
  | .insert statement => exact statement.handsOver_render context
  | .update statement => exact statement.handsOver_render context
  | .delete statement => exact statement.handsOver_render context

/-- A snippet fails before its text if it has operands that no marker takes. -/
theorem Snippet.handsOver_render (context : Context) (snippet : Snippet) :
    (snippet.render context).HandsOver (snippet.supplied context) := by
  match snippet with
  | ⟨head, slots, misuse⟩ =>
    exact ((handsOver_check misuse).before head).append (handsOver_renderSlots context slots)

theorem handsOver_renderSlots (context : Context) (slots : List Slot) :
    (renderSlots context slots).HandsOver (suppliedBySlots context slots) := by
  match slots with
  | [] => exact handsOver_empty
  | ⟨operand, after⟩ :: rest =>
    exact ((operand.handsOver_renderValue context .array).before after).append
      (handsOver_renderSlots context rest)

theorem Renaming.handsOver_render (context : Context) (item : Renaming) :
    (item.render context).HandsOver (item.supplied context) := by
  match item with
  | ⟨target, name⟩ => exact (target.handsOver_renderName context).before _

/-- A condition. What is left out because it has no text has no scalars. -/
theorem Condition.handsOver_render (context : Context) (condition : Condition) :
    (condition.render context).HandsOver (condition.supplied context) := by
  match condition with
  | .all members => exact (handOver_renderMembers context members).joinPresent " AND "
  | .any members => exact (handOver_renderMembers context members).joinPresent " OR "
  | .negation inner =>
    rw [Condition.render]
    refine HandsOver.ifPresent ?_ (by simp) (by simp)
    exact (inner.handsOver_render context).parenthesized.after "NOT "
  | .existence query => exact (query.handsOver_render _).parenthesized.after "EXISTS "
  | .test column comparison =>
    rw [Condition.render, Condition.supplied]
    split
    · exact ((column.handsOver_renderName context).before " ").append
        (comparison.handsOver_render context)
    · exact handsOver_empty
  | .plain inner => exact inner.handsOver_render context

/-- A group in a group is put in parentheses unless it has no text. -/
theorem handOver_renderMembers (context : Context) (members : List Condition) :
    HandOver (renderMembers context members) (suppliedByMembers context members) := by
  match members with
  | [] => exact handOver_nil
  | member :: rest =>
    refine HandsOver.cons ?_ (handOver_renderMembers context rest)
    split
    · exact (member.handsOver_render context).parenthesized.ifPresent (by simp) (by simp)
    · exact member.handsOver_render context

/-- A comparison without its column. -/
theorem Comparison.handsOver_render (context : Context) (comparison : Comparison) :
    (comparison.render context).HandsOver (comparison.supplied context) := by
  match comparison with
  | .relation relation operand none =>
    exact (operand.handsOver_renderValue context .array).after _
  | .relation relation operand (some quantifier) =>
    have hands := operand.handsOver_renderValue context .array
    refine HandsOver.after ?_ _
    split
    · exact hands
    · exact hands.parenthesized
  | .nullity negated => exact handsOver_ofText (nullityText negated)
  | .like pattern insensitive => exact (pattern.handsOver_renderValue context .array).after _
  | .between low high =>
    exact (((low.handsOver_renderValue context .array).after "BETWEEN ").before " AND ").append
      (high.handsOver_renderValue context .array)
  | .membership (.list []) _ => exact handsOver_empty
  | .membership (.list (first :: rest)) _ =>
    have hand := (first.handsOver_renderValue context .row).cons
      (handOver_renderValues context .row rest)
    exact (hand.listed .row).after _
  | .membership (.node inner) _ => exact (inner.handsOver_render _).parenthesized.after _
  | .membership (.value scalar) _ => exact (handsOver_ofValue scalar).parenthesized.after _

theorem ColumnMap.cellsHandOver (context : Context) (map : ColumnMap) :
    CellsHandOver (map.cells context) (map.suppliedCells context) := by
  match map with
  | ⟨fields⟩ => exact cellsHandOver_renderCells context fields

/-- The cells of a row, each with what its operand supplies. -/
theorem cellsHandOver_renderCells (context : Context) (fields : List Field) :
    CellsHandOver (renderCells context fields) (suppliedByCells context fields) := by
  match fields with
  | [] => exact .nil
  | ⟨_, operand⟩ :: rest =>
    exact .cons ⟨rfl, operand.handsOver_renderValue context .array⟩
      (cellsHandOver_renderCells context rest)

theorem ColumnMap.handOver_nameCells (context : Context) (map : ColumnMap) :
    HandOver ((map.nameCells context).map renderJsonMember) (map.suppliedAsNames context) := by
  match map with
  | ⟨fields⟩ => exact handOver_renderNameCells context fields

theorem handOver_renderNameCells (context : Context) (fields : List Field) :
    HandOver ((renderNameCells context fields).map renderJsonMember)
      (suppliedByFields context fields) := by
  match fields with
  | [] => exact handOver_nil
  | ⟨column, operand⟩ :: rest =>
    exact ((operand.handsOver_renderName context).after _).cons
      (handOver_renderNameCells context rest)

theorem handOver_renderItems (context : Context) (qualifier : Option String)
    (items : List JsonItem) :
    HandOver (renderItems context qualifier items) (suppliedByItems context items) := by
  match items with
  | [] => exact handOver_nil
  | .key key :: rest =>
    exact (handsOver_ofText _).cons (handOver_renderItems context qualifier rest)
  | .keys keys :: rest =>
    exact (handOver_map_renderJsonKey qualifier keys).append
      (handOver_renderItems context qualifier rest)
  | .map columns :: rest =>
    exact (columns.handOver_nameCells context).append
      (handOver_renderItems context qualifier rest)

theorem JsonObject.handsOver_render (context : Context) (object : JsonObject) :
    (object.render context).HandsOver (object.supplied context) := by
  match object with
  | ⟨items, qualifier, binary⟩ =>
    exact (handOver_renderItems context qualifier items).commaSeparated.parenthesized.after _

theorem cellsHandOver_renderRows (context : Context) (rows : List ColumnMap) :
    List.Forall₂ CellsHandOver (renderRows context rows) (suppliedRows context rows) := by
  match rows with
  | [] => exact .nil
  | row :: rest => exact .cons (row.cellsHandOver context) (cellsHandOver_renderRows context rest)

/-- A list of values fails without a name, without rows and without columns, and is a
table otherwise. -/
theorem ValuesList.handsOver_render (context : Context) (list : ValuesList) :
    (list.render context).HandsOver (list.supplied context) := by
  match list with
  | ⟨rows, name⟩ =>
    have hand := cellsHandOver_renderRows context rows
    unfold ValuesList.render
    generalize renderRows context rows = cells at hand
    match name, cells, hand with
    | none, _, _ => exact handsOver_fail .valuesWithoutName _
    | some _, [], _ => exact handsOver_fail .valuesWithoutRows _
    | some _, [] :: _, _ => exact handsOver_fail .valuesWithoutColumns _
    | some name, (cell :: others) :: rest, hand =>
      exact ((handsOver_table hand (handsOver_ofValue .null)).after "(VALUES ").before _

theorem Join.handsOver_render (context : Context) (join : Join) :
    (join.render context).HandsOver (join.supplied context) := by
  match join with
  | ⟨kind, table, condition⟩ =>
    exact ((table.handsOver_renderName context).after _).append
      ((condition.handsOver_render .joinCondition).clause " ON ")

theorem handsOver_renderJoins (context : Context) (joins : List Join) :
    (renderJoins context joins).HandsOver (suppliedByJoins context joins) := by
  match joins with
  | [] => exact handsOver_empty
  | join :: rest =>
    exact ((join.handsOver_render context).after " ").append (handsOver_renderJoins context rest)

theorem handOver_renderSources (context : Context) (sources : List Source) :
    HandOver (renderSources context sources) (suppliedBySources context sources) := by
  match sources with
  | [] => exact handOver_nil
  | ⟨table, joins⟩ :: rest =>
    exact ((table.handsOver_renderName context).append (handsOver_renderJoins context joins)).cons
      (handOver_renderSources context rest)

theorem SourceList.handsOver_render (context : Context) (list : SourceList) :
    (list.render context).HandsOver (list.supplied context) := by
  match list with
  | ⟨sources, misuse⟩ =>
    exact (handsOver_check misuse).append (handOver_renderSources context sources).commaSeparated

theorem handOver_renderOrderKeys (context : Context) (keys : List OrderKey) :
    HandOver (renderOrderKeys context keys) (suppliedByOrderKeys context keys) := by
  match keys with
  | [] => exact handOver_nil
  | ⟨key, none⟩ :: rest =>
    exact (key.handsOver_renderName context).cons (handOver_renderOrderKeys context rest)
  | ⟨key, some direction⟩ :: rest =>
    exact ((key.handsOver_renderName context).before _).cons
      (handOver_renderOrderKeys context rest)

/-- Keys of distinct rows. -/
theorem handsOver_renderDistinct (context : Context) (keys : Option (List Operand)) :
    (renderDistinct context keys).HandsOver (suppliedAsOptionalNames context keys) := by
  match keys with
  | none => exact handsOver_empty
  | some [] => exact handsOver_ofText "DISTINCT "
  | some (first :: rest) =>
    have hand := (first.handsOver_renderName context).cons (handOver_renderNames context rest)
    exact ((hand.listed .row).after "DISTINCT ON ").before " "

/-- A query without columns asks for all of them, by a mark and not by a scalar. -/
theorem handsOver_renderColumns (context : Context) (columns : List Operand) :
    (renderColumns context columns).HandsOver (suppliedAsNames context columns) := by
  match columns with
  | [] => exact handsOver_ofText "*"
  | first :: rest =>
    have hand := (first.handsOver_renderName context).cons (handOver_renderNames context rest)
    exact hand.commaSeparated

theorem handsOver_renderTarget (context : Context) (target : Option Operand) :
    (renderTarget context target).HandsOver (suppliedByTarget context target) := by
  match target with
  | none => exact handsOver_empty
  | some table => exact (table.handsOver_renderName context).after " INTO "

/-- A query, clause by clause in the order of its text. -/
theorem Select.handsOver_render (context : Context) (query : Select) :
    (query.render context).HandsOver (query.supplied context) := by
  match query with
  | ⟨columns, distinct, target, ⟨sources, misuse⟩, condition, grouping, groupCondition,
      ordering, limit, offset⟩ =>
    have opened := ((handsOver_check misuse).before "SELECT ").append
      (handsOver_renderDistinct context distinct)
    have upToSources := ((opened.append (handsOver_renderColumns context columns)).append
      (handsOver_renderTarget context target)).append
        ((handOver_renderSources context sources).listClause " FROM ")
    have upToGroups := ((upToSources.append
      ((condition.handsOver_render context).clause " WHERE ")).append
        ((handOver_renderNames context grouping).listClause " GROUP BY ")).append
          ((groupCondition.handsOver_render context).clause " HAVING ")
    have whole := ((upToGroups.append
      ((handOver_renderOrderKeys context ordering).listClause " ORDER BY ")).append
        (handsOver_renderCount " LIMIT " limit)).append (handsOver_renderCount " OFFSET " offset)
    rw [Select.render, Select.supplied]
    simpa only [List.append_nil, List.nil_append] using whole

/-- The columns of an insertion are rendered by the time its body is, but only a query
makes use of them. -/
theorem InsertBody.handsOver_render (context : Context) {columns : List Rendering}
    {byColumns : List Value} (handColumns : HandOver columns byColumns) (body : InsertBody) :
    (body.render context columns).HandsOver (body.supplied context byColumns) := by
  match body with
  | .query query =>
    have handQuery := query.handsOver_render (if query.isStatement then .ordinary else context)
    refine HandsOver.append (HandsOver.before ?_ " ") handQuery
    cases columns with
    | nil => exact handColumns.commaSeparated
    | cons first rest => exact (handColumns.listed .row).after " "
  | .rows rows =>
    have hand := cellsHandOver_renderRows context rows
    unfold InsertBody.render
    generalize renderRows context rows = cells at hand
    match cells, hand with
    | [], _ => exact handsOver_fail .insertWithoutRows _
    | [] :: _, _ => exact handsOver_fail .insertWithoutColumns _
    | (cell :: others) :: rest, hand =>
      exact (handsOver_table hand (handsOver_ofText "DEFAULT")).after _

/-- A constraint hides the columns that a conflict is about. -/
theorem handsOver_renderConflict (context : Context) (constraint : Option String)
    (conflict : Option (List Operand)) :
    (renderConflict context constraint conflict).HandsOver
      (if constraint.isSome then [] else suppliedAsOptionalNames context conflict) := by
  match constraint, conflict with
  | some name, _ =>
    rw [renderConflict]
    exact handsOver_ofText (" ON CONSTRAINT " ++ quotePath name)
  | none, none | none, some [] => exact handsOver_empty
  | none, some (first :: rest) =>
    have hand := (first.handsOver_renderName context).cons (handOver_renderNames context rest)
    exact (hand.listed .row).after " "

/-- An insertion. Without a conflict or a constraint its assignments are not written. -/
theorem Insert.handsOver_render (context : Context) (statement : Insert) :
    (statement.render context).HandsOver (statement.supplied context) := by
  match statement with
  | ⟨table, columns, body, conflict, constraint, update, returning, misuse⟩ =>
    have opened := ((handsOver_check misuse).before "INSERT INTO ").append
      (table.handsOver_renderName context)
    have upToBody := opened.append
      (body.handsOver_render context (handOver_renderNames context columns))
    have resolution := (update.cellsHandOver context).renderResolution
    refine HandsOver.append (HandsOver.append upToBody ?_)
      ((handOver_renderNames context returning).listClause " RETURNING ")
    split
    · exact ((handsOver_renderConflict context constraint conflict).after
        " ON CONFLICT").append resolution
    · exact handsOver_empty

/-- An update fails without assignments, whatever its other parts supply. -/
theorem Update.handsOver_render (context : Context) (statement : Update) :
    (statement.render context).HandsOver (statement.supplied context) := by
  match statement with
  | ⟨table, assignments, sources, condition, returning⟩ =>
    have hand := (assignments.cellsHandOver context).map handsOver_renderAssignment
    unfold Update.render
    cases cells : assignments.cells context with
    | nil => exact handsOver_fail .updateWithoutAssignments _
    | cons cell rest =>
      rw [cells] at hand
      have upToAssignments := (((table.handsOver_renderName context).after "UPDATE ").before
        " SET ").append hand.commaSeparated
      exact ((upToAssignments.append
        ((handOver_renderNames context sources).listClause " FROM ")).append
          ((condition.handsOver_render context).clause " WHERE ")).append
            ((handOver_renderNames context returning).listClause " RETURNING ")

theorem Delete.handsOver_render (context : Context) (statement : Delete) :
    (statement.render context).HandsOver (statement.supplied context) := by
  match statement with
  | ⟨table, sources, condition, returning⟩ =>
    exact ((((table.handsOver_renderName context).after "DELETE FROM ").append
      ((handOver_renderNames context sources).listClause " USING ")).append
        ((condition.handsOver_render context).clause " WHERE ")).append
          ((handOver_renderNames context returning).listClause " RETURNING ")

end

/-- The list of parameters of a tree is what the tree supplies. -/
theorem Node.values_eq_supplied {node : Node} {prepared : Prepared}
    (succeeded : node.prepare = .ok prepared) : prepared.values = node.supplied .ordinary := by
  obtain ⟨sound, sameValues⟩ := Node.scalars_of_prepare succeeded
  rw [sameValues]
  exact node.handsOver_render .ordinary sound

end SqlTree
