/-
This file proves that lists and arrays say the same of nested scalars. Every
level of the scalars can be a list of operands, and any level together with what
is below it can be one array. With literals in their places all of these are
written as one and the same array, and where names are wanted as one and the same
row of names, or they fail for the same scalar.

A tree of scalars is kept as the value that has an array at every level. A tree of
operands packs to such a value if all its leaves are scalars, with every choice of
levels at which the operands are lists and below which they are one array.
Every spelling is written as the tree is, and the tree is put together in one
recursion from what its leaves give, in brackets or in parentheses, up to the first
leaf that gives nothing.
-/

import SqlTree.Parameters

namespace SqlTree

open Writing

/-! ### Nested scalars -/

mutual

/-- The scalars of an operand as they are nested, with an array in the place of
every list. There is nothing of the kind for an operand with nodes in it. -/
def Operand.packed? : Operand → Option Value
  | .value scalar => some scalar
  | .list items => (packedItems? items).map .array
  | .node _ => none

/-- The scalar trees of operands one after the other, if all of them have one. -/
def packedItems? : List Operand → Option (List Value)
  | [] => some []
  | operand :: rest => return (← operand.packed?) :: (← packedItems? rest)

end

mutual

/-- The operand with a list in the place of every array. -/
def Value.unpacked : Value → Operand
  | .array items => .list (unpackedItems items)
  | scalar => .value scalar

/-- The lists of operands for trees, with a list at every level. -/
def unpackedItems : List Value → List Operand
  | [] => []
  | item :: rest => item.unpacked :: unpackedItems rest

end

mutual

/-- A tree whose levels are all lists packs to the tree it came from. -/
theorem Value.packed?_unpacked (value : Value) : value.unpacked.packed? = some value := by
  cases value with
  | array items =>
    rw [Value.unpacked, Operand.packed?, packedItems?_unpackedItems items]
    rfl
  | null | bool _ | integer _ | float _ | text _ | bytes _ | json _ | timestamp _ | uuid _ => rfl

theorem packedItems?_unpackedItems (items : List Value) :
    packedItems? (unpackedItems items) = some items := by
  cases items with
  | nil => rfl
  | cons item rest =>
    rw [unpackedItems, packedItems?, item.packed?_unpacked, packedItems?_unpackedItems rest]
    rfl

end

/-- Where operands pack, the first does and so do the others. -/
theorem packedItems?_cons {operand : Operand} {rest : List Operand} {values : List Value}
    (packed : packedItems? (operand :: rest) = some values) :
    ∃ value others, values = value :: others ∧ operand.packed? = some value ∧
      packedItems? rest = some others := by
  obtain ⟨value, packedFirst, more⟩ := Option.bind_eq_some_iff.mp packed
  obtain ⟨others, packedRest, whole⟩ := Option.bind_eq_some_iff.mp more
  cases whole
  exact ⟨value, others, rfl, packedFirst, packedRest⟩

mutual

/-- The texts of scalars put together level by level, up to the first scalar that
has none. -/
def Value.assembled (form : ListForm) (leaf : Value → Except Fault String) :
    Value → Except Fault String
  | .array items => return listText form (← assembledItems form leaf items)
  | scalar => leaf scalar

/-- The texts of trees one after the other, up to the first leaf that fails. -/
def assembledItems (form : ListForm) (leaf : Value → Except Fault String) :
    List Value → Except Fault (List String)
  | [] => return []
  | item :: rest => return (← item.assembled form leaf) :: (← assembledItems form leaf rest)

end

/-! ### Literals in place -/

theorem literalItems_eq_map (items : List Value) :
    Quote.literalItems items = items.map Quote.literalChars := by
  induction items with
  | nil => rfl
  | cons item rest inductionHypothesis =>
    rw [Quote.literalItems, inductionHypothesis, List.map_cons]

/-- The literal of an array is the array of the literals of its items. -/
theorem quoteLiteral_array (items : List Value) :
    quoteLiteral (.array items) = listText .array (items.map quoteLiteral) := by
  have chars : (items.map quoteLiteral).map String.toList = Quote.literalItems items := by
    simp [literalItems_eq_map, quoteLiteral, Function.comp_def]
  rw [listText, commaText, ← String.toList_inj, String.toList_append, String.toList_append,
    String.toList_intercalate, chars, quoteLiteral, String.toList_ofList]
  rfl

mutual

/-- As a value an operand is written as the literal of its tree, whichever levels
are lists. -/
theorem Operand.writeValue_packed (context : Context) {operand : Operand} {tree : Value}
    (packed : operand.packed? = some tree) :
    operand.writeValue .inline context .array = pure (quoteLiteral tree) := by
  match operand with
  | .value scalar =>
    cases packed
    rfl
  | .list items =>
    obtain ⟨values, packedItems, whole⟩ := Option.map_eq_some_iff.mp packed
    cases whole
    rw [Operand.writeValue, writeValues_packed context packedItems, pure_bind, quoteLiteral_array]
  | .node _ => cases packed

theorem writeValues_packed (context : Context) {operands : List Operand} {values : List Value}
    (packed : packedItems? operands = some values) :
    writeValues .inline context .array operands = pure (values.map quoteLiteral) := by
  match operands with
  | [] =>
    cases packed
    rfl
  | operand :: rest =>
    obtain ⟨value, others, rfl, packedFirst, packedRest⟩ := packedItems?_cons packed
    rw [writeValues, Operand.writeValue_packed context packedFirst,
      writeValues_packed context packedRest, pure_bind, pure_bind, List.map_cons]

end

mutual

/-- Put together from the literals of its leaves, a tree gives its literal. -/
theorem Value.assembled_quoteLiteral (tree : Value) :
    tree.assembled .array (fun scalar => .ok (quoteLiteral scalar)) = .ok (quoteLiteral tree) := by
  cases tree with
  | array items =>
    rw [Value.assembled, assembledItems_quoteLiteral items, quoteLiteral_array]
    rfl
  | null | bool _ | integer _ | float _ | text _ | bytes _ | json _ | timestamp _ | uuid _ => rfl

theorem assembledItems_quoteLiteral (items : List Value) :
    assembledItems .array (fun scalar => .ok (quoteLiteral scalar)) items =
      .ok (items.map quoteLiteral) := by
  cases items with
  | nil => rfl
  | cons item rest =>
    rw [assembledItems, item.assembled_quoteLiteral, assembledItems_quoteLiteral rest]
    rfl

end

/-! ### Names -/

variable {State : Type}

section Lists

variable (sink : Sink State) (context : Context)

mutual

/-- As a name an operand is written as its tree is, whichever levels are lists. -/
theorem Operand.writeName_packed {operand : Operand} {tree : Value}
    (packed : operand.packed? = some tree) :
    operand.writeName sink context = tree.writeName := by
  match operand with
  | .value scalar =>
    cases packed
    rfl
  | .list items =>
    obtain ⟨values, packedItems, whole⟩ := Option.map_eq_some_iff.mp packed
    cases whole
    rw [Operand.writeName, writeNames_packed packedItems, Value.writeName]
  | .node _ => cases packed

theorem writeNames_packed {operands : List Operand} {values : List Value}
    (packed : packedItems? operands = some values) :
    writeNames sink context operands = Value.writeItemNames values := by
  match operands with
  | [] =>
    cases packed
    rfl
  | operand :: rest =>
    obtain ⟨value, others, rfl, packedFirst, packedRest⟩ := packedItems?_cons packed
    rw [writeNames, Operand.writeName_packed packedFirst, writeNames_packed packedRest,
      Value.writeItemNames]

end

end Lists

mutual

/-- Names are put together level by level, and no sink takes anything for them. -/
theorem Value.start_writeName (tree : Value) (state : State) :
    tree.writeName.start state =
      (tree.assembled .row fun scalar => (Operand.value scalar).nameText, state) := by
  cases tree with
  | array items =>
    rw [Value.writeName, start_bind, start_writeItemNames items state, Value.assembled]
    cases assembledItems .row (fun scalar => (Operand.value scalar).nameText) items <;> rfl
  | null | bool _ | integer _ | float _ | text _ | bytes _ | json _ | timestamp _ | uuid _ => rfl

/-- Names are written without a look at the sink, and fail at the first scalar that
has none. -/
theorem start_writeItemNames (items : List Value) (state : State) :
    (Value.writeItemNames items).start state =
      (assembledItems .row (fun scalar => (Operand.value scalar).nameText) items, state) := by
  cases items with
  | nil => rfl
  | cons item rest =>
    rw [Value.writeItemNames, start_bind, item.start_writeName state, assembledItems]
    cases item.assembled .row fun scalar => (Operand.value scalar).nameText with
    | error fault => rfl
    | ok text =>
      show (Value.writeItemNames rest >>= fun texts => pure (text :: texts)).start state = _
      rw [start_bind, start_writeItemNames rest state]
      cases assembledItems .row (fun scalar => (Operand.value scalar).nameText) rest <;> rfl

end

/-- The names of an operand are its tree put together from the names of its leaves. -/
theorem Operand.start_writeName_packed {operand : Operand} {tree : Value}
    (packed : operand.packed? = some tree) (sink : Sink State) (context : Context)
    (state : State) :
    (operand.writeName sink context).start state =
      (tree.assembled .row fun scalar => (Operand.value scalar).nameText, state) := by
  rw [operand.writeName_packed sink context packed, tree.start_writeName]

/-! ### Lists and arrays -/

/-- Scalars can be nested in lists alone, in one array, or in lists down to some
levels and in arrays below them. In all these ways they are written as the same
array of literals, level by level. As names they are written as the same row,
level by level, or fail for the first scalar that has no name, in every context
and with nothing handed to the sink. -/
theorem lists_agree_with_arrays (tree : Value) :
    tree.unpacked.packed? = some tree ∧
      (Operand.value tree).packed? = some tree ∧
      ∀ operand : Operand, operand.packed? = some tree →
        (operand.valueText = (Operand.value tree).valueText ∧
          operand.valueText = .ok (quoteLiteral tree) ∧
          operand.valueText =
            tree.assembled .array fun scalar => (Operand.value scalar).valueText) ∧
        (operand.nameText = (Operand.value tree).nameText ∧
          operand.nameText =
            tree.assembled .row fun scalar => (Operand.value scalar).nameText) ∧
        ∀ (State : Type) (sink : Sink State) (context : Context) (state : State),
          (operand.writeName sink context).start state = (operand.nameText, state) := by
  refine ⟨tree.packed?_unpacked, rfl, fun operand packed => ?_⟩
  have text : operand.valueText = .ok (quoteLiteral tree) := by
    rw [Operand.valueText, operand.writeValue_packed .ordinary packed]
    rfl
  have name : operand.nameText =
      tree.assembled .row fun scalar => (Operand.value scalar).nameText :=
    congrArg Prod.fst (operand.start_writeName_packed packed .inline .ordinary ())
  have arrayName : (Operand.value tree).nameText =
      tree.assembled .row fun scalar => (Operand.value scalar).nameText :=
    congrArg Prod.fst (tree.start_writeName ())
  refine ⟨⟨text, text, text.trans tree.assembled_quoteLiteral.symm⟩,
    ⟨name.trans arrayName.symm, name⟩, fun State sink context state => ?_⟩
  rw [operand.start_writeName_packed packed, name]

/-- Two rows of seats, the second with a seat that has no number. -/
def seats : Operand :=
  .list [.value (.array [.integer 1, .text "Window"]), .list [.value (.bool true), .value .null]]

theorem seats_in_arrays :
    seats.packed? =
        some (.array [.array [.integer 1, .text "Window"], .array [.bool true, .null]]) ∧
      seats.valueText = .ok "ARRAY[ARRAY['1', 'Window'], ARRAY['t', NULL]]" ∧
      seats.nameText = .error (.unnameable .null) :=
  have packed : seats.packed? =
      some (.array [.array [.integer 1, .text "Window"], .array [.bool true, .null]]) := rfl
  have written := (lists_agree_with_arrays _).2.2 seats packed
  ⟨packed, written.1.2.1, written.2.1.2⟩

end SqlTree
