/-
This file says which column a JSON object takes for a key when its keys come from a
table. The table is written as a path of its own and the key after it. That is the path
of the key in the table exactly if the name of the table ends like the name of a column
that has no trailer and is no star, and if the proposed row is not the table and not what
its last segment stands after. Any other name of a table is not quoted as a part of a path.

Objects are compared item by item, over every sink, with an object without a table
whose columns are the paths of the keys. For an object of one key the comparison
is an equivalence, so the condition on the table cannot be weakened.
-/

import SqlTree.Parameters
import SqlTree.Proofs.PathParts
import SqlTree.Tree.Query

namespace SqlTree

open Quote Writing

/-! ### Names before a point -/

/-- The segments of a path between its points. -/
def segments (path : String) : List String :=
  (splitAll '.' path.toList).map String.ofList

/-- As a path of its own, the text is written as it is before another segment: its last
segment is one name, and neither the text nor what stands before its last segment is the
proposed row. -/
structure IsQualifier (qualifier : String) : Prop where
  single : ∀ last ∈ (segments qualifier).getLast?, IsSingleName last
  notProposed : segments qualifier ≠ ["EXCLUDED"]
  notBelowProposed : (segments qualifier).dropLast ≠ ["EXCLUDED"]

variable {qualifier key last : String}

theorem segments_of_not_mem (noPoint : '.' ∉ qualifier.toList) :
    segments qualifier = [qualifier] := by
  rw [segments, splitAll_of_not_mem noPoint, List.map_singleton, String.ofList_toList]

theorem segments_append (first last : String) (noPoint : '.' ∉ last.toList) :
    segments (first ++ "." ++ last) = segments first ++ [last] := by
  have chars : (first ++ "." ++ last).toList = first.toList ++ '.' :: last.toList := by
    simp
  rw [segments, chars, splitAll_append, splitAll_of_not_mem noPoint, List.map_append,
    List.map_singleton, String.ofList_toList, segments]

/-- Every path with a point in it is something before a last segment. -/
theorem point_cases (path : String) :
    '.' ∉ path.toList ∨
      ∃ before last : String, path = before ++ "." ++ last ∧ '.' ∉ last.toList := by
  rcases mark_cases '.' path.toList with noPoint | ⟨before, last, whole, noPoint⟩
  · exact .inl noPoint
  · refine .inr ⟨String.ofList before, String.ofList last, ?_, ?_⟩
    · rw [← String.toList_inj, whole]
      simp
    · rwa [String.toList_ofList]

/-- Every segment is a name of its own, unless the whole is the proposed row. -/
theorem quoteQualifier_eq (notProposed : qualifier ≠ "EXCLUDED") :
    quoteQualifier qualifier = ".".intercalate ((segments qualifier).map quoteName) := by
  have notExcluded : qualifier.toList ≠ Path.excluded := fun same =>
    notProposed (String.toList_injective same)
  have names : ((segments qualifier).map quoteName).map String.toList =
      (splitAll '.' qualifier.toList).map nameChars := by
    simp [segments, quoteName, Function.comp_def]
  rw [quoteQualifier, Path.qualifierChars, if_neg notExcluded, ← String.toList_inj,
    String.toList_ofList, String.toList_intercalate, names]
  rfl

/-- A table of several segments is written name by name, with the last one after
the others. -/
theorem quoteQualifier_append (before : String) (noPoint : '.' ∉ last.toList) :
    quoteQualifier (before ++ "." ++ last) =
      ".".intercalate ((segments before).map quoteName) ++ "." ++ quoteName last := by
  have longer : before ++ "." ++ last ≠ "EXCLUDED" := by
    intro same
    have point : '.' ∈ "EXCLUDED".toList := by
      rw [← same]
      simp
    revert point
    decide
  have present : (segments before).map quoteName ≠ [] := by
    simp [segments, Reading.splitAll_ne_nil]
  rw [quoteQualifier_eq longer, segments_append before last noPoint, List.map_append,
    String.intercalate_append_of_ne_nil present (by simp), List.map_singleton,
    String.intercalate_singleton]

/-- A table of one segment is a part of a path if it is a single name and not the
proposed row. -/
theorem isQualifier_of_not_mem_iff (noPoint : '.' ∉ qualifier.toList) :
    IsQualifier qualifier ↔ qualifier ≠ "EXCLUDED" ∧ IsSingleName qualifier := by
  have only := segments_of_not_mem noPoint
  constructor
  · intro isQualifier
    refine ⟨?_, isQualifier.single qualifier (by simp [only])⟩
    rintro rfl
    exact isQualifier.notProposed only
  · rintro ⟨notProposed, single⟩
    exact ⟨by simpa [only] using single, by simpa [only] using notProposed, by simp [only]⟩

theorem segments_eq_singleton_iff {path : String} (noPoint : '.' ∉ last.toList) :
    segments path = [last] ↔ path = last := by
  constructor
  · intro single
    obtain ⟨chars, only, rfl⟩ := List.map_eq_singleton_iff.mp single
    rw [String.toList_ofList] at noPoint
    rw [← (splitAll_eq_singleton_iff noPoint).mp only, String.ofList_toList]
  · rintro rfl
    exact segments_of_not_mem noPoint

/-- A table of several segments is a part of a path if the last is a single name and the
proposed row is not what stands before it. -/
theorem isQualifier_append_iff {before : String} (noPoint : '.' ∉ last.toList) :
    IsQualifier (before ++ "." ++ last) ↔ before ≠ "EXCLUDED" ∧ IsSingleName last := by
  have parts := segments_append before last noPoint
  have present : segments before ≠ [] := by
    simp [segments, Reading.splitAll_ne_nil]
  constructor
  · intro isQualifier
    refine ⟨?_, isQualifier.single last (by simp [parts])⟩
    rintro rfl
    refine isQualifier.notBelowProposed ?_
    rw [parts, List.dropLast_concat]
    decide
  · rintro ⟨notProposed, single⟩
    refine ⟨by simpa [parts] using single, ?_, ?_⟩
    · rw [parts]
      intro same
      exact present (List.append_eq_singleton_iff.mp same |>.elim And.left nofun)
    · rw [parts, List.dropLast_concat]
      exact mt (segments_eq_singleton_iff (by decide)).mp notProposed

/-- A table is written alike as a path and as a part of a path exactly under
the condition. -/
theorem quotePath_eq_quoteQualifier_iff (qualifier : String) :
    quotePath qualifier = quoteQualifier qualifier ↔ IsQualifier qualifier := by
  rcases point_cases qualifier with noPoint | ⟨before, last, rfl, noPoint⟩
  · rw [isQualifier_of_not_mem_iff noPoint]
    by_cases proposed : qualifier = "EXCLUDED"
    · subst proposed
      exact iff_of_false (by decide) fun ⟨notProposed, _⟩ => notProposed rfl
    · rw [quoteQualifier_eq proposed, segments_of_not_mem noPoint, List.map_singleton,
        String.intercalate_singleton, quotePath_eq_quoteName_iff]
      exact (and_iff_right proposed).symm
  · rw [isQualifier_append_iff noPoint, quotePath_append before noPoint,
      quoteQualifier_append before noPoint]
    by_cases proposed : before = "EXCLUDED"
    · subst proposed
      -- The row keeps its word before one more segment, but not before two.
      have word : quoteQualifier "EXCLUDED" = "EXCLUDED" := by decide
      have quoted : ".".intercalate ((segments "EXCLUDED").map quoteName) = "\"EXCLUDED\"" := by
        decide
      refine iff_of_false (fun same => ?_) fun ⟨notProposed, _⟩ => notProposed rfl
      rw [word, quoted] at same
      have firsts := congrArg (fun text => text.toList.head?) same
      simp at firsts
    · rw [← quoteQualifier_eq proposed, String.append_right_inj, quotePath_eq_quoteName_iff]
      exact (and_iff_right proposed).symm

/-- What an object takes for a key is the path of the key in the table exactly if the table
stands as a path as it does before another segment. -/
theorem quotePath_key_iff (qualifier : String) (noPoint : '.' ∉ key.toList) :
    quotePath qualifier ++ "." ++ quotePath key = quotePath (qualifier ++ "." ++ key) ↔
      IsQualifier qualifier := by
  rw [quotePath_append qualifier noPoint, String.append_left_inj, String.append_left_inj,
    quotePath_eq_quoteQualifier_iff]

/-! ### Keys of an object -/

namespace JsonItem

/-- The keys that are columns under their own names. -/
def ownKeys : JsonItem → List String
  | .key single => [single]
  | .keys several => several
  | .map _ => []

/-- A key with its column as a path. -/
def member (qualifier key : String) : JsonItem :=
  .map ⟨[⟨key, .path (qualifier ++ "." ++ key)⟩]⟩

/-- The item with the columns of its keys as paths. -/
def spelledOut (qualifier : String) : JsonItem → List JsonItem
  | .key single => [member qualifier single]
  | .keys several => several.map (member qualifier)
  | .map columns => [.map columns]

end JsonItem

namespace JsonObject

/-- All keys of the object that are taken from its table. -/
def ownKeys (object : JsonObject) : List String :=
  object.items.flatMap JsonItem.ownKeys

/-- The object with the columns of its keys as paths. -/
def spelledOut (object : JsonObject) (qualifier : String) : JsonObject :=
  ⟨object.items.flatMap (JsonItem.spelledOut qualifier), none, object.binary⟩

end JsonObject

variable {State : Type} {sink : Sink State} {context : Context}

theorem writeItems_member (qualifier key : String) (rest : List JsonItem) :
    writeItems sink context none (JsonItem.member qualifier key :: rest) =
      (do return (quoteText key ++ ", " ++ quotePath (qualifier ++ "." ++ key)) ::
        (← writeItems sink context none rest)) := by
  have column : (Operand.path (qualifier ++ "." ++ key)).writeName sink context =
      pure (quotePath (qualifier ++ "." ++ key)) := by
    show pure ("" ++ quotePath (qualifier ++ "." ++ key)) = _
    rw [String.empty_append]
  rw [JsonItem.member, writeItems, ColumnMap.writeNameCells, writeNameFields, writeNameFields,
    List.mapM_cons, List.mapM_nil, writeJsonMember, column]
  simp only [pure_bind, List.cons_append, List.nil_append]

/-- Members whose columns are paths are written one for each key. -/
theorem writeItems_members (qualifier : String) (keys : List String) (rest : List JsonItem) :
    writeItems sink context none (keys.map (JsonItem.member qualifier) ++ rest) =
      (do return keys.map (fun key =>
          quoteText key ++ ", " ++ quotePath (qualifier ++ "." ++ key)) ++
        (← writeItems sink context none rest)) := by
  induction keys with
  | nil => simp only [List.map_nil, List.nil_append, bind_pure]
  | cons key others inductionHypothesis =>
    rw [List.map_cons, List.cons_append, writeItems_member, inductionHypothesis]
    simp only [bind_assoc, pure_bind, List.map_cons, List.cons_append]

theorem jsonKeyText_eq (isQualifier : IsQualifier qualifier) (noPoint : '.' ∉ key.toList) :
    jsonKeyText (some qualifier) key =
      quoteText key ++ ", " ++ quotePath (qualifier ++ "." ++ key) := by
  rw [← (quotePath_key_iff qualifier noPoint).mpr isQualifier, jsonKeyText]
  simp only [String.append_assoc]

/-- Under the condition the items with a table are written as those with paths, by
induction on the items. -/
theorem writeItems_spelledOut (isQualifier : IsQualifier qualifier) {items : List JsonItem}
    (noPoints : ∀ key ∈ items.flatMap JsonItem.ownKeys, '.' ∉ key.toList) :
    writeItems sink context (some qualifier) items =
      writeItems sink context none (items.flatMap (JsonItem.spelledOut qualifier)) := by
  induction items with
  | nil => rfl
  | cons item rest inductionHypothesis =>
    rw [List.flatMap_cons, List.forall_mem_append] at noPoints
    obtain ⟨noPointsHere, noPointsAfter⟩ := noPoints
    rw [List.flatMap_cons]
    cases item with
    | key key =>
      have noPoint := noPointsHere key (List.mem_singleton_self key)
      rw [JsonItem.spelledOut, List.singleton_append, writeItems_member, writeItems,
        jsonKeyText_eq isQualifier noPoint, inductionHypothesis noPointsAfter]
    | keys keys =>
      have texts : keys.map (jsonKeyText (some qualifier)) = keys.map (fun key =>
          quoteText key ++ ", " ++ quotePath (qualifier ++ "." ++ key)) :=
        List.map_congr_left fun key inside => jsonKeyText_eq isQualifier (noPointsHere key inside)
      rw [JsonItem.spelledOut, writeItems_members, writeItems, texts,
        inductionHypothesis noPointsAfter]
    | map columns =>
      rw [JsonItem.spelledOut, List.singleton_append, writeItems, writeItems,
        inductionHypothesis noPointsAfter]

namespace JsonObject

/-- An object is written with the paths of its keys if no key has a point. -/
theorem write_spelledOut (isQualifier : IsQualifier qualifier) {object : JsonObject}
    (noPoints : ∀ key ∈ object.ownKeys, '.' ∉ key.toList) :
    (object.qualified qualifier).write sink context =
      (object.spelledOut qualifier).write sink context := by
  rw [qualified, spelledOut, write, write, writeItems_spelledOut isQualifier noPoints]

/-- An object with one member. -/
def singleText (binary : Bool) (key reference : String) : String :=
  (if binary then "jsonb_build_object" else "json_build_object")
    ++ parenthesizedText (quoteText key ++ ", " ++ reference)

theorem singleText_inj (binary : Bool) (key : String) {first second : String} :
    singleText binary key first = singleText binary key second ↔ first = second := by
  rw [singleText, singleText, parenthesizedText, parenthesizedText, String.append_right_inj,
    String.append_left_inj, String.append_right_inj, String.append_right_inj]

variable {item : JsonItem} {binary : Bool}

theorem write_qualified_key (given : item = .key key ∨ item = .keys [key]) :
    ((ofItem item binary).qualified qualifier).write sink context =
      pure (singleText binary key (quotePath qualifier ++ "." ++ quotePath key)) := by
  have text : quoteText key ++ ", " ++ quotePath qualifier ++ "." ++ quotePath key =
      quoteText key ++ ", " ++ (quotePath qualifier ++ "." ++ quotePath key) := by
    simp only [String.append_assoc]
  rw [singleText, ← text]
  rcases given with rfl | rfl <;> rfl

theorem write_spelledOut_key (given : item = .key key ∨ item = .keys [key]) :
    ((ofItem item binary).spelledOut qualifier).write sink context =
      pure (singleText binary key (quotePath (qualifier ++ "." ++ key))) := by
  have items : item.spelledOut qualifier = [JsonItem.member qualifier key] := by
    rcases given with rfl | rfl <;> rfl
  rw [ofItem, spelledOut, List.flatMap_singleton, items, write, writeItems_member, writeItems]
  rfl

theorem write_key_eq_iff (given : item = .key key ∨ item = .keys [key])
    (noPoint : '.' ∉ key.toList) :
    (∀ (State : Type) (sink : Sink State) (context : Context),
      ((ofItem item binary).qualified qualifier).write sink context =
        ((ofItem item binary).spelledOut qualifier).write sink context) ↔
      IsQualifier qualifier := by
  simp only [write_qualified_key given, write_spelledOut_key given]
  rw [← quotePath_key_iff qualifier noPoint, ← singleText_inj binary key]
  constructor
  · intro same
    have results := congrArg (fun action => (start action ()).1) (same Unit .inline .ordinary)
    exact Except.ok.inj results
  · intro same State sink context
    rw [same]

/-- A key in a table, given alone or in a list, is the path of the column in the table
exactly if the name of the table stands before a segment as it stands alone. If it does, any
object is written as the one with the columns of its keys as paths. -/
theorem write_qualified (qualifier : String) :
    (∀ (key : String) (item : JsonItem) (binary : Bool),
      '.' ∉ key.toList → item = .key key ∨ item = .keys [key] →
      ((∀ (State : Type) (sink : Sink State) (context : Context),
        ((ofItem item binary).qualified qualifier).write sink context =
          ((ofItem item binary).spelledOut qualifier).write sink context) ↔
        IsQualifier qualifier)) ∧
    (IsQualifier qualifier →
      ∀ object : JsonObject, (∀ key ∈ object.ownKeys, '.' ∉ key.toList) →
      ∀ (State : Type) (sink : Sink State) (context : Context),
        (object.qualified qualifier).write sink context =
          (object.spelledOut qualifier).write sink context) := by
  refine ⟨?_, ?_⟩
  · intro key item binary noPoint given
    exact write_key_eq_iff given noPoint
  · intro isQualifier object noPoints State sink context
    exact write_spelledOut isQualifier noPoints

/-- What is known of an order: its key, its user and when it was made. -/
def orderData : JsonObject :=
  (ofItem (.key "Id") true).addItem (.keys ["User", "Made at"])

theorem orderData_inSales :
    IsQualifier "Our sales.Order" ∧
      (Node.jsonObject (orderData.qualified "Our sales.Order")).toText =
        .ok ("jsonb_build_object('Id', \"Our sales\".\"Order\".\"Id\", "
          ++ "'User', \"Our sales\".\"Order\".\"User\", "
          ++ "'Made at', \"Our sales\".\"Order\".\"Made\" at)") ∧
      (orderData.qualified "Our sales.Order").write .inline .ordinary =
        (orderData.spelledOut "Our sales.Order").write .inline .ordinary ∧
      (∀ (State : Type) (sink : Sink State) (context : Context),
        ((ofItem (.key "Id") true).qualified "Our sales.Order").write sink context =
          ((ofItem (.key "Id") true).spelledOut "Our sales.Order").write sink context) := by
  have single : IsSingleName "Order" := ⟨by decide, by decide, by decide⟩
  have isQualifier : IsQualifier ("Our sales" ++ "." ++ "Order") :=
    (isQualifier_append_iff single.noPoint).mpr ⟨by decide, single⟩
  have noPoints : ∀ key ∈ orderData.ownKeys, '.' ∉ key.toList := by decide
  refine ⟨isQualifier, rfl, ?_, ?_⟩
  · exact (write_qualified _).2 isQualifier orderData noPoints Unit .inline .ordinary
  · exact ((write_qualified _).1 "Id" _ true (by decide) (.inl rfl)).mpr isQualifier

/-- With a space in it the name of the table is cut at the space and not quoted, and the
proposed row loses its own name. -/
theorem homeTown_unquoted :
    (Node.jsonObject ((ofItem (.keys ["id"]) true).qualified "home town")).toText =
        .ok "jsonb_build_object('id', home town.id)" ∧
      quotePath "home town.id" = "\"home town\".id" ∧
      (Node.jsonObject ((ofItem (.keys ["id"]) true).qualified "EXCLUDED")).toText =
        .ok "jsonb_build_object('id', \"EXCLUDED\".id)" ∧
      quotePath "EXCLUDED.id" = "EXCLUDED.id" := by
  have text (qualifier : String) :
      (Node.jsonObject ((ofItem (.keys ["id"]) true).qualified qualifier)).toText =
        .ok (singleText true "id" (quotePath qualifier ++ "." ++ quotePath "id")) := by
    show ((((ofItem (.keys ["id"]) true).qualified qualifier).write .inline .ordinary).start
      ()).1 = _
    rw [write_qualified_key (.inr rfl)]
    rfl
  refine ⟨(text "home town").trans (congrArg Except.ok ?_), ?_,
    (text "EXCLUDED").trans (congrArg Except.ok ?_), ?_⟩ <;> decide +kernel

end JsonObject

end SqlTree
