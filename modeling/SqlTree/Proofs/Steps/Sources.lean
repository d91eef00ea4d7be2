/-
This file proves what sources and joins are written as, given in any order and,
in a query, among any other steps. A join before the first source is recorded
and from then on nothing is written. Otherwise the steps are written one after
another as they came, and each join follows the source that came last before it.
This holds as well where joins are stored apart from the sources, each with the
index of its source.

Sources with their joins are read back as a list of steps, and adding a source or
a join adds a step to the list. So the list of calls and the list that is read
back are one and the same, unless a join came first. Joins that are kept apart,
each with the index of its source, are nested into the sources; every step
respects the nesting, as long as every index is that of a source, which every step
preserves.
-/

import SqlTree.Proofs.Misuse.Refusal
import SqlTree.Tree.Query

namespace SqlTree

open Writing

/-! ### Steps -/

/-- A step in which sources are listed. -/
inductive SourceStep where
  | source (table : Operand)
  | join (join : Join)

namespace SourceStep

variable {State : Type} (sink : Sink State) (context : Context)

/-- The steps as they are written one after another, given what goes before the
next source. -/
def transcribe (opening : String) : List SourceStep → Writing State String
  | [] => return ""
  | .source table :: rest =>
    return opening ++ (← table.writeName sink context) ++ (← transcribe ", " rest)
  | .join joined :: rest =>
    return " " ++ (← joined.write sink context) ++ (← transcribe opening rest)

/-- The steps after their keyword; without steps there is no keyword. -/
def transcribeFrom (steps : List SourceStep) : Writing State String :=
  if steps.isEmpty then return ""
  else return " FROM " ++ (← transcribe sink context "" steps)

/-- A join comes before the first source. -/
def JoinsEarly (steps : List SourceStep) : Prop :=
  ∃ earlier join later, steps = earlier ++ .join join :: later ∧ ∀ table, .source table ∉ earlier

theorem joinsEarly_join (join : Join) (rest : List SourceStep) : JoinsEarly (.join join :: rest) :=
  ⟨[], join, rest, rfl, fun _ => List.not_mem_nil⟩

theorem not_joinsEarly_nil : ¬ JoinsEarly [] := by
  rintro ⟨earlier, join, later, same, -⟩
  cases earlier <;> cases same

theorem not_joinsEarly_source (table : Operand) (rest : List SourceStep) :
    ¬ JoinsEarly (.source table :: rest) := by
  rintro ⟨earlier, join, later, same, noSource⟩
  cases earlier with
  | nil => cases same
  | cons first others =>
    cases same
    exact noSource table List.mem_cons_self

end SourceStep

/-! ### Lists of sources -/

namespace SourceList

/-- Takes one step. -/
def take (list : SourceList) : SourceStep → SourceList
  | .source table => list.addSource table
  | .join join => list.addJoin join

/-- Takes the steps one after another. -/
def takeAll (list : SourceList) (steps : List SourceStep) : SourceList :=
  steps.foldl take list

/-- Builds a list of sources. -/
def built (steps : List SourceStep) : SourceList :=
  empty.takeAll steps

/-- The steps that list sources, each with the joins after it. -/
def steps : List Source → List SourceStep
  | [] => []
  | ⟨table, joins⟩ :: rest => .source table :: (joins.map .join ++ steps rest)

theorem steps_append (first second : List Source) :
    steps (first ++ second) = steps first ++ steps second := by
  induction first with
  | nil => rfl
  | cons source rest inductionHypothesis =>
    obtain ⟨table, joins⟩ := source
    rw [List.cons_append, steps, steps, inductionHypothesis, ← List.append_assoc,
      List.cons_append]

theorem joinLast_append (join : Join) (earlier : List Source) (table : Operand)
    (joins : List Join) :
    joinLast join (earlier ++ [⟨table, joins⟩]) = earlier ++ [⟨table, joins ++ [join]⟩] := by
  induction earlier with
  | nil => rfl
  | cons source rest inductionHypothesis =>
    obtain ⟨next, others, more⟩ : ∃ next others, rest ++ [⟨table, joins⟩] = next :: others := by
      cases rest <;> exact ⟨_, _, rfl⟩
    rw [List.cons_append, more, joinLast, ← more, inductionHypothesis, List.cons_append]
    -- The equation for a longer list asks that it is not a single source.
    exact fun _ _ _ single => by cases single

/-- A join is read back as the last step. -/
theorem steps_joinLast (join : Join) {sources : List Source} (listed : sources ≠ []) :
    steps (joinLast join sources) = steps sources ++ [.join join] := by
  obtain ⟨earlier, ⟨table, joins⟩, rfl⟩ := sources.eq_nil_or_concat.resolve_left listed
  rw [List.concat_eq_append, joinLast_append, steps_append, steps_append, List.append_assoc]
  simp [steps]

variable {list : SourceList}

/-- Once there is a source, a step goes to the end of the steps. -/
theorem steps_take (listed : list.sources ≠ []) (step : SourceStep) :
    steps (list.take step).sources = steps list.sources ++ [step] ∧
      (list.take step).misuse = list.misuse ∧ (list.take step).sources ≠ [] := by
  obtain ⟨sources, misuse⟩ := list
  cases step with
  | source table =>
    exact ⟨steps_append sources _, rfl,
      List.append_ne_nil_of_right_ne_nil _ (List.cons_ne_nil _ _)⟩
  | join join =>
    obtain ⟨first, rest, rfl⟩ := List.exists_cons_of_ne_nil listed
    refine ⟨steps_joinLast join listed, rfl, ?_⟩
    obtain ⟨table, joins⟩ := first
    cases rest <;> exact List.cons_ne_nil _ _

/-- After the first source, every step is read back and nothing is recorded. -/
theorem steps_takeAll (listed : list.sources ≠ []) (later : List SourceStep) :
    steps (list.takeAll later).sources = steps list.sources ++ later ∧
      (list.takeAll later).misuse = list.misuse := by
  induction later generalizing list with
  | nil => exact ⟨(List.append_nil _).symm, rfl⟩
  | cons step rest inductionHypothesis =>
    obtain ⟨taken, sameMisuse, listedAfter⟩ := steps_take listed step
    obtain ⟨takenAll, sameMisuseAfter⟩ := inductionHypothesis listedAfter
    refine ⟨takenAll.trans ?_, sameMisuseAfter.trans sameMisuse⟩
    rw [taken, List.append_assoc]
    rfl

/-- What is recorded stays recorded. -/
theorem misuse_takeAll {misuse : Misuse} (recorded : list.misuse = some misuse)
    (later : List SourceStep) : (list.takeAll later).misuse = some misuse := by
  induction later generalizing list with
  | nil => exact recorded
  | cons step rest inductionHypothesis =>
    refine inductionHypothesis ?_
    cases step with
    | source table => exact recorded
    | join join =>
      show (list.addJoin join).misuse = _
      unfold addJoin
      split
      · rw [recorded]
        rfl
      · exact recorded

/-- A join before the first source is recorded, and nothing else is. Without it
the list keeps all the steps in their order. -/
theorem built_steps (calls : List SourceStep) :
    (SourceStep.JoinsEarly calls → (built calls).misuse = some .joinBeforeSource) ∧
      (¬ SourceStep.JoinsEarly calls →
        (built calls).misuse = none ∧ steps (built calls).sources = calls) := by
  match calls with
  | [] => exact ⟨fun early => absurd early SourceStep.not_joinsEarly_nil, fun _ => ⟨rfl, rfl⟩⟩
  | .source table :: rest =>
    refine ⟨fun early => absurd early (SourceStep.not_joinsEarly_source table rest), fun _ => ?_⟩
    have listed : (empty.addSource table).sources ≠ [] := List.cons_ne_nil _ _
    obtain ⟨taken, sameMisuse⟩ := steps_takeAll listed rest
    exact ⟨sameMisuse, taken⟩
  | .join join :: rest =>
    refine ⟨fun _ => ?_, fun late => absurd (SourceStep.joinsEarly_join join rest) late⟩
    have recorded : (empty.addJoin join).misuse = some .joinBeforeSource := rfl
    exact misuse_takeAll recorded rest

end SourceList

/-! ### What is written -/

namespace SourceStep

variable {State : Type} (sink : Sink State) (context : Context)

/-- The joins of a source are transcribed before what follows the source. -/
theorem transcribe_joins (opening : String) (joins : List Join) (rest : List SourceStep) :
    transcribe sink context opening (joins.map .join ++ rest) =
      (do
        return (← writeJoins sink context joins)
          ++ (← transcribe sink context opening rest)) := by
  induction joins with
  | nil =>
    simp only [List.map_nil, List.nil_append, writeJoins, pure_bind, String.empty_append,
      bind_pure]
  | cons join others inductionHypothesis =>
    simp only [List.map_cons, List.cons_append, transcribe, inductionHypothesis, writeJoins,
      bind_assoc, pure_bind, String.append_assoc]

/-- Texts that follow another one, with a comma before each. -/
def followingText : List String → String
  | [] => ""
  | text :: rest => ", " ++ text ++ followingText rest

theorem commaText_cons (text : String) (rest : List String) :
    commaText (text :: rest) = text ++ followingText rest := by
  induction rest generalizing text with
  | nil => exact (String.append_empty).symm
  | cons next others inductionHypothesis =>
    rw [commaText, String.intercalate_cons_cons]
    show text ++ ", " ++ commaText (next :: others) = _
    rw [inductionHypothesis, followingText, String.append_assoc, String.append_assoc]

/-- Further sources are written with a comma before each. -/
theorem transcribe_following (sources : List Source) :
    transcribe sink context ", " (SourceList.steps sources) =
      (do return followingText (← writeSources sink context sources)) := by
  induction sources with
  | nil => simp only [SourceList.steps, transcribe, writeSources, pure_bind, followingText]
  | cons source rest inductionHypothesis =>
    obtain ⟨table, joins⟩ := source
    simp only [SourceList.steps, transcribe, transcribe_joins, inductionHypothesis, writeSources,
      followingText, bind_assoc, pure_bind, String.append_assoc]

/-- Sources are written as the steps that list them. -/
theorem transcribe_steps (sources : List Source) :
    transcribe sink context "" (SourceList.steps sources) =
      (do return commaText (← writeSources sink context sources)) := by
  cases sources with
  | nil => simp only [SourceList.steps, transcribe, writeSources, pure_bind]; rfl
  | cons source rest =>
    obtain ⟨table, joins⟩ := source
    simp only [SourceList.steps, transcribe, transcribe_joins, transcribe_following, writeSources,
      commaText_cons, bind_assoc, pure_bind, String.append_assoc, String.empty_append]

theorem transcribeFrom_steps (sources : List Source) :
    transcribeFrom sink context (SourceList.steps sources) =
      (do return listClauseText " FROM " (← writeSources sink context sources)) := by
  cases sources with
  | nil => simp only [SourceList.steps, transcribeFrom, writeSources, pure_bind]; rfl
  | cons source rest =>
    have written := transcribe_steps sink context (source :: rest)
    obtain ⟨table, joins⟩ := source
    have present : (SourceList.steps (⟨table, joins⟩ :: rest)).isEmpty = false := rfl
    rw [transcribeFrom, present, if_neg Bool.false_ne_true, written]
    simp only [writeSources, listClauseText, List.isEmpty_cons, Bool.false_eq_true, if_false,
      bind_assoc, pure_bind]

end SourceStep

namespace SourceList

variable {State : Type} (sink : Sink State) (context : Context)

/-- A list of sources is written as its steps are transcribed, if nothing
is recorded. -/
theorem write_steps (list : SourceList) :
    list.write sink context =
      (do
        check list.misuse
        SourceStep.transcribe sink context "" (steps list.sources)) := by
  obtain ⟨sources, misuse⟩ := list
  rw [SourceStep.transcribe_steps, SourceList.write]

/-- What is built is written as the calls are transcribed, if no join came first. -/
theorem write_built {calls : List SourceStep} (late : ¬ SourceStep.JoinsEarly calls) :
    (built calls).write sink context = SourceStep.transcribe sink context "" calls := by
  obtain ⟨sound, kept⟩ := (built_steps calls).2 late
  rw [write_steps, sound, kept]
  rfl

end SourceList

/-! ### Joins apart from the sources -/

/-- Sources in one list and joins in another, each with the index of its source. -/
structure KeyedSources where
  tables : List Operand
  joins : List (Nat × Join)
  misuse : Option Misuse

namespace KeyedSources

/-- There is nothing yet. -/
def empty : KeyedSources :=
  ⟨[], [], none⟩

/-- Takes one step. A join is kept with the index of the source before it. -/
def take (list : KeyedSources) : SourceStep → KeyedSources
  | .source table => { list with tables := list.tables ++ [table] }
  | .join join =>
    match list.tables.length with
    | 0 => { list with misuse := list.misuse.or (some .joinBeforeSource) }
    | last + 1 => { list with joins := list.joins ++ [(last, join)] }

/-- Takes the steps one after another. -/
def takeAll (list : KeyedSources) (steps : List SourceStep) : KeyedSources :=
  steps.foldl take list

/-- The joins of the source with the index. -/
def joinsAt (joins : List (Nat × Join)) (index : Nat) : List Join :=
  (joins.filter fun entry => entry.1 = index).map Prod.snd

/-- The sources, each with the joins that have its index. -/
def sources (list : KeyedSources) : List Source :=
  list.tables.zipIdx.map fun entry => ⟨entry.1, joinsAt list.joins entry.2⟩

/-- The list with the joins within the sources. -/
def nested (list : KeyedSources) : SourceList :=
  ⟨list.sources, list.misuse⟩

/-- Every join has the index of a source. -/
def IsKeyed (list : KeyedSources) : Prop :=
  ∀ entry ∈ list.joins, entry.1 < list.tables.length

theorem take_join_append (earlier : List Operand) (last : Operand) (joins : List (Nat × Join))
    (misuse : Option Misuse) (join : Join) :
    take ⟨earlier ++ [last], joins, misuse⟩ (.join join) =
      ⟨earlier ++ [last], joins ++ [(earlier.length, join)], misuse⟩ := by
  simp [take]

variable {list : KeyedSources}

/-- Every step keeps the indices those of sources. -/
theorem IsKeyed.take (keyed : list.IsKeyed) (step : SourceStep) : (list.take step).IsKeyed := by
  obtain ⟨tables, joins, misuse⟩ := list
  cases step with
  | source table =>
    intro entry member
    have bound := keyed entry member
    show entry.1 < (tables ++ [table]).length
    rw [List.length_append]
    exact Nat.lt_add_right _ bound
  | join join =>
    obtain rfl | ⟨earlier, last, rfl⟩ := tables.eq_nil_or_concat
    · exact keyed
    · rw [List.concat_eq_append, take_join_append]
      intro entry member
      obtain before | new := List.mem_append.mp member
      · rw [List.concat_eq_append] at keyed
        exact keyed entry before
      · cases List.mem_singleton.mp new
        show earlier.length < (earlier ++ [last]).length
        rw [List.length_append]
        exact Nat.lt_succ_self _

theorem joinsAt_append (first second : List (Nat × Join)) (index : Nat) :
    joinsAt (first ++ second) index = joinsAt first index ++ joinsAt second index := by
  rw [joinsAt, List.filter_append, List.map_append]
  rfl

theorem joinsAt_eq_nil {joins : List (Nat × Join)} {index : Nat}
    (others : ∀ entry ∈ joins, entry.1 ≠ index) : joinsAt joins index = [] := by
  rw [joinsAt, List.map_eq_nil_iff, List.filter_eq_nil_iff]
  exact fun entry member same => others entry member (of_decide_eq_true same)

/-- The last source with its joins after the others. -/
theorem sources_append (tables : List Operand) (last : Operand) (joins : List (Nat × Join))
    (misuse : Option Misuse) :
    sources ⟨tables ++ [last], joins, misuse⟩ =
      sources ⟨tables, joins, misuse⟩ ++ [⟨last, joinsAt joins tables.length⟩] := by
  simp [sources, List.zipIdx_append]

/-- A join of a later source changes nothing about the sources before it. -/
theorem sources_join_later (tables : List Operand) (joins : List (Nat × Join)) (join : Join)
    (misuse : Option Misuse) :
    sources ⟨tables, joins ++ [(tables.length, join)], misuse⟩ =
      sources ⟨tables, joins, misuse⟩ := by
  refine List.map_congr_left fun entry member => ?_
  have bound : entry.2 < tables.length := by
    have := List.snd_lt_of_mem_zipIdx member
    omega
  have none : joinsAt [(tables.length, join)] entry.2 = [] := by
    refine joinsAt_eq_nil fun other new => ?_
    cases List.mem_singleton.mp new
    exact Nat.ne_of_gt bound
  rw [joinsAt_append, none, List.append_nil]

/-- The joins are within the right sources after every step. -/
theorem nested_take (keyed : list.IsKeyed) (step : SourceStep) :
    (list.take step).nested = list.nested.take step := by
  obtain ⟨tables, joins, misuse⟩ := list
  cases step with
  | source table =>
    have none : joinsAt joins tables.length = [] :=
      joinsAt_eq_nil fun entry member => Nat.ne_of_lt (keyed entry member)
    show SourceList.mk (sources ⟨tables ++ [table], joins, misuse⟩) misuse = ⟨_ ++ _, misuse⟩
    rw [sources_append, none]
    rfl
  | join join =>
    obtain rfl | ⟨earlier, last, rfl⟩ := tables.eq_nil_or_concat
    · rfl
    · have self : joinsAt [(earlier.length, join)] earlier.length = [join] := by
        simp [joinsAt]
      rw [List.concat_eq_append, take_join_append, nested, nested, SourceList.take,
        SourceList.addJoin, sources_append, sources_append, sources_join_later, joinsAt_append,
        self, SourceList.joinLast_append, if_neg (by simp)]

theorem nested_takeAll (keyed : list.IsKeyed) (steps : List SourceStep) :
    (list.takeAll steps).nested = list.nested.takeAll steps := by
  induction steps generalizing list with
  | nil => rfl
  | cons step rest inductionHypothesis =>
    have taken := inductionHypothesis (keyed.take step)
    rwa [nested_take keyed step] at taken

theorem nested_built (steps : List SourceStep) :
    (empty.takeAll steps).nested = SourceList.built steps :=
  nested_takeAll (fun _ member => absurd member List.not_mem_nil) steps

end KeyedSources

/-! ### Queries -/

/-- A step in which a query is built. -/
inductive SelectStep where
  | columns (columns : List Operand)
  | distinct (keys : List Operand)
  | target (table : Operand)
  | sources (step : SourceStep)
  | condition (clause : Clause)
  | groupCondition (clause : Clause)
  | grouping (columns : List Operand)
  | ordering (key : Operand) (direction : Option Direction)
  | limit (count : UInt64)
  | offset (count : UInt64)
  | page (page size : UInt64)

/-- The steps that list sources, among those of a query. -/
def SelectStep.sourceSteps (steps : List SelectStep) : List SourceStep :=
  steps.filterMap fun
    | .sources step => some step
    | _ => none

namespace Select

/-- Takes one step. -/
def take (query : Select) : SelectStep → Select
  | .columns columns => query.addColumns columns
  | .distinct keys => query.distinctOn keys
  | .target table => query.into table
  | .sources (.source table) => query.addSource table
  | .sources (.join join) => query.addJoin join
  | .condition clause => query.addCondition clause
  | .groupCondition clause => query.addGroupCondition clause
  | .grouping columns => query.addGrouping columns
  | .ordering key direction => query.addOrderKey key direction
  | .limit count => query.withLimit count
  | .offset count => query.withOffset count
  | .page page size => query.paginate page size

/-- Takes the steps one after another. -/
def takeAll (query : Select) (steps : List SelectStep) : Select :=
  steps.foldl take query

/-- Builds a query. -/
def built (steps : List SelectStep) : Select :=
  empty.takeAll steps

/-- The sources of a query are listed by its own steps for them. -/
theorem sources_takeAll (query : Select) (steps : List SelectStep) :
    (query.takeAll steps).sources = query.sources.takeAll (SelectStep.sourceSteps steps) := by
  induction steps generalizing query with
  | nil => rfl
  | cons step rest inductionHypothesis =>
    refine (inductionHypothesis (query.take step)).trans ?_
    match step with
    | .sources (.source _) | .sources (.join _) => rfl
    | .columns _ | .distinct _ | .target _ | .condition _ | .groupCondition _ | .grouping _
    | .ordering _ _ | .limit _ | .offset _ | .page _ _ => rfl

theorem built_steps (steps : List SelectStep) :
    (SourceStep.JoinsEarly (SelectStep.sourceSteps steps) →
        (built steps).sources.misuse = some .joinBeforeSource) ∧
      (¬ SourceStep.JoinsEarly (SelectStep.sourceSteps steps) →
        (built steps).sources.misuse = none ∧
          SourceList.steps (built steps).sources.sources = SelectStep.sourceSteps steps) := by
  rw [built, sources_takeAll]
  exact SourceList.built_steps (SelectStep.sourceSteps steps)

variable {State : Type} (sink : Sink State) (context : Context)

/-- What is written before the sources. -/
def writeHead : Select → Writing State String
  | ⟨columns, distinct, target, _, _, _, _, _, _, _⟩ => do
    let distinct ← writeDistinct sink context distinct
    let columns ← writeColumns sink context columns
    let target ← writeTarget sink context target
    return "SELECT " ++ distinct ++ columns ++ target

/-- What is written after the sources. -/
def writeTail : Select → Writing State String
  | ⟨_, _, _, _, condition, grouping, groupCondition, ordering, limit, offset⟩ => do
    let condition ← condition.write sink context
    let grouping ← writeNames sink context grouping
    let groupCondition ← groupCondition.write sink context
    let ordering ← writeOrderKeys sink context ordering
    return clauseText " WHERE " condition ++ listClauseText " GROUP BY " grouping
      ++ clauseText " HAVING " groupCondition ++ listClauseText " ORDER BY " ordering
      ++ countText " LIMIT " limit ++ countText " OFFSET " offset

/-- A query is written with its sources as they are transcribed. -/
theorem write_steps (query : Select) :
    query.write sink context =
      (do
        check query.sources.misuse
        let head ← query.writeHead sink context
        let sources ← SourceStep.transcribeFrom sink context
          (SourceList.steps query.sources.sources)
        let tail ← query.writeTail sink context
        return head ++ sources ++ tail) := by
  obtain ⟨columns, distinct, target, ⟨sources, misuse⟩, condition, grouping, groupCondition,
    ordering, limit, offset⟩ := query
  simp only [Select.write, writeHead, writeTail, SourceStep.transcribeFrom_steps, bind_assoc,
    pure_bind, String.append_assoc]

/-- The sources of a query are written between the parts before and after them. -/
theorem write_built {steps : List SelectStep}
    (late : ¬ SourceStep.JoinsEarly (SelectStep.sourceSteps steps)) :
    (built steps).write sink context =
      (do
        let head ← (built steps).writeHead sink context
        let sources ← SourceStep.transcribeFrom sink context (SelectStep.sourceSteps steps)
        let tail ← (built steps).writeTail sink context
        return head ++ sources ++ tail) := by
  obtain ⟨sound, kept⟩ := (built_steps steps).2 late
  rw [write_steps, sound, kept]
  rfl

end Select

/-! ### Runs of steps -/

namespace SourceStep

/-- Where a join comes before the first source, whatever else is done, nothing is
written and what is wrong is told. Otherwise the list keeps the steps as they came,
and they are written one after another into any sink, by themselves or in the
middle of a query. It makes no difference whether joins are stored with their
sources or apart from them. -/
theorem transcribed_or_refused (calls : List SourceStep) (steps : List SelectStep) :
    (Fault.misuse .joinBeforeSource).message =
        "Sequencing error: cannot join before a FROM source" ∧
      ((JoinsEarly calls →
          (Node.sources (.built calls)).Refuses (.misuse .joinBeforeSource) ∧
            (Node.sources (.built calls)).toText = .error (.misuse .joinBeforeSource) ∧
            (Node.sources (.built calls)).prepare = .error (.misuse .joinBeforeSource)) ∧
        (¬ JoinsEarly calls →
          SourceList.steps (SourceList.built calls).sources = calls ∧
            ∀ (State : Type) (sink : Sink State) (context : Context),
              (Node.sources (.built calls)).write sink context =
                transcribe sink context "" calls) ∧
        (KeyedSources.empty.takeAll calls).nested = .built calls) ∧
      (JoinsEarly (SelectStep.sourceSteps steps) →
          (Node.select (.built steps)).Refuses (.misuse .joinBeforeSource) ∧
            (Node.select (.built steps)).toText = .error (.misuse .joinBeforeSource) ∧
            (Node.select (.built steps)).prepare = .error (.misuse .joinBeforeSource)) ∧
        (¬ JoinsEarly (SelectStep.sourceSteps steps) →
          SourceList.steps (Select.built steps).sources.sources =
              SelectStep.sourceSteps steps ∧
            ∀ (State : Type) (sink : Sink State) (context : Context),
              (Node.select (.built steps)).write sink context =
                (do
                  let head ← (Select.built steps).writeHead sink context
                  let sources ← transcribeFrom sink context (SelectStep.sourceSteps steps)
                  let tail ← (Select.built steps).writeTail sink context
                  return head ++ sources ++ tail)) := by
  refine ⟨rfl, ⟨fun early => ?_, fun late => ?_, KeyedSources.nested_built calls⟩,
    fun early => ?_, fun late => ?_⟩
  · have refuses := SourceList.refuses ((SourceList.built_steps calls).1 early)
    exact ⟨refuses, refuses.toText, refuses.prepare⟩
  · exact ⟨((SourceList.built_steps calls).2 late).2, fun _ sink context =>
      SourceList.write_built sink context late⟩
  · have refuses := Select.refuses ((Select.built_steps steps).1 early)
    exact ⟨refuses, refuses.toText, refuses.prepare⟩
  · exact ⟨((Select.built_steps steps).2 late).2, fun _ sink context =>
      Select.write_built sink context late⟩

/-- Two sources, the first with a join, and a condition between them. -/
def crossings : List SelectStep :=
  [.sources (.source (.text "Town")),
    .sources (.join (.ofClause .cross (.text "Bridge") .nothing)),
    .condition (.node (.condition (.test (.text "Length") (.nullity true)))),
    .sources (.source (.text "River"))]

theorem crossings_transcribed :
    ¬ JoinsEarly (SelectStep.sourceSteps crossings) ∧
      SourceList.steps (Select.built crossings).sources.sources =
        SelectStep.sourceSteps crossings ∧
      (Node.select (.built crossings)).toText =
        .ok ("SELECT * FROM \"Town\" CROSS JOIN \"Bridge\", \"River\""
          ++ " WHERE \"Length\" IS NOT NULL") :=
  have late : ¬ JoinsEarly (SelectStep.sourceSteps crossings) := not_joinsEarly_source _ _
  ⟨late, ((transcribed_or_refused [] crossings).2.2.2 late).1, rfl⟩

end SourceStep

end SqlTree
