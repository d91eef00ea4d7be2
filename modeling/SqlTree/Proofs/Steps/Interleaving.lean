/-
This file proves that a snippet loses nothing of what goes into it. However it is
begun, with nothing, with SQL text or with a text with markers, and however it is
extended, it says one after another what it was begun with and what was added.
This holds as well where the texts and the operands are kept in lists of their
own: there is always one text more than there are operands, so every operand has
a text to follow it, and none of the texts is left over.

What a snippet says is a list of texts and operands in the order in which they
went in, and how it is begun is such a list as well. The snippet gathers the list
into a first text and operands with the text after each, the parts keep two lists
side by side, and both are shown to be written as the list is transcribed. Between
the two forms there is a map that every step respects, so a run in the one is a
run in the other.
-/

import Mathlib.Data.List.ModifyLast
import SqlTree.Proofs.Rows
import SqlTree.Proofs.Scalars
import SqlTree.Proofs.Steps.Markers

namespace SqlTree

open Writing

/-! ### Steps -/

/-- What a snippet is extended by. -/
inductive SnippetStep where
  | text (contents : String)
  | operand (inner : Operand)

/-- What a snippet is begun with. -/
inductive SnippetStart where
  | nothing
  | raw (text : String)
  | default
  | markers (text : String) (operands : List Operand)

namespace SnippetStep

/-- The operand, if it is one. -/
def operand? : SnippetStep → Option Operand
  | .text _ => none
  | .operand inner => some inner

/-- The operands among the steps. -/
def operands (steps : List SnippetStep) : List Operand :=
  steps.filterMap operand?

/-- A text with markers as steps, read from left to right. A marker without an
operand is a text. -/
def ofMarkers : List Char → List Operand → List SnippetStep
  | [], _ => []
  | '?' :: '?' :: rest, operands => .text "?" :: ofMarkers rest operands
  | '?' :: rest, first :: others => .operand first :: ofMarkers rest others
  | '?' :: rest, [] => .text "?" :: ofMarkers rest []
  | char :: rest, operands => .text (String.singleton char) :: ofMarkers rest operands

/-- The text before the first operand, and the operands with the texts after them. -/
def gather : List SnippetStep → String × List Slot
  | [] => ("", [])
  | .text contents :: rest => (contents ++ (gather rest).1, (gather rest).2)
  | .operand inner :: rest => ("", ⟨inner, (gather rest).1⟩ :: (gather rest).2)

variable {State : Type} (sink : Sink State) (context : Context)

/-- A text is written as it is, and an operand as a value. -/
def write : SnippetStep → Writing State String
  | .text contents => return contents
  | .operand inner => inner.writeValue sink context .array

/-- The steps as they are written one after another. -/
def transcribe (steps : List SnippetStep) : Writing State String :=
  return String.join (← steps.mapM (write sink context))

theorem transcribe_cons (step : SnippetStep) (rest : List SnippetStep) :
    transcribe sink context (step :: rest) =
      (do return (← step.write sink context) ++ (← transcribe sink context rest)) := by
  simp only [transcribe, List.mapM_cons, bind_assoc, pure_bind, String.join_cons]

end SnippetStep

namespace SnippetStart

/-- What a snippet says when nothing has been added to it yet. -/
def steps : SnippetStart → List SnippetStep
  | .nothing => []
  | .raw text => [.text text]
  | .default => [.text "DEFAULT"]
  | .markers text operands => SnippetStep.ofMarkers text.toList operands

/-- The operands without a marker, if there are any. -/
def misuse : SnippetStart → Option Misuse
  | .nothing | .raw _ | .default => none
  | .markers text operands =>
    if operands.length ≤ Snippet.markerCount text.toList then none
    else some (.unusedArguments (operands.length - Snippet.markerCount text.toList))

end SnippetStart

/-! ### Snippets -/

namespace Snippet

/-- The snippet that says what the steps say. -/
def ofSteps (steps : List SnippetStep) (misuse : Option Misuse) : Snippet :=
  ⟨(SnippetStep.gather steps).1, (SnippetStep.gather steps).2, misuse⟩

/-- The snippet that is begun in this way. -/
def begin : SnippetStart → Snippet
  | .nothing => empty
  | .raw text => raw text
  | .default => default
  | .markers text operands => ofMarkers text operands

/-- Takes one step. -/
def take (snippet : Snippet) : SnippetStep → Snippet
  | .text contents => snippet.pushText contents
  | .operand inner => snippet.pushOperand inner

/-- Takes the steps one after another. -/
def takeAll (snippet : Snippet) (steps : List SnippetStep) : Snippet :=
  steps.foldl take snippet

/-- Builds a snippet. -/
def built (start : SnippetStart) (steps : List SnippetStep) : Snippet :=
  (begin start).takeAll steps

end Snippet

namespace SnippetStep

theorem gather_append_operand (steps : List SnippetStep) (inner : Operand) :
    gather (steps ++ [.operand inner]) =
      ((gather steps).1, (gather steps).2 ++ [⟨inner, ""⟩]) := by
  induction steps with
  | nil => rfl
  | cons step rest inductionHypothesis =>
    cases step <;> simp only [List.cons_append, gather, inductionHypothesis]

theorem gather_append_text (steps : List SnippetStep) (contents : String) :
    gather (steps ++ [.text contents]) =
      if (gather steps).2.isEmpty then ((gather steps).1 ++ contents, [])
      else ((gather steps).1, Snippet.extendLast contents (gather steps).2) := by
  induction steps with
  | nil => simp [gather]
  | cons step rest inductionHypothesis =>
    rw [List.cons_append]
    cases step with
    | text before =>
      rw [gather, gather, inductionHypothesis]
      split <;> simp only [String.append_assoc]
    | operand inner =>
      rw [gather, gather, inductionHypothesis]
      cases (gather rest).2 with
      | nil => rfl
      | cons slot slots => rfl

end SnippetStep

namespace Snippet

/-- A snippet that says some steps says one more after taking it. -/
theorem take_ofSteps (steps : List SnippetStep) (misuse : Option Misuse) (step : SnippetStep) :
    (ofSteps steps misuse).take step = ofSteps (steps ++ [step]) misuse := by
  cases step with
  | text contents =>
    rw [ofSteps, ofSteps, SnippetStep.gather_append_text, take, pushText]
    split <;> rfl
  | operand inner =>
    rw [ofSteps, ofSteps, SnippetStep.gather_append_operand]
    rfl

/-- A snippet that says some steps says the later ones after them. -/
theorem takeAll_ofSteps (steps later : List SnippetStep) (misuse : Option Misuse) :
    (ofSteps steps misuse).takeAll later = ofSteps (steps ++ later) misuse := by
  induction later generalizing steps with
  | nil => rw [List.append_nil]; rfl
  | cons step rest inductionHypothesis =>
    refine (congrArg (takeAll · rest) (take_ofSteps steps misuse step)).trans ?_
    rw [inductionHypothesis, List.append_assoc, List.singleton_append]

/-- A text with markers is filled with its operands in their order. -/
theorem gather_ofMarkers (text : List Char) (operands : List Operand) :
    SnippetStep.gather (SnippetStep.ofMarkers text operands) =
      (String.ofList (fill (markers text) operands).1, (fill (markers text) operands).2.1) := by
  fun_induction SnippetStep.ofMarkers text operands with
  | case1 operands => rfl
  | case2 operands rest inductionHypothesis =>
    simp only [SnippetStep.gather, markers, fill, inductionHypothesis, ofList_cons]
    rfl
  | case3 rest first others notPair inductionHypothesis =>
    simp only [SnippetStep.gather, markers, fill, inductionHypothesis]
  | case4 rest notPair inductionHypothesis =>
    simp only [SnippetStep.gather, markers, fill, inductionHypothesis, ofList_cons]
    rfl
  | case5 char rest operands notPair taken notTaken inductionHypothesis =>
    rw [markers_char (ne_mark taken notTaken)]
    simp only [SnippetStep.gather, fill, inductionHypothesis, ofList_cons]

/-- However a snippet is begun, it says what it was begun with. -/
theorem begin_eq (start : SnippetStart) : begin start = ofSteps start.steps start.misuse := by
  cases start with
  | nothing | default => rfl
  | raw text =>
    show Snippet.mk text [] none = ⟨text ++ "", [], none⟩
    rw [String.append_empty]
  | markers text operands =>
    have count := length_unused text.toList operands
    rw [begin, ofMarkers, ofSteps, SnippetStart.steps, gather_ofMarkers, SnippetStart.misuse]
    rcases filled : fill (markers text.toList) operands with ⟨head, slots, unused⟩
    rw [filled] at count
    have allTaken : unused.isEmpty ↔ operands.length ≤ markerCount text.toList := by
      rw [List.isEmpty_iff_length_eq_zero, count, Nat.sub_eq_zero_iff_le]
    simp only [allTaken, count]

/-- A snippet that is built says what it was begun with, and then the steps. -/
theorem built_eq (start : SnippetStart) (steps : List SnippetStep) :
    built start steps = ofSteps (start.steps ++ steps) start.misuse := by
  rw [built, begin_eq, takeAll_ofSteps]

theorem map_operand_slots_ofSteps (steps : List SnippetStep) (misuse : Option Misuse) :
    (ofSteps steps misuse).slots.map Slot.operand = SnippetStep.operands steps := by
  show (SnippetStep.gather steps).2.map Slot.operand = _
  induction steps with
  | nil => rfl
  | cons step rest inductionHypothesis =>
    cases step with
    | text contents => exact inductionHypothesis
    | operand inner => exact congrArg (inner :: ·) inductionHypothesis

variable {State : Type} (sink : Sink State) (context : Context)

theorem write_gather (steps : List SnippetStep) :
    (do
        return (SnippetStep.gather steps).1
          ++ (← writeSlots sink context (SnippetStep.gather steps).2)) =
      SnippetStep.transcribe sink context steps := by
  induction steps with
  | nil => rfl
  | cons step rest inductionHypothesis =>
    rw [SnippetStep.transcribe_cons, ← inductionHypothesis]
    cases step <;>
      simp only [SnippetStep.gather, SnippetStep.write, writeSlots, bind_assoc, pure_bind,
        String.append_assoc, String.empty_append]

/-- A snippet is written as its steps are transcribed, if nothing is recorded. -/
theorem write_ofSteps (steps : List SnippetStep) (misuse : Option Misuse) :
    (ofSteps steps misuse).write sink context =
      (do
        check misuse
        SnippetStep.transcribe sink context steps) := by
  rw [← write_gather]
  rfl

end Snippet

/-! ### Texts and operands in lists of their own -/

/-- Texts in one list and the operands between them in another. -/
structure SnippetParts where
  texts : List String
  operands : List Operand
  misuse : Option Misuse

namespace SnippetParts

/-- There is one empty text and no operand. -/
def empty : SnippetParts :=
  ⟨[""], [], none⟩

/-- The text alone. -/
def raw (text : String) : SnippetParts :=
  ⟨[text], [], none⟩

/-- The word that stands for the default of a column. -/
def default : SnippetParts :=
  raw "DEFAULT"

/-- Appends to the last text; without a text there is nothing to append to. -/
def pushText (parts : SnippetParts) (text : String) : SnippetParts :=
  { parts with texts := parts.texts.modifyLast (· ++ text) }

/-- Adds an operand and opens a new text after it. -/
def pushOperand (parts : SnippetParts) (operand : Operand) : SnippetParts :=
  { parts with texts := parts.texts ++ [""], operands := parts.operands ++ [operand] }

/-- Records the operands that are left over, if there are any. -/
def recordUnused (parts : SnippetParts) (unused : List Operand) : SnippetParts :=
  if unused.isEmpty then parts
  else { parts with misuse := some (.unusedArguments unused.length) }

/-- Reads a text with markers. What was read since the last operand is pushed when
the next one is, or at the end. -/
def read (parts : SnippetParts) (pending : List Char) : List Char → List Operand → SnippetParts
  | [], unused => (parts.pushText (String.ofList pending)).recordUnused unused
  | '?' :: '?' :: rest, operands => parts.read (pending ++ ['?']) rest operands
  | '?' :: rest, first :: others =>
    ((parts.pushText (String.ofList pending)).pushOperand first).read [] rest others
  | '?' :: rest, [] => parts.read (pending ++ ['?']) rest []
  | char :: rest, operands => parts.read (pending ++ [char]) rest operands

/-- The parts that are begun in this way. -/
def begin : SnippetStart → SnippetParts
  | .nothing => empty
  | .raw text => raw text
  | .default => default
  | .markers text operands => empty.read [] text.toList operands

/-- Takes one step. -/
def take (parts : SnippetParts) : SnippetStep → SnippetParts
  | .text contents => parts.pushText contents
  | .operand inner => parts.pushOperand inner

/-- Takes the steps one after another. -/
def takeAll (parts : SnippetParts) (steps : List SnippetStep) : SnippetParts :=
  steps.foldl take parts

/-- Builds the parts of a snippet. -/
def built (start : SnippetStart) (steps : List SnippetStep) : SnippetParts :=
  (begin start).takeAll steps

/-- The snippet as it is written: the first text, and then every operand with the
text that is its turn, until the operands or the texts come to an end. -/
def joined (parts : SnippetParts) : Snippet :=
  ⟨parts.texts.headD "", List.zipWith Slot.mk parts.operands parts.texts.tail, parts.misuse⟩

/-- There is one text more than there are operands. -/
def IsPaired (parts : SnippetParts) : Prop :=
  parts.texts.length = parts.operands.length + 1

end SnippetParts

namespace Snippet

/-- The texts and the operands of a snippet in lists of their own. -/
def parts (snippet : Snippet) : SnippetParts :=
  ⟨snippet.head :: snippet.slots.map Slot.after, snippet.slots.map Slot.operand, snippet.misuse⟩

variable (snippet : Snippet)

theorem joined_parts : snippet.parts.joined = snippet := by
  obtain ⟨head, slots, misuse⟩ := snippet
  have zipped : List.zipWith Slot.mk (slots.map Slot.operand) (slots.map Slot.after) = slots := by
    induction slots with
    | nil => rfl
    | cons slot rest inductionHypothesis =>
      obtain ⟨operand, after⟩ := slot
      rw [List.map_cons, List.map_cons, List.zipWith_cons_cons, inductionHypothesis]
  exact congrArg (Snippet.mk head · misuse) zipped

/-- The parts of a snippet have one text more than operands. -/
theorem isPaired_parts : snippet.parts.IsPaired := by
  simp [SnippetParts.IsPaired, parts]

theorem parts_pushText (text : String) :
    snippet.parts.pushText text = (snippet.pushText text).parts := by
  obtain ⟨head, slots, misuse⟩ := snippet
  obtain rfl | ⟨earlier, ⟨operand, after⟩, rfl⟩ := slots.eq_nil_or_concat
  · rfl
  · have extended : (head :: (earlier.map Slot.after ++ [after])).modifyLast (· ++ text) =
        head :: (earlier.map Slot.after ++ [after ++ text]) :=
      List.modifyLast_concat _ _ (head :: earlier.map Slot.after)
    have present : ¬ (earlier ++ [Slot.mk operand after]).isEmpty := by simp
    rw [List.concat_eq_append, SnippetParts.pushText, pushText, if_neg present, extendLast_append]
    simp only [parts, List.map_append, List.map_cons, List.map_nil, extended]

theorem parts_pushOperand (operand : Operand) :
    snippet.parts.pushOperand operand = (snippet.pushOperand operand).parts := by
  simp [SnippetParts.pushOperand, parts, pushOperand]

/-- A step does to the parts what it does to the snippet. -/
theorem parts_take (step : SnippetStep) : snippet.parts.take step = (snippet.take step).parts := by
  cases step with
  | text contents => exact snippet.parts_pushText contents
  | operand inner => exact snippet.parts_pushOperand inner

theorem parts_takeAll (steps : List SnippetStep) :
    snippet.parts.takeAll steps = (snippet.takeAll steps).parts := by
  induction steps generalizing snippet with
  | nil => rfl
  | cons step rest inductionHypothesis =>
    refine (congrArg (SnippetParts.takeAll · rest) (snippet.parts_take step)).trans ?_
    exact inductionHypothesis (snippet.take step)

/-- Records how many operands have no marker, if there are any. -/
def recordUnused (unused : List Operand) : Snippet :=
  if unused.isEmpty then snippet
  else { snippet with misuse := some (.unusedArguments unused.length) }

theorem parts_recordUnused (unused : List Operand) :
    snippet.parts.recordUnused unused = (snippet.recordUnused unused).parts := by
  unfold SnippetParts.recordUnused recordUnused
  split <;> rfl

/-- To read a text with markers is to push what is filled into it. -/
theorem parts_read (pending text : List Char) (operands : List Operand) :
    snippet.parts.read pending text operands =
      (((fill (markers text) operands).2.1.foldl pushSlot
          (snippet.pushText
            (String.ofList (pending ++ (fill (markers text) operands).1)))).recordUnused
        (fill (markers text) operands).2.2).parts := by
  induction text, operands using SnippetStep.ofMarkers.induct generalizing snippet pending with
  | case1 operands =>
    rw [SnippetParts.read, parts_pushText, parts_recordUnused, markers, fill, List.append_nil]
    rfl
  | case2 operands rest inductionHypothesis =>
    rw [SnippetParts.read, inductionHypothesis, List.append_assoc]
    rfl
  | case3 rest first others notPair inductionHypothesis =>
    rw [SnippetParts.read, parts_pushText, parts_pushOperand, inductionHypothesis]
    · simp only [markers, fill, List.append_nil]
      rfl
    · exact notPair
  | case4 rest notPair inductionHypothesis =>
    rw [SnippetParts.read, inductionHypothesis]
    · simp only [markers, fill, List.append_assoc]
      rfl
    · exact notPair
  | case5 char rest operands notPair taken notTaken inductionHypothesis =>
    rw [SnippetParts.read, inductionHypothesis, markers_char (ne_mark taken notTaken),
      List.append_assoc]
    · rfl
    · exact notPair
    · exact taken
    · exact notTaken

/-- However the parts are begun, they are those of the snippet. -/
theorem parts_begin (start : SnippetStart) : SnippetParts.begin start = (begin start).parts := by
  cases start with
  | nothing | raw _ | default => rfl
  | markers text operands =>
    refine (empty.parts_read [] text.toList operands).trans ?_
    rw [begin, ofMarkers]
    rcases fill (markers text.toList) operands with ⟨head, slots, unused⟩
    rw [List.nil_append]
    show ((assembled (String.ofList head) slots).recordUnused unused).parts = _
    rw [assembled_eq]
    cases unused <;> rfl

/-- The parts that are built are those of the snippet that is built. -/
theorem parts_built (start : SnippetStart) (steps : List SnippetStep) :
    SnippetParts.built start steps = (built start steps).parts := by
  rw [SnippetParts.built, parts_begin, parts_takeAll]
  rfl

end Snippet

/-! ### What is written -/

namespace SnippetStep

variable {State : Type} (sink : Sink State) {context : Context}

/-- A step is written if its operand can be. -/
theorem exists_start_write [sink.Answers] {step : SnippetStep}
    (sound : ∀ inner, step.operand? = some inner →
      (inner.renderValue context .array).fails = false)
    (state : State) :
    ∃ text after, (step.write sink context).start state = (.ok text, after) := by
  cases step with
  | text contents => exact ⟨contents, state, rfl⟩
  | operand inner =>
    have succeeds : ¬ (inner.writeValue sink context .array).FailsFrom state := by
      rw [inner.writeValue_eq sink, Rendering.failsFrom_writeTo_iff, sound inner rfl]
      exact Bool.false_ne_true
    exact exists_ok_of_not_failsFrom succeeds

/-- Steps are written if none of their operands fails, each when its turn comes. -/
theorem start_transcribe [sink.Answers] {steps : List SnippetStep}
    (sound : ∀ inner ∈ operands steps, (inner.renderValue context .array).fails = false)
    (state : State) :
    ∃ texts after, InTurn state (steps.map (write sink context)) texts after ∧
      (transcribe sink context steps).start state = (.ok (String.join texts), after) := by
  induction steps generalizing state with
  | nil => exact ⟨[], state, .nil, rfl⟩
  | cons step rest inductionHypothesis =>
    have soundStep : ∀ inner, step.operand? = some inner →
        (inner.renderValue context .array).fails = false := fun inner same =>
      sound inner (List.mem_filterMap.mpr ⟨step, List.mem_cons_self, same⟩)
    have soundRest : ∀ inner ∈ operands rest,
        (inner.renderValue context .array).fails = false := by
      intro inner member
      obtain ⟨other, among, same⟩ := List.mem_filterMap.mp member
      exact sound inner (List.mem_filterMap.mpr ⟨other, List.mem_cons_of_mem _ among, same⟩)
    obtain ⟨text, middle, written⟩ := exists_start_write sink soundStep state
    obtain ⟨texts, after, run, restWritten⟩ := inductionHypothesis soundRest middle
    refine ⟨text :: texts, after, .cons written run, ?_⟩
    rw [transcribe_cons, String.join_cons]
    exact start_bind_ok.mpr ⟨text, middle, written,
      start_bind_ok.mpr ⟨String.join texts, after, restWritten, rfl⟩⟩

end SnippetStep

/-! ### What is bound -/

/-- What an operand hands over where a value is wanted. -/
def Operand.scalars (context : Context) (operand : Operand) : List Value :=
  (operand.renderValue context .array).scalars

/-- Operands hand over their scalars in order, whatever the texts between them. -/
theorem scalars_renderSlots (context : Context) {slots : List Slot}
    (sound : ∀ operand ∈ slots.map Slot.operand,
      (operand.renderValue context .array).fails = false) :
    (renderSlots context slots).scalars =
      (slots.map Slot.operand).flatMap (Operand.scalars context) := by
  induction slots with
  | nil => rfl
  | cons slot rest inductionHypothesis =>
    obtain ⟨operand, after⟩ := slot
    rw [List.map_cons] at sound ⊢
    obtain ⟨first, others⟩ := List.forall_mem_cons.mp sound
    rw [List.flatMap_cons, ← inductionHypothesis others]
    simp [renderSlots, first, Operand.scalars]

namespace Snippet

/-- The operands of a snippet that is written are bound one after another. -/
theorem values_write (context : Context) {snippet : Snippet} (unhindered : snippet.misuse = none)
    (sound : ∀ operand ∈ snippet.slots.map Slot.operand,
      (operand.renderValue context .array).fails = false)
    (list : Parameters) :
    ((snippet.write .parameters context).start list).2.values =
      list.values ++ (snippet.slots.map Slot.operand).flatMap (Operand.scalars context) := by
  obtain ⟨head, slots, misuse⟩ := snippet
  cases unhindered
  rw [Snippet.write_eq, (Rendering.start_writeTo _ list).2]
  show list.values ++ (Snippet.render context ⟨head, slots, none⟩).scalars = _
  rw [← scalars_renderSlots context sound]
  simp [Snippet.render, Rendering.check]

/-- However a snippet is begun and whatever is added to it, kept in two lists it has
one text more than operands, so none of them is left over when they are written in
turn. It is written as what it was begun with and then the steps in their order: the
texts as they are, the operands as values. If no operand of the beginning is without a
marker and none of the operands fails, it is written, and a list of values goes on with
the scalars of the operands in the same order. -/
theorem nothing_lost (start : SnippetStart) (steps : List SnippetStep) :
    ((SnippetParts.built start steps).IsPaired ∧
        (SnippetParts.built start steps).operands = SnippetStep.operands (start.steps ++ steps) ∧
        (SnippetParts.built start steps).misuse = start.misuse ∧
        (SnippetParts.built start steps).joined = built start steps) ∧
      ∀ context : Context,
        (∀ (State : Type) (sink : Sink State),
          (Node.snippet (built start steps)).write sink context =
            (do
              check start.misuse
              SnippetStep.transcribe sink context (start.steps ++ steps))) ∧
        (start.misuse = none →
          (∀ operand ∈ SnippetStep.operands (start.steps ++ steps),
            (operand.renderValue context .array).fails = false) →
          (∀ (State : Type) (sink : Sink State) [sink.Answers] (state : State), ∃ texts after,
            InTurn state ((start.steps ++ steps).map (SnippetStep.write sink context)) texts
                after ∧
              ((Node.snippet (built start steps)).write sink context).start state =
                (.ok (String.join texts), after)) ∧
          ∀ list : Parameters,
            (((Node.snippet (built start steps)).write .parameters context).start list).2.values =
              list.values ++
                (SnippetStep.operands (start.steps ++ steps)).flatMap
                  (Operand.scalars context)) := by
  have operands : (built start steps).slots.map Slot.operand =
      SnippetStep.operands (start.steps ++ steps) := by
    rw [built_eq, map_operand_slots_ofSteps]
  have misuse : (built start steps).misuse = start.misuse := by
    rw [built_eq]
    rfl
  have written (context : Context) (State : Type) (sink : Sink State) :
      (Node.snippet (built start steps)).write sink context =
        (do
          check start.misuse
          SnippetStep.transcribe sink context (start.steps ++ steps)) := by
    rw [built_eq]
    exact write_ofSteps sink context _ _
  refine ⟨?_, fun context => ⟨written context, fun unhindered sound =>
    ⟨fun State sink _ state => ?_, fun list => ?_⟩⟩⟩
  · rw [parts_built]
    exact ⟨isPaired_parts _, operands, misuse, joined_parts _⟩
  · obtain ⟨texts, after, run, transcribed⟩ := SnippetStep.start_transcribe sink sound state
    refine ⟨texts, after, run, ?_⟩
    rw [written, unhindered]
    exact transcribed
  · rw [← operands] at sound ⊢
    exact values_write context (misuse.trans unhindered) sound list

/-- Accounts in arrears, from a text with markers and more after it. -/
def arrears : SnippetStart × List SnippetStep :=
  (.markers "paid < ? OR note ?? " [.value (.integer 90)],
    [.operand (.text "late"), .text " LIMIT ", .operand (.value (.integer 3))])

theorem arrears_kept :
    (SnippetParts.built arrears.1 arrears.2).operands =
        [.value (.integer 90), .text "late", .value (.integer 3)] ∧
      (Node.snippet (built arrears.1 arrears.2)).toText =
        .ok "paid < '90' OR note ? 'late' LIMIT '3'" ∧
      (((Node.snippet (built arrears.1 arrears.2)).write .parameters .ordinary).start
        .empty).2.values = [.integer 90, .text "late", .integer 3] := by
  obtain ⟨⟨-, operands, -, -⟩, written⟩ := nothing_lost arrears.1 arrears.2
  have taken : SnippetStep.operands (arrears.1.steps ++ arrears.2) =
      [.value (.integer 90), .text "late", .value (.integer 3)] := rfl
  have sound : ∀ operand ∈ SnippetStep.operands (arrears.1.steps ++ arrears.2),
      (operand.renderValue .ordinary .array).fails = false := by
    rw [taken]
    simp [Operand.text, Operand.renderValue]
  refine ⟨operands, ?_, ((written .ordinary).2 rfl sound).2 .empty⟩
  rw [Node.toText, (written .ordinary).1]
  rfl

end Snippet

end SqlTree
