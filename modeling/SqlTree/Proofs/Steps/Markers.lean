/-
This file proves what a text with markers says. Read from left to right, two
question marks are one of the text, any other question mark is a marker, and
the markers take the operands in their order. Operands that are left over are
recorded, and then nothing is written. A text with every question mark doubled
says itself, so a snippet that is built step by step can be given as a text with
markers as well.

The reading is defined on characters in two stages: which characters are of the
text and which are markers, and then the filling of the markers with operands. The
stages are independent of each other, so that escaping, which is about the first,
and the operands left over, which are about the second, are never treated
together. A marker directly before a doubled question mark would be read as
something else, which is why the texts between operands are asked to keep apart.
-/

import SqlTree.Proofs.Misuse.Refusal
import SqlTree.Quote.Name
import SqlTree.Tree.Snippet

namespace SqlTree.Snippet

open Writing

/-! ### Texts with markers -/

/-- How many markers a text has, read from left to right. -/
def markerCount : List Char → Nat
  | [] => 0
  | '?' :: '?' :: rest => markerCount rest
  | '?' :: rest => markerCount rest + 1
  | _ :: rest => markerCount rest

theorem markers_char {char : Char} (noMark : char ≠ '?') (rest : List Char) :
    markers (char :: rest) = some char :: markers rest := by
  rw [markers]
  · exact fun _ mark => absurd mark noMark
  · exact noMark

theorem markers_mark {rest : List Char} (single : rest.head? ≠ some '?') :
    markers ('?' :: rest) = none :: markers rest := by
  rw [markers]
  rintro others rfl
  exact single rfl

/-- What is no marker with an operand to take and no marker without is no marker. -/
theorem ne_mark {char : Char} {operands : List Operand}
    (taken : ∀ operand others, operands = operand :: others → char = '?' → False)
    (notTaken : operands = [] → char = '?' → False) : char ≠ '?' := by
  cases operands with
  | nil => exact notTaken rfl
  | cons operand others => exact taken operand others rfl

/-- Every marker takes an operand as long as there are any. -/
theorem length_unused (text : List Char) (operands : List Operand) :
    (fill (markers text) operands).2.2.length = operands.length - markerCount text := by
  fun_induction markerCount text generalizing operands with
  | case1 => rfl
  | case2 rest inductionHypothesis => exact inductionHypothesis operands
  | case3 rest notPair inductionHypothesis =>
    have single : rest.head? ≠ some '?' := by
      intro pair
      obtain ⟨others, rfl⟩ := List.head?_eq_some_iff.mp pair
      exact notPair others rfl
    rw [markers_mark single]
    cases operands with
    | nil => exact (inductionHypothesis []).trans (by simp)
    | cons operand operands =>
      refine (inductionHypothesis operands).trans ?_
      rw [List.length_cons, Nat.add_sub_add_right]
  | case4 char rest notPair noMark inductionHypothesis =>
    rw [markers_char noMark]
    exact inductionHypothesis operands

/-! ### What is written -/

section Transcription

variable {State : Type} (sink : Sink State) (context : Context)

/-- The text as it is written from left to right, with the operands as values in
the places of the markers. A marker without an operand stays a question mark. -/
def transcribe : List Char → List Operand → Writing State String
  | [], _ => return ""
  | '?' :: '?' :: rest, operands => return "?" ++ (← transcribe rest operands)
  | '?' :: rest, operand :: operands =>
    return (← operand.writeValue sink context .array) ++ (← transcribe rest operands)
  | '?' :: rest, [] => return "?" ++ (← transcribe rest [])
  | char :: rest, operands => return String.singleton char ++ (← transcribe rest operands)

theorem ofList_cons (char : Char) (rest : List Char) :
    String.ofList (char :: rest) = String.singleton char ++ String.ofList rest := by
  rw [← List.singleton_append, String.ofList_append, String.singleton_eq_ofList]

/-- What is filled in is written in the order in which the text is read. -/
theorem write_fill (text : List Char) (operands : List Operand) :
    (do return String.ofList (fill (markers text) operands).1
        ++ (← writeSlots sink context (fill (markers text) operands).2.1)) =
      transcribe sink context text operands := by
  fun_induction transcribe sink context text operands with
  | case1 operands => simp only [markers, fill, writeSlots, pure_bind]; rfl
  | case2 operands rest inductionHypothesis =>
    rw [← inductionHypothesis]
    simp only [markers, fill, ofList_cons, String.append_assoc, bind_assoc, pure_bind]
    rfl
  | case3 rest operand operands notPair inductionHypothesis =>
    rw [← inductionHypothesis]
    simp only [markers, fill, writeSlots, String.ofList_nil, String.empty_append,
      String.append_assoc, bind_assoc, pure_bind]
  | case4 rest notPair inductionHypothesis =>
    rw [← inductionHypothesis]
    simp only [markers, fill, ofList_cons, String.append_assoc, bind_assoc, pure_bind]
    rfl
  | case5 char rest operands notPair taken notTaken inductionHypothesis =>
    rw [← inductionHypothesis, markers_char (ne_mark taken notTaken)]
    simp only [fill, ofList_cons, String.append_assoc, bind_assoc, pure_bind]

/-- With no operand left over, the snippet is written as the text is read. -/
theorem write_ofMarkers {text : String} {operands : List Operand}
    (enough : operands.length ≤ markerCount text.toList) :
    (ofMarkers text operands).write sink context =
      transcribe sink context text.toList operands := by
  have count := length_unused text.toList operands
  rw [← write_fill, ofMarkers]
  rcases filled : fill (markers text.toList) operands with ⟨head, slots, unused⟩
  rw [filled] at count
  obtain rfl : unused = [] :=
    List.length_eq_zero_iff.mp (count.trans (Nat.sub_eq_zero_of_le enough))
  rfl

end Transcription

/-- With operands left over, their number is recorded. -/
theorem misuse_ofMarkers {text : String} {operands : List Operand}
    (more : markerCount text.toList < operands.length) :
    (ofMarkers text operands).misuse =
      some (.unusedArguments (operands.length - markerCount text.toList)) := by
  have count := length_unused text.toList operands
  rw [ofMarkers, ← count]
  rcases filled : fill (markers text.toList) operands with ⟨head, slots, unused⟩
  rw [filled] at count
  have left : ¬ unused.isEmpty := by
    rintro none
    rw [List.isEmpty_iff.mp none] at count
    exact absurd count.symm (Nat.sub_ne_zero_of_lt more)
  exact if_neg left

/-! ### Texts with doubled question marks -/

/-- The text with every question mark doubled. -/
def escaped (text : String) : List Char :=
  Quote.doubled '?' text.toList

/-- Texts with a marker for an operand before each. -/
def escapedSlots (slots : List Slot) : List Char :=
  slots.flatMap fun slot => '?' :: escaped slot.after

/-- No operand is followed by another one or by a text that starts with a
question mark. -/
def AreApart (slots : List Slot) : Prop :=
  (∀ slot ∈ slots, slot.after.toList.head? ≠ some '?') ∧
    ∀ slot ∈ slots.dropLast, slot.after ≠ ""

/-- Adds an operand and the text after it. -/
def pushSlot (snippet : Snippet) (slot : Slot) : Snippet :=
  (snippet.pushOperand slot.operand).pushText slot.after

/-- The snippet built step by step from a text and operands with the texts after them. -/
def assembled (head : String) (slots : List Slot) : Snippet :=
  slots.foldl pushSlot (empty.pushText head)

theorem extendLast_append (slots : List Slot) (operand : Operand) (after text : String) :
    extendLast text (slots ++ [⟨operand, after⟩]) = slots ++ [⟨operand, after ++ text⟩] := by
  induction slots with
  | nil => rfl
  | cons slot rest inductionHypothesis =>
    obtain ⟨next, others, more⟩ : ∃ next others, rest ++ [⟨operand, after⟩] = next :: others := by
      cases rest <;> exact ⟨_, _, rfl⟩
    rw [List.cons_append, more, extendLast, ← more, inductionHypothesis, List.cons_append]
    -- The equation for a longer list asks that it is not a single slot.
    exact fun _ _ _ single => by cases single

theorem pushSlot_eq (head : String) (slots : List Slot) (misuse : Option Misuse) (slot : Slot) :
    pushSlot ⟨head, slots, misuse⟩ slot = ⟨head, slots ++ [slot], misuse⟩ := by
  obtain ⟨operand, after⟩ := slot
  have present : ¬ (slots ++ [Slot.mk operand ""]).isEmpty := by simp
  rw [pushSlot, pushOperand, pushText, if_neg present, extendLast_append, String.empty_append]

/-- A snippet that is built step by step has its slots in the order of the steps. -/
theorem assembled_eq (head : String) (slots : List Slot) :
    assembled head slots = ⟨head, slots, none⟩ := by
  have run (before : List Slot) :
      slots.foldl pushSlot ⟨head, before, none⟩ = ⟨head, before ++ slots, none⟩ := by
    induction slots generalizing before with
    | nil => rw [List.append_nil]; rfl
    | cons slot rest inductionHypothesis =>
      rw [List.foldl_cons, pushSlot_eq, inductionHypothesis, List.append_assoc]
      rfl
  have start : empty.pushText head = ⟨head, [], none⟩ :=
    congrArg (Snippet.mk · [] none) String.empty_append
  rw [assembled, start, run, List.nil_append]

/-- With every question mark doubled, a text is read as itself. -/
theorem markers_escaped (text : List Char) (rest : List Char) :
    markers (Quote.doubled '?' text ++ rest) = text.map some ++ markers rest := by
  induction text with
  | nil => rfl
  | cons char others inductionHypothesis =>
    rw [Quote.doubled, List.flatMap_cons, List.append_assoc, List.map_cons, List.cons_append,
      ← inductionHypothesis]
    by_cases mark : char = '?'
    · subst mark
      rfl
    · rw [if_neg mark]
      exact markers_char mark _

theorem fill_text (text : List Char) (rest : List (Option Char)) (operands : List Operand) :
    fill (text.map some ++ rest) operands =
      (text ++ (fill rest operands).1, (fill rest operands).2) := by
  induction text with
  | nil => rfl
  | cons char others inductionHypothesis =>
    rw [List.map_cons, List.cons_append, fill, inductionHypothesis]
    rfl

/-- What follows a marker does not start with a question mark. -/
theorem head?_escaped {slot : Slot} {rest : List Slot} (apart : AreApart (slot :: rest)) :
    (escaped slot.after ++ escapedSlots rest).head? ≠ some '?' := by
  obtain ⟨noMark, present⟩ := apart
  have single := noMark slot List.mem_cons_self
  rw [escaped]
  cases chars : slot.after.toList with
  | cons char others =>
    rw [chars, List.head?_cons] at single
    have plain : char ≠ '?' := fun mark => single (congrArg some mark)
    rw [Quote.doubled, List.flatMap_cons, if_neg plain]
    exact single
  | nil =>
    cases rest with
    | nil => exact nofun
    | cons next others =>
      have named : slot.after ≠ "" := present slot List.mem_cons_self
      exact absurd (String.toList_eq_nil_iff.mp chars) named

/-- Every marker takes back the operand that stood there. -/
theorem fill_escapedSlots {slots : List Slot} (apart : AreApart slots) :
    fill (markers (escapedSlots slots)) (slots.map Slot.operand) = ([], slots, []) := by
  induction slots with
  | nil => rfl
  | cons slot rest inductionHypothesis =>
    obtain ⟨noMark, present⟩ := apart
    have others : AreApart rest := by
      refine ⟨fun other member => noMark other (List.mem_cons_of_mem _ member),
        fun other member => ?_⟩
      cases rest with
      | nil => cases member
      | cons next following => exact present other (List.mem_cons_of_mem _ member)
    have filled := inductionHypothesis others
    have read : markers (escapedSlots (slot :: rest)) =
        none :: (slot.after.toList.map some ++ markers (escapedSlots rest)) := by
      rw [← markers_escaped]
      exact markers_mark (head?_escaped ⟨noMark, present⟩)
    obtain ⟨operand, after⟩ := slot
    rw [read, List.map_cons, fill, fill_text, filled]
    simp

/-- The escaped text gives back the snippet. -/
theorem ofMarkers_escaped (head : String) {slots : List Slot} (apart : AreApart slots) :
    ofMarkers (String.ofList (escaped head ++ escapedSlots slots)) (slots.map Slot.operand) =
      assembled head slots := by
  rw [assembled_eq, ofMarkers, String.toList_ofList, escaped, markers_escaped, fill_text,
    fill_escapedSlots apart]
  simp

/-- The message says how many operands were left over. -/
theorem message_unusedArguments (count : Nat) :
    (Fault.misuse (.unusedArguments count)).message =
      "Malformed statement: template has " ++ String.ofList (Digits.natural count)
        ++ " unused argument(s)" := by
  have opening : "Malformed statement: template has " =
      "Malformed statement: " ++ "template has " := by decide
  have written : (Fault.misuse (.unusedArguments count)).message =
      "Malformed statement: " ++ ("template has " ++ String.ofList (Digits.natural count)
        ++ " unused argument(s)") := rfl
  rw [written, opening]
  simp only [String.append_assoc]

/-- A text with an operand for every marker or for the first of them is written from
left to right as it is read. With more operands than markers nothing is written, and
the message says how many are left. A text with its question marks doubled gives the
snippet that is built from it step by step, as long as no operand touches the next
one or a question mark. -/
theorem taken_or_left (text : String) (operands : List Operand) (head : String)
    (slots : List Slot) :
    (operands.length ≤ markerCount text.toList →
        ∀ (State : Type) (sink : Sink State) (context : Context),
          (Node.snippet (ofMarkers text operands)).write sink context =
            transcribe sink context text.toList operands) ∧
      (markerCount text.toList < operands.length →
        ∃ fault : Fault, fault.kind = .malformed ∧
          fault.message = "Malformed statement: template has "
            ++ String.ofList (Digits.natural (operands.length - markerCount text.toList))
            ++ " unused argument(s)" ∧
          (Node.snippet (ofMarkers text operands)).Refuses fault ∧
          (Node.snippet (ofMarkers text operands)).toText = .error fault ∧
          (Node.snippet (ofMarkers text operands)).prepare = .error fault) ∧
      (AreApart slots →
        ofMarkers (String.ofList (escaped head ++ escapedSlots slots))
          (slots.map Slot.operand) = assembled head slots) := by
  refine ⟨fun enough _ sink context => write_ofMarkers sink context enough, fun more => ?_,
    ofMarkers_escaped head⟩
  have refused := refuses (misuse_ofMarkers more)
  exact ⟨_, rfl, message_unusedArguments _, refused, refused.toText, refused.prepare⟩

/-- Three question marks in a row are one of the text and a marker. -/
def crowded : String :=
  "a ??? AND b ?"

theorem crowded_taken :
    markerCount crowded.toList = 2 ∧
      (Node.snippet (ofMarkers crowded [.value (.integer 1)])).toText =
        .ok "a ?'1' AND b ?" ∧
      (∃ fault : Fault,
        fault.message = "Malformed statement: template has 1 unused argument(s)" ∧
          (Node.snippet (ofMarkers crowded [.path "c", .path "d", .path "e"])).toText =
            .error fault) ∧
      AreApart [⟨.path "c", " AND b "⟩, ⟨.path "d", ""⟩] ∧
      ofMarkers crowded [.path "c", .path "d"] =
        assembled "a ?" [⟨.path "c", " AND b "⟩, ⟨.path "d", ""⟩] := by
  have apart : AreApart [⟨.path "c", " AND b "⟩, ⟨.path "d", ""⟩] := by
    refine ⟨?_, ?_⟩ <;> simp
  refine ⟨by decide, ?_, ?_, apart, ?_⟩
  · have written := (taken_or_left crowded [.value (.integer 1)] "" []).1 (by decide) Unit .inline
      .ordinary
    rw [Node.toText, written]
    rfl
  · obtain ⟨fault, -, message, -, refused, -⟩ :=
      (taken_or_left crowded [.path "c", .path "d", .path "e"] "" []).2.1 (by decide)
    exact ⟨fault, message, refused⟩
  · exact (taken_or_left crowded [] "a ?" [⟨.path "c", " AND b "⟩, ⟨.path "d", ""⟩]).2.2 apart

end SqlTree.Snippet
