/-
This file builds snippets: from SQL text as it is, from text whose question
marks stand for operands, and step by step.

A snippet is a text and then operands, each with the text after it. In a text with
markers, two question marks are one of the text, a single one takes the next
operand, and a marker without an operand stays a question mark. Operands that no
marker takes are recorded as misuse.
-/

import SqlTree.Tree.Basic

namespace SqlTree.Snippet

/-- The snippet without a text. -/
def empty : Snippet :=
  ⟨"", [], none⟩

/-- SQL text as it is. -/
def raw (text : String) : Snippet :=
  ⟨text, [], none⟩

/-- The keyword that stands for the default of a column. -/
def default : Snippet :=
  raw "DEFAULT"

/-! ### Steps -/

/-- Appends text after the last of at least one slot. -/
def extendLast (text : String) : List Slot → List Slot
  | [] => []
  | [⟨operand, after⟩] => [⟨operand, after ++ text⟩]
  | slot :: rest => slot :: extendLast text rest

/-- Appends text after the last operand, or to the head if there is none. -/
def pushText (snippet : Snippet) (text : String) : Snippet :=
  if snippet.slots.isEmpty then ⟨snippet.head ++ text, [], snippet.misuse⟩
  else ⟨snippet.head, extendLast text snippet.slots, snippet.misuse⟩

/-- Adds an operand at the end. -/
def pushOperand (snippet : Snippet) (operand : Operand) : Snippet :=
  ⟨snippet.head, snippet.slots ++ [⟨operand, ""⟩], snippet.misuse⟩

/-! ### Markers -/

/-- A text with markers: a question mark is a marker, two of them are one
question mark of the text. -/
def markers : List Char → List (Option Char)
  | [] => []
  | '?' :: '?' :: rest => some '?' :: markers rest
  | '?' :: rest => none :: markers rest
  | char :: rest => some char :: markers rest

/-- Puts operands in the places of markers: the text before the first one, the
slots, and the operands that are left. A marker without an operand is text. -/
def fill : List (Option Char) → List Operand → List Char × List Slot × List Operand
  | [], operands => ([], [], operands)
  | some char :: rest, operands =>
    let (head, slots, unused) := fill rest operands
    (char :: head, slots, unused)
  | none :: rest, operand :: operands =>
    let (head, slots, unused) := fill rest operands
    ([], ⟨operand, String.ofList head⟩ :: slots, unused)
  | none :: rest, [] =>
    let (head, slots, unused) := fill rest []
    ('?' :: head, slots, unused)

/-- The snippet of a text with markers. Operands that are left are recorded. -/
def ofMarkers (text : String) (operands : List Operand) : Snippet :=
  let (head, slots, unused) := fill (markers text.toList) operands
  { head := String.ofList head
    slots := slots
    misuse := if unused.isEmpty then none else some (.unusedArguments unused.length) }

end SqlTree.Snippet
