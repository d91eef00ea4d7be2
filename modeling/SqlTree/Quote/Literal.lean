/-
This file writes scalars as literals of a statement, and escapes a text so that
it matches itself in a pattern. A text stands in single quotes with the quotes
inside it doubled; one with a backslash doubles that as well and says so with
an `E` in front, so that it reads the same under every setting of the server.
-/

import SqlTree.Value

namespace SqlTree

namespace Quote

/-- The characters that stand for one character of a text literal. -/
def literalChar (char : Char) : List Char :=
  if char = '\'' ∨ char = '\\' then [char, char] else [char]

/-- A text as a literal. -/
def textChars (text : List Char) : List Char :=
  (if text.contains '\\' then ['E'] else []) ++ '\'' :: text.flatMap literalChar ++ ['\'']

/-- Characters that need no escape, in single quotes. -/
def enclosed (chars : List Char) : List Char :=
  '\'' :: chars ++ ['\'']

/-- A number with all its digits; infinities have their names in full. -/
def floatChars (number : Number.Binary64) : List Char :=
  if number.isInfinite then number.sign ++ "Infinity".toList else number.plain

mutual

/-- A scalar as a literal. -/
def literalChars : Value → List Char
  | .null => "NULL".toList
  | .bool value => enclosed (if value then ['t'] else ['f'])
  | .integer value => enclosed (Digits.integer value.toInt)
  | .float value => enclosed (floatChars value)
  | .text value => textChars value.toList
  | .bytes value => 'E' :: enclosed ('\\' :: '\\' :: 'x' :: Hex.ofBytes value)
  | .json value => textChars value.compact ++ "::jsonb".toList
  | .timestamp value => enclosed value.plain
  | .uuid value => enclosed value.text
  | .array items => "ARRAY[".toList ++ [',', ' '].intercalate (literalItems items) ++ [']']

/-- The literals of the items. -/
def literalItems : List Value → List (List Char)
  | [] => []
  | item :: rest => literalChars item :: literalItems rest

end

/-- The characters that stand for one character in a pattern. -/
def patternChar (char : Char) : List Char :=
  if char = '\\' ∨ char = '%' ∨ char = '_' then ['\\', char] else [char]

end Quote

/-- A text as a literal. -/
def quoteText (text : String) : String :=
  String.ofList (Quote.textChars text.toList)

/-- A scalar as a literal. -/
def quoteLiteral (value : Value) : String :=
  String.ofList (Quote.literalChars value)

theorem Quote.textChars_ne_nil (text : List Char) : textChars text ≠ [] := by
  rw [textChars, List.append_assoc]
  exact List.append_ne_nil_of_right_ne_nil _ (List.cons_ne_nil _ _)

theorem Quote.literalChars_ne_nil (value : Value) : literalChars value ≠ [] := by
  cases value with
  | text value => exact textChars_ne_nil _
  | json value => exact List.append_ne_nil_of_left_ne_nil (textChars_ne_nil _) _
  | null | array _ => exact List.cons_ne_nil _ _
  | bool _ | integer _ | float _ | bytes _ | timestamp _ | uuid _ => exact List.cons_ne_nil _ _

/-- Every scalar has a literal, and it is not empty. -/
theorem quoteLiteral_ne_empty (value : Value) : quoteLiteral value ≠ "" := by
  rw [quoteLiteral, Ne, String.ofList_eq_empty_iff]
  exact Quote.literalChars_ne_nil value

/-- A text whose wildcards and backslashes stand for themselves in a pattern. -/
def escapePattern (text : String) : String :=
  String.ofList (text.toList.flatMap Quote.patternChar)

end SqlTree
