/-
This file writes JSON documents for messages: each value under the name of its
kind, and strings with every character shown that a page would hide.

Such a message shows the document as it is held and not as it would be written, so
that a number can be told from a text and one kind of number from another.
Characters without a mark of their own are given by their code points.
-/

import SqlTree.Json.Writer
import SqlTree.Text.Unprintable

namespace SqlTree.Json

/-- A character of a described string; what leaves no mark shows its number. -/
def shown (char : Char) : List Char :=
  if char = '"' then ['\\', '"']
  else if char = '\\' then ['\\', '\\']
  else if char = '\n' then ['\\', 'n']
  else if char = '\r' then ['\\', 'r']
  else if char = '\t' then ['\\', 't']
  else if char.toNat = 0 then ['\\', '0']
  else if isUnprintable char then
    '\\' :: 'u' :: '\x7b' :: Nat.toDigits 16 char.toNat ++ ['\x7d']
  else [char]

/-- A text in double quotes. -/
def shownText (text : String) : List Char :=
  '"' :: text.toList.flatMap shown ++ ['"']

/-- Items with a comma and a space between them. -/
def listed (items : List (List Char)) : List Char :=
  [',', ' '].intercalate items

mutual

/-- The document with the kind of every value. -/
def description : Json → List Char
  | .null => "Null".toList
  | .bool value => "Bool(".toList ++ compact (.bool value) ++ [')']
  | .integer value => "Number(".toList ++ compact (.integer value) ++ [')']
  | .float value => "Number(".toList ++ compact (.float value) ++ [')']
  | .string value => "String(".toList ++ shownText value ++ [')']
  | .array items => "Array [".toList ++ listed (itemDescriptions items) ++ [']']
  | .object members => "Object \x7b".toList ++ listed (memberDescriptions members) ++ ['\x7d']

/-- The items, each as it is shown. -/
def itemDescriptions : List Json → List (List Char)
  | [] => []
  | item :: rest => description item :: itemDescriptions rest

/-- The members, each with its key before it. -/
def memberDescriptions : List (String × Json) → List (List Char)
  | [] => []
  | (key, value) :: rest =>
    (shownText key ++ ':' :: ' ' :: description value) :: memberDescriptions rest

end

end SqlTree.Json
