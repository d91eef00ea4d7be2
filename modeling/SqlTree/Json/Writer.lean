/-
This file writes JSON documents without white space. A string escapes only
what it must; a floating-point number has the fewest digits that read back,
with an exponent outside of five places to the right and sixteen to the left.
-/

import SqlTree.Json.Basic
import SqlTree.Text.Digits
import SqlTree.Text.Hex

namespace SqlTree.Json

/-- The characters that stand for one character of a string. -/
def escaped (char : Char) : List Char :=
  if char = '"' then ['\\', '"']
  else if char = '\\' then ['\\', '\\']
  else if char = '\n' then ['\\', 'n']
  else if char = '\r' then ['\\', 'r']
  else if char = '\t' then ['\\', 't']
  else if char.toNat = 8 then ['\\', 'b']
  else if char.toNat = 12 then ['\\', 'f']
  else if char.toNat < 32 then
    '\\' :: 'u' :: '0' :: '0' :: Hex.ofByte (UInt8.ofNat char.toNat)
  else [char]

/-- A text in double quotes. -/
def quoted (text : String) : List Char :=
  '"' :: text.toList.flatMap escaped ++ ['"']

/-- A finite number always has a point or an exponent. -/
def floatText (number : Number.Binary64) : List Char :=
  let decimal := number.shortest .toEven
  let positional := -5 ≤ decimal.magnitude ∧ decimal.magnitude ≤ 15
  number.sign ++
    (if positional then
      decimal.positional ++ (if 0 ≤ decimal.exponent then ['.', '0'] else [])
    else decimal.scientific)

/-- Items with commas between them. -/
def commaSeparated (items : List (List Char)) : List Char :=
  [','].intercalate items

mutual

/-- The document without white space. -/
def compact : Json → List Char
  | .null => "null".toList
  | .bool true => "true".toList
  | .bool false => "false".toList
  | .integer value => Digits.integer value
  | .float value => floatText value
  | .string value => quoted value
  | .array items => '[' :: commaSeparated (compactItems items) ++ [']']
  | .object members => '\x7b' :: commaSeparated (compactMembers members) ++ ['\x7d']

/-- The items, each without white space. -/
def compactItems : List Json → List (List Char)
  | [] => []
  | item :: rest => compact item :: compactItems rest

/-- The members, each with its key before it. -/
def compactMembers : List (String × Json) → List (List Char)
  | [] => []
  | (key, value) :: rest => (quoted key ++ ':' :: compact value) :: compactMembers rest

end

/-- The document without white space, as a string. -/
def toText (document : Json) : String :=
  String.ofList document.compact

end SqlTree.Json
