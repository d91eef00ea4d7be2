/-
This file writes names. A name stands bare if it is made of lower-case letters,
digits, underscores and dollar signs, does not start with a digit or a dollar
sign, and is not reserved; any other name stands in double quotes with the
quotes inside it doubled. A dotted path is a chain of such names.

In a path only the last name may be a star, which stands for every column, and may
be followed by a space and a text that is copied as it is. The word for the
proposed row stays bare where it is all that stands before the last name.
-/

import SqlTree.Quote.Keyword
import SqlTree.Text.Split

namespace SqlTree

namespace Quote

/-! ### Single names -/

/-- What a bare name starts with. -/
def isBareStart (char : Char) : Bool :=
  ('a' ≤ char && char ≤ 'z') || char = '_'

/-- What a bare name goes on with. -/
def isBarePart (char : Char) : Bool :=
  isBareStart char || ('0' ≤ char && char ≤ '9') || char = '$'

/-- Whether every character can stand in a name without quotes. -/
def isBare : List Char → Bool
  | [] => false
  | first :: rest => isBareStart first && rest.all isBarePart

/-- The text with every occurrence of a mark written twice. -/
def doubled (mark : Char) (chars : List Char) : List Char :=
  chars.flatMap fun char => if char = mark then [char, char] else [char]

/-- The name as it stands in a statement. -/
def nameChars (name : List Char) : List Char :=
  if isBare name && !isReserved (String.ofList name) then name
  else '"' :: doubled '"' name ++ ['"']

end Quote

open Quote

/-- A name, bare if it may be and in double quotes otherwise. -/
def quoteName (name : String) : String :=
  String.ofList (nameChars name.toList)

/-! ### Dotted paths -/

/-- A path in its parts: what stands before the last dot, the name after it up
to the first space, and the rest from that space on. -/
structure Path where
  qualifier : Option (List Char)
  name : List Char
  trailer : List Char

namespace Path

/-- The path that the characters are. -/
def ofChars (chars : List Char) : Path :=
  let (qualifier, last) := match splitLast? '.' chars with
    | some (before, after) => (some before, after)
    | none => (none, chars)
  { qualifier := qualifier
    name := last.takeWhile (· ≠ ' ')
    trailer := last.dropWhile (· ≠ ' ') }

/-- The row that an insertion proposed, under the name the database gives it. -/
def excluded : List Char :=
  "EXCLUDED".toList

/-- Every segment of the qualifier is a name of its own, but the proposed row
keeps its name. -/
def qualifierChars (qualifier : List Char) : List Char :=
  if qualifier = excluded then excluded
  else ['.'].intercalate ((splitAll '.' qualifier).map nameChars)

/-- A star alone stands for every column. -/
def lastChars (name : List Char) : List Char :=
  if name = ['*'] then name else nameChars name

/-- The text of a path: the trailer is copied as it is. -/
def chars (path : Path) : List Char :=
  (match path.qualifier with
    | some qualifier => qualifierChars qualifier ++ ['.']
    | none => [])
    ++ lastChars path.name ++ path.trailer

end Path

/-- A dotted path with its names quoted where they have to be. -/
def quotePath (path : String) : String :=
  String.ofList (Path.ofChars path.toList).chars

end SqlTree
