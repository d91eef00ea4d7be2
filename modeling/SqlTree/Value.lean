/-
This file holds the scalars that a statement binds, their JSON form, their
equality, and those among them that cannot be used as a name.

Integers have eight bytes and a sign, floating-point numbers are held by their
bits, and an array holds any scalars, arrays and nulls among them. Null, bytes and
documents cannot be names, and a message about one of them shows it as it is
held.
-/

import SqlTree.Json.Description
import SqlTree.Time.Timestamp
import SqlTree.Uuid

namespace SqlTree

/-- A scalar of a statement, or an array of scalars bound as one. -/
inductive Value where
  | null
  | bool (value : Bool)
  | integer (value : Int64)
  | float (value : Number.Binary64)
  | text (value : String)
  | bytes (value : List UInt8)
  | json (value : Json)
  | timestamp (value : Timestamp)
  | uuid (value : Uuid)
  | array (items : List Value)

namespace Value

/-- Whether the scalar is null. -/
def isNull : Value → Bool
  | .null => true
  | _ => false

/-- The contents of a text. -/
def text? : Value → Option String
  | .text value => some value
  | _ => none

/-! ### Equality -/

mutual

/-- Equality of scalars, floating-point numbers by value. -/
def equal : Value → Value → Bool
  | .null, .null => true
  | .bool left, .bool right => left == right
  | .integer left, .integer right => left == right
  | .float left, .float right => left.equal right
  | .text left, .text right => left == right
  | .bytes left, .bytes right => left == right
  | .json left, .json right => left.equal right
  | .timestamp left, .timestamp right => left == right
  | .uuid left, .uuid right => left == right
  | .array left, .array right => equalItems left right
  | _, _ => false

/-- Whether two arrays have the same items in the same order. -/
def equalItems : List Value → List Value → Bool
  | [], [] => true
  | left :: leftRest, right :: rightRest => equal left right && equalItems leftRest rightRest
  | _, _ => false

end

/-! ### JSON -/

mutual

/-- The JSON form: bytes are an array of numbers, moments and identifiers are
strings, and a number that is not finite is null. -/
def toJson : Value → Json
  | .null => .null
  | .bool value => .bool value
  | .integer value => .integer value.toInt
  | .float value => .ofFloat value
  | .text value => .string value
  | .bytes value => .array (value.map fun byte => .integer byte.toNat)
  | .json value => value
  | .timestamp value => .string (String.ofList value.interchange)
  | .uuid value => .string (String.ofList value.text)
  | .array items => .array (jsonItems items)

/-- The documents of the items. -/
def jsonItems : List Value → List Json
  | [] => []
  | item :: rest => toJson item :: jsonItems rest

end

end Value

/-! ### What has no name -/

/-- A scalar that cannot be used as a name. -/
inductive Nameless where
  | null
  | bytes (value : List UInt8)
  | json (value : Json)

/-- How a message shows it. -/
def Nameless.description : Nameless → List Char
  | .null => "Null".toList
  | .bytes value =>
    "Bytes([".toList ++ Json.listed (value.map fun byte => Digits.natural byte.toNat) ++ "])".toList
  | .json value => "Json(".toList ++ value.description ++ [')']

end SqlTree
