/-
This file holds JSON documents. Integers and floating-point numbers are kept
apart, and the members of an object stand in the order of their keys, each key
once: a later member of the same key takes the place of an earlier one.

Documents are compared member by member, numbers of the two kinds never equal. Two
integers of one amount are the same document, whether they were read as signed or
not.
-/

import SqlTree.Number.Binary64

namespace SqlTree

/-- A JSON document. -/
inductive Json where
  | null
  | bool (value : Bool)
  | integer (value : Int)
  | float (value : Number.Binary64)
  | string (value : String)
  | array (items : List Json)
  | object (members : List (String × Json))
  deriving Inhabited

namespace Json

/-- Puts a member at the place of its key, over an earlier one of the same key. -/
def insertMember (key : String) (value : Json) :
    List (String × Json) → List (String × Json)
  | [] => [(key, value)]
  | (other, otherValue) :: rest =>
    if key < other then (key, value) :: (other, otherValue) :: rest
    else if key = other then (key, value) :: rest
    else (other, otherValue) :: insertMember key value rest

/-- The object with these members, the last of each key. -/
def ofMembers (members : List (String × Json)) : Json :=
  .object (members.foldl (fun sorted member => insertMember member.1 member.2 sorted) [])

/-- The number of a finite value; what is not finite has no JSON form but null. -/
def ofFloat (value : Number.Binary64) : Json :=
  if value.isFinite then .float value else .null

mutual

/-- Equality of documents, floating-point numbers by value. -/
def equal : Json → Json → Bool
  | .null, .null => true
  | .bool left, .bool right => left == right
  | .integer left, .integer right => left == right
  | .float left, .float right => left.equal right
  | .string left, .string right => left == right
  | .array left, .array right => equalItems left right
  | .object left, .object right => equalMembers left right
  | _, _ => false

/-- Whether two arrays have the same items in the same order. -/
def equalItems : List Json → List Json → Bool
  | [], [] => true
  | left :: leftRest, right :: rightRest => equal left right && equalItems leftRest rightRest
  | _, _ => false

/-- Whether two objects have the same members. -/
def equalMembers : List (String × Json) → List (String × Json) → Bool
  | [], [] => true
  | (leftKey, left) :: leftRest, (rightKey, right) :: rightRest =>
    leftKey == rightKey && equal left right && equalMembers leftRest rightRest
  | _, _ => false

end

end Json

end SqlTree
