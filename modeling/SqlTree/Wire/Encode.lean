/-
This file writes values in the binary format of the server. Integers and
floating-point numbers check the declared type, arrays need an array type and
write each item for its member type, and every other value is written in its
own format whatever the declared type is.

The outcome is the bytes, none for null, or a fault. Sizes are those of the
format: eight bytes for moments, sixteen for identifiers, and four for every
length and count, so what is longer than four bytes can say is out of range.
-/

import SqlTree.Value
import SqlTree.Wire.Type
import SqlTree.Json.Writer

namespace SqlTree

/-- Why a value has no binary form for a type. -/
inductive WireFault where
  | wrongType (type : WireType)
  /-- An integer does not fit the type, or a length the bytes that it has. -/
  | outOfRange

/-- The text of a refusal for the type. What is out of range is reported by the
conversion that found it, and not in words of the value's own. -/
def WireFault.message? : WireFault → Option String
  | .wrongType type =>
    some ("cannot convert between the Rust type `pgqb::value::Value` and the Postgres type `"
      ++ type.name ++ "`")
  | .outOfRange => none

namespace Wire

/-! ### Numbers -/

/-- The last bytes of a number, most significant first. -/
def naturalBytes : Nat → Nat → List UInt8
  | 0, _ => []
  | width + 1, value => UInt8.ofNat (value / Nat.pow 256 width) :: naturalBytes width value

/-- A signed number in two's complement. -/
def signedBytes (width : Nat) (value : Int) : List UInt8 :=
  naturalBytes width (value % (Nat.pow 256 width : Nat)).toNat

/-- Whether a signed number of so many bytes can hold a value. -/
def fits (width : Nat) (value : Int) : Bool :=
  -(Nat.pow 2 (8 * width - 1) : Nat) ≤ value && value < (Nat.pow 2 (8 * width - 1) : Nat)

/-- The bytes of an integer type. -/
def integerWidth? (type : WireType) : Option Nat :=
  if type = .int2 then some 2
  else if type = .int4 then some 4
  else if type = .int8 then some 8
  else none

/-- The bytes of an integer for one of the three integer types. -/
def integer (value : Int) (type : WireType) : Except WireFault (List UInt8) :=
  match integerWidth? type with
  | none => .error (.wrongType type)
  | some width => if fits width value then .ok (signedBytes width value) else .error .outOfRange

/-- The bytes of a number for one of the two floating-point types. -/
def float (value : Number.Binary64) (type : WireType) : Except WireFault (List UInt8) :=
  if type = .float4 then .ok (naturalBytes 4 value.toSingle.toNat)
  else if type = .float8 then .ok (naturalBytes 8 value.bits.toNat)
  else .error (.wrongType type)

/-! ### Text -/

/-- The bytes of characters in UTF-8. -/
def utf8 (chars : List Char) : List UInt8 :=
  chars.flatMap String.utf8EncodeChar

/-- The types whose text has a version in front. They belong to an extension, so
they are known by their names and have no numbers of their own. -/
def hasTextVersion (type : WireType) : Bool :=
  type.name = "ltree" || type.name = "lquery" || type.name = "ltxtquery"

/-- The bytes with the version in front, if there is one. -/
def versioned (hasVersion : Bool) (bytes : List UInt8) : List UInt8 :=
  if hasVersion then 1 :: bytes else bytes

/-! ### Arrays -/

/-- Lengths have four bytes. -/
def checkLength (length : Nat) : Except WireFault Unit :=
  if fits 4 length then .ok () else .error .outOfRange

/-- An item with its length in front; null has the length minus one and no bytes. -/
def itemBytes : Option (List UInt8) → List UInt8
  | some bytes => signedBytes 4 bytes.length ++ bytes
  | none => signedBytes 4 (-1)

/-- An array of one dimension: whether it has nulls, the number of the member
type, the length and the lower bound, and then the items. -/
def arrayBytes (member : WireType) (lowerBound : Fin 2) (items : List (Option (List UInt8))) :
    List UInt8 :=
  signedBytes 4 1
    ++ signedBytes 4 (if items.any Option.isNone then 1 else 0)
    ++ naturalBytes 4 member.number.toNat
    ++ signedBytes 4 items.length
    ++ signedBytes 4 lowerBound.val
    ++ items.flatMap itemBytes

end Wire

open Wire

mutual

/-- The bytes of a value for a declared type; null has none. -/
def Value.encode (type : WireType) : Value → Except WireFault (Option (List UInt8))
  | .null => .ok none
  | .bool value => .ok (some [if value then 1 else 0])
  | .integer value => (Wire.integer value.toInt type).map some
  | .float value => (Wire.float value type).map some
  | .text value => .ok (some (versioned (hasTextVersion type) (utf8 value.toList)))
  | .bytes value => .ok (some value)
  | .json value => .ok (some (versioned (type = .jsonb) (utf8 value.compact)))
  | .timestamp value => .ok (some (signedBytes 8 value.microseconds))
  | .uuid value => .ok (some value.bytes)
  | .array items =>
    match type with
    | .array _ _ member lowerBound => do
      checkLength items.length
      let encoded ← Value.encodeItems member items
      return some (arrayBytes member lowerBound encoded)
    | .scalar _ _ => .error (.wrongType type)

/-- The bytes of every item; the first fault is that of the whole. -/
def Value.encodeItems (member : WireType) :
    List Value → Except WireFault (List (Option (List UInt8)))
  | [] => .ok []
  | item :: rest => do
    let first ← item.encode member
    checkLength (first.elim 0 List.length)
    let others ← Value.encodeItems member rest
    return first :: others

end

end SqlTree
