/-
This file holds the types that a server declares for parameters: scalars with
their numbers in the catalog, and arrays, which have a member type. An array is
named for its member with an underscore in front, save that `_record` is no
array; two vectors of the catalog have names of their own and are counted from
zero.

Types are compared as a whole, by name, by number and by kind; one of the same
name and another number is another type. Integers, floating-point numbers and
documents compare the declared type with those of the catalog. The types of
extensions have no numbers of their own, and are told by their names.
-/

namespace SqlTree

/-- A declared type. The number of an array counts only where the array is a
member itself, as the two vectors can be. -/
inductive WireType where
  | scalar (name : String) (number : UInt32)
  | array (name : String) (number : UInt32) (member : WireType) (lowerBound : Fin 2)
  deriving DecidableEq

namespace WireType

/-- The name of the type. -/
def name : WireType → String
  | .scalar name _ => name
  | .array name _ _ _ => name

/-- The number of the type in the catalog. -/
def number : WireType → UInt32
  | .scalar _ number => number
  | .array _ number _ _ => number

/-! ### Types that decide how a value is written -/

def int2 : WireType := .scalar "int2" 21

def int4 : WireType := .scalar "int4" 23

def int8 : WireType := .scalar "int8" 20

def float4 : WireType := .scalar "float4" 700

def float8 : WireType := .scalar "float8" 701

def jsonb : WireType := .scalar "jsonb" 3802

/-! ### Types by name -/

/-- The scalars of the catalog, which have the same numbers on every server. -/
def catalog : List (String × UInt32) :=
  [("bool", 16), ("bytea", 17), ("char", 18), ("name", 19), ("int8", 20), ("int2", 21),
    ("int4", 23), ("regproc", 24), ("text", 25), ("oid", 26), ("tid", 27), ("xid", 28),
    ("cid", 29), ("json", 114), ("xml", 142), ("point", 600), ("lseg", 601), ("path", 602),
    ("box", 603), ("polygon", 604), ("line", 628), ("cidr", 650), ("float4", 700),
    ("float8", 701), ("unknown", 705), ("circle", 718), ("macaddr8", 774), ("money", 790),
    ("macaddr", 829), ("inet", 869), ("aclitem", 1033), ("bpchar", 1042), ("varchar", 1043),
    ("date", 1082), ("time", 1083), ("timestamp", 1114), ("timestamptz", 1184), ("interval", 1186),
    ("timetz", 1266), ("bit", 1560), ("varbit", 1562), ("numeric", 1700), ("refcursor", 1790),
    ("regprocedure", 2202), ("regoper", 2203), ("regoperator", 2204), ("regclass", 2205),
    ("regtype", 2206), ("record", 2249), ("cstring", 2275), ("_record", 2287), ("uuid", 2950),
    ("txid_snapshot", 2970), ("pg_lsn", 3220), ("tsvector", 3614), ("tsquery", 3615),
    ("gtsvector", 3642), ("regconfig", 3734), ("regdictionary", 3769), ("jsonb", 3802),
    ("int4range", 3904), ("numrange", 3906), ("tsrange", 3908), ("tstzrange", 3910),
    ("daterange", 3912), ("int8range", 3926), ("jsonpath", 4072), ("regnamespace", 4089),
    ("regrole", 4096), ("regcollation", 4191), ("int4multirange", 4451),
    ("nummultirange", 4532), ("tsmultirange", 4533), ("tstzmultirange", 4534),
    ("datemultirange", 4535), ("int8multirange", 4536), ("pg_snapshot", 5038), ("xid8", 5069)]

/-- The scalars of extensions. A server numbers them when it installs them, so
these are the numbers of one server. -/
def installed : List (String × UInt32) :=
  [("ltree", 90001)]

/-- The scalar of a name among those that a server has; one that it lacks has the
number zero. -/
def ofScalarName (scalars : List (String × UInt32)) (name : String) : WireType :=
  .scalar name ((scalars.find? fun entry => entry.1 = name).elim 0 Prod.snd)

/-- A scalar, or one of the two vectors with names of their own. -/
def ofMemberName (scalars : List (String × UInt32)) (name : String) : WireType :=
  if name = "int2vector" then .array name 22 (ofScalarName scalars "int2") 0
  else if name = "oidvector" then .array name 30 (ofScalarName scalars "oid") 0
  else ofScalarName scalars name

/-- The type of a name on a server with some scalars. Many records together are a
pseudo type of the catalog and not an array, since the fields of a record are not
known beforehand. -/
def ofNameAmong (scalars : List (String × UInt32)) (name : String) : WireType :=
  if name = "_record" then ofScalarName scalars name else
  match name.toList with
  | '_' :: member => .array name 0 (ofMemberName scalars (String.ofList member)) 1
  | _ => ofMemberName scalars name

/-- The type of a name on the server that the extensions are installed on. -/
def ofName (name : String) : WireType :=
  ofNameAmong (catalog ++ installed) name

end WireType

end SqlTree
