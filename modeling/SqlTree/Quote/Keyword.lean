/-
This file lists the words that the database reserves, in ascending order, and
looks words up in the list by halving it.

A name that is one of these words is put in quotes, also where the database would
take it without, so the list does not depend on where the name stands. The words
are in lower case, since a name with a capital is in quotes anyway.
-/

namespace SqlTree.Quote

/-- The words that a name has to be quoted to be, in ascending order. -/
def reservedWords : Array String :=
  #[
    "all", "analyse", "analyze", "and", "any", "array", "as", "asc", "asymmetric", "authorization",
    "binary", "both", "case", "cast", "check", "collate", "collation", "column", "concurrently",
    "constraint", "create", "cross", "current_catalog", "current_date", "current_role",
    "current_schema", "current_time", "current_timestamp", "current_user", "default", "deferrable",
    "desc", "distinct", "do", "else", "end", "except", "false", "fetch", "for", "foreign", "freeze",
    "from", "full", "grant", "group", "having", "ilike", "in", "initially", "inner", "intersect",
    "into", "is", "isnull", "join", "lateral", "leading", "left", "like", "limit", "localtime",
    "localtimestamp", "natural", "not", "notnull", "null", "offset", "on", "only", "or", "order",
    "outer", "overlaps", "placing", "primary", "references", "returning", "right", "select",
    "session_user", "similar", "some", "symmetric", "table", "tablesample", "then", "to",
    "trailing", "true", "union", "unique", "user", "using", "variadic", "verbose", "when", "where",
    "window", "with"
  ]

/-- Looks for a word in the part of an ascending table from `low` up to `high`. -/
def searchSorted (table : Array String) (word : String) (low high : Nat) : Bool :=
  if low < high then
    let middle := (low + high) / 2
    match table[middle]? with
    | none => false
    | some found =>
      if found = word then true
      else if found < word then searchSorted table word (middle + 1) high
      else searchSorted table word low middle
  else false
termination_by high - low

/-- Whether the word is in the list. -/
def isReserved (word : String) : Bool :=
  searchSorted reservedWords word 0 reservedWords.size

end SqlTree.Quote
