/-
This file splits the text of a statement into tokens by the lexical rules of
the database. It reads one character after another, in a mode that says which
token is open. A text that ends inside quotes or inside a comment has no tokens.

What no statement needs is refused rather than read: dollar-quoted strings,
bit strings, and a backslash in a string without an `E` in front, which servers
read in two ways. A string that is continued on a new line counts as two.

The readers are used to say what a statement is to whoever receives it, and know
nothing of how it was written. A mode is what the next character continues or ends,
so what a text is read as can be followed one piece of it after another, and two
pieces are read apart wherever the second begins in the mode that the first leaves.
-/

import SqlTree.Text.Digits

namespace SqlTree

/-- A token of a statement. -/
inductive Token where
  /-- A name or a keyword without quotes, as it is written. -/
  | word (chars : List Char)
  /-- A name in double quotes, without them. -/
  | name (chars : List Char)
  /-- What a string stands for. -/
  | string (contents : List Char)
  | parameter (number : Nat)
  /-- A number without a sign, as it is written. -/
  | number (chars : List Char)
  | operator (chars : List Char)
  | mark (char : Char)
  deriving DecidableEq

namespace Reading

/-! ### Characters -/

/-- What separates tokens and belongs to none of them. -/
def isBlank (char : Char) : Bool :=
  [' ', '\t', '\n', '\x0b', '\x0c', '\r'].contains char

/-- What a word starts with: a letter, an underscore, or anything but ASCII. -/
def isWordStart (char : Char) : Bool :=
  ('a' ≤ char && char ≤ 'z') || ('A' ≤ char && char ≤ 'Z') || char = '_' || 128 ≤ char.toNat

/-- What a word goes on with. A dollar sign inside a word is part of it and does not
begin a parameter. -/
def isWordPart (char : Char) : Bool :=
  isWordStart char || char.isDigit || char = '$'

/-- What is a token of its own wherever it stands. A cast is two of them. -/
def isMark (char : Char) : Bool :=
  [',', ';', ':', '(', ')', '[', ']'].contains char

/-- What operators are made of. -/
def isOperator (char : Char) : Bool :=
  "~!@#^&|`?+-*/%<>=".toList.contains char

/-- The operators that keep a sign at their end. -/
def keepsSign (char : Char) : Bool :=
  "~!@#^&|`?%".toList.contains char

/-! ### Modes -/

/-- Which token is open, and what of it has been read. -/
inductive Mode where
  /-- Between tokens. -/
  | gap
  | word (chars : List Char)
  | name (chars : List Char)
  /-- After a quote in a quoted name, which ends the name or is the first of two. -/
  | nameQuote (chars : List Char)
  /-- In a string, with or without escapes. -/
  | string (escapes : Bool) (contents : List Char)
  | stringQuote (escapes : Bool) (contents : List Char)
  /-- After a backslash in a string. -/
  | escape (contents : List Char)
  | dollar
  | parameter (number : Nat)
  | number (digits : List Char)
  /-- In a number, after the point. -/
  | fraction (chars : List Char)
  /-- In a number, where the digits of the exponent are yet to come. -/
  | exponent (chars : List Char)
  | power (chars : List Char)
  | point
  | operator (chars : List Char)
  | lineComment
  /-- In a comment inside this many others, after a character. -/
  | blockComment (depth : Nat) (last : Char)
  deriving DecidableEq

/-- The tokens of a run of operator characters: signs at its end are operators of
their own, unless the run has a character that keeps them. -/
def operatorTokens (chars : List Char) : List Token :=
  if chars.any keepsSign then [.operator chars]
  else
    let signs := (chars.reverse.takeWhile fun char => char = '+' || char = '-').length
    let size := max 1 (chars.length - signs)
    .operator (chars.take size) :: (chars.drop size).map fun sign => .operator [sign]

/-- The tokens that are complete if nothing follows; none if more has to follow. -/
def Mode.finish : Mode → Option (List Token)
  | .gap => some []
  | .word chars => some [.word chars]
  | .nameQuote chars => some [.name chars]
  | .stringQuote _ contents => some [.string contents]
  | .parameter value => some [.parameter value]
  | .number chars | .fraction chars | .power chars => some [.number chars]
  | .point => some [.mark '.']
  | .operator chars => some (operatorTokens chars)
  | .name _ | .string _ _ | .escape _ | .dollar | .exponent _ | .lineComment
  | .blockComment _ _ => none

/-! ### Steps -/

/-- The first character of a token, or a blank. -/
def start (char : Char) : Option (Mode × List Token) :=
  if isBlank char then some (.gap, [])
  else if isWordStart char then some (.word [char], [])
  else if char.isDigit then some (.number [char], [])
  else if char = '"' then some (.name [], [])
  else if char = '\'' then some (.string false [], [])
  else if char = '$' then some (.dollar, [])
  else if char = '.' then some (.point, [])
  else if isMark char then some (.gap, [.mark char])
  else if isOperator char then some (.operator [char], [])
  else none

/-- Completes the open token and starts the next. -/
def stop (mode : Mode) (char : Char) : Option (Mode × List Token) := do
  let tokens ← mode.finish
  let (next, more) ← start char
  return (next, tokens ++ more)

/-- What a character stands for after a backslash. Numbers of characters are refused. -/
def escaped? (char : Char) : Option Char :=
  if char = 'b' then some '\x08'
  else if char = 'f' then some '\x0c'
  else if char = 'n' then some '\n'
  else if char = 'r' then some '\r'
  else if char = 't' then some '\t'
  else if char.isDigit || char = 'x' || char = 'u' || char = 'U' then none
  else some char

/-- A quote or an ampersand after a word may make another token of the word. -/
def afterWord (chars : List Char) (char : Char) : Option (Mode × List Token) :=
  if char = '\'' && (chars = ['e'] || chars = ['E']) then some (.string true [], [])
  else if char = '\'' && [['b'], ['B'], ['x'], ['X'], ['n'], ['N']].contains chars then none
  else if char = '&' && (chars = ['u'] || chars = ['U']) then none
  else stop (.word chars) char

/-- The letters that make an exponent of what follows a number. -/
def startsExponent (char : Char) : Bool :=
  char = 'e' || char = 'E'

/-- What may follow the digits of a number: an exponent, or what is no part of a word. -/
def afterNumber (chars : List Char) (char : Char) : Option (Mode × List Token) :=
  if startsExponent char then some (.exponent (chars ++ [char]), [])
  else if isWordPart char then none
  else stop (.number chars) char

/-- One more character of a run of operator characters, in which a comment may start. -/
def afterOperator (chars : List Char) (char : Char) : Option (Mode × List Token) :=
  if char = '-' && chars.getLast? = some '-' then
    some (.lineComment, if chars.length = 1 then [] else operatorTokens chars.dropLast)
  else if char = '*' && chars.getLast? = some '/' then
    some (.blockComment 0 ' ', if chars.length = 1 then [] else operatorTokens chars.dropLast)
  else some (.operator (chars ++ [char]), [])

/-- One more character: the mode after it and the tokens that it completes. -/
def Mode.next (mode : Mode) (char : Char) : Option (Mode × List Token) :=
  match mode with
  | .gap => start char
  | .word chars =>
    if isWordPart char then some (.word (chars ++ [char]), []) else afterWord chars char
  | .name chars =>
    some (if char = '"' then .nameQuote chars else .name (chars ++ [char]), [])
  | .nameQuote chars =>
    if char = '"' then some (.name (chars ++ [char]), []) else stop mode char
  | .string escapes contents =>
    if char = '\'' then some (.stringQuote escapes contents, [])
    else if char = '\\' then if escapes then some (.escape contents, []) else none
    else some (.string escapes (contents ++ [char]), [])
  | .stringQuote escapes contents =>
    if char = '\'' then some (.string escapes (contents ++ [char]), []) else stop mode char
  | .escape contents => (escaped? char).map fun meant => (.string true (contents ++ [meant]), [])
  | .dollar =>
    if char.isDigit then some (.parameter (char.toNat - '0'.toNat), []) else none
  | .parameter value =>
    if char.isDigit then some (.parameter (10 * value + (char.toNat - '0'.toNat)), [])
    else if isWordPart char then none
    else stop mode char
  | .number digits =>
    if char.isDigit then some (.number (digits ++ [char]), [])
    else if char = '.' then some (.fraction (digits ++ ['.']), [])
    else afterNumber digits char
  | .fraction chars =>
    if char.isDigit then some (.fraction (chars ++ [char]), [])
    else if char = '.' then none
    else afterNumber chars char
  | .exponent chars =>
    if char.isDigit then some (.power (chars ++ [char]), [])
    else if (char = '+' || char = '-') && chars.getLast?.any startsExponent then
      some (.exponent (chars ++ [char]), [])
    else none
  | .power chars =>
    if char.isDigit then some (.power (chars ++ [char]), [])
    else if isWordPart char || char = '.' then none
    else stop mode char
  | .point => if char.isDigit then some (.fraction ['.', char], []) else stop mode char
  | .operator chars => if isOperator char then afterOperator chars char else stop mode char
  | .lineComment => some (if char = '\n' then .gap else .lineComment, [])
  | .blockComment depth last =>
    if last = '*' && char = '/' then
      some (if depth = 0 then .gap else .blockComment (depth - 1) ' ', [])
    else if last = '/' && char = '*' then some (.blockComment (depth + 1) ' ', [])
    else some (.blockComment depth char, [])

/-! ### Texts -/

/-- The mode after some characters, and the tokens that they complete. -/
def scan (mode : Mode) : List Char → Option (Mode × List Token)
  | [] => some (mode, [])
  | char :: rest => do
    let (next, tokens) ← mode.next char
    let (last, more) ← scan next rest
    return (last, tokens ++ more)

/-- The tokens of some characters. -/
def tokens? (chars : List Char) : Option (List Token) := do
  let (last, tokens) ← scan .gap chars
  return tokens ++ (← last.finish)

/-! ### Parameters -/

/-- The numbers of the parameters among some tokens. -/
def parameterNumbers (tokens : List Token) : List Nat :=
  tokens.filterMap fun token => match token with
    | .parameter number => some number
    | _ => none

theorem parameterNumbers_append (tokens more : List Token) :
    parameterNumbers (tokens ++ more) = parameterNumbers tokens ++ parameterNumbers more :=
  List.filterMap_append

end Reading

end SqlTree
