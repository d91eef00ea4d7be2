/-
This file puts the tokens of a text together from the tokens of its parts. Two
parts do not run into each other if the first leaves no token open, or if the
second starts with a character that closes every token.

The reader looks one character ahead at most, so whether two parts run into each
other is decided at the seam between them. A text has four ways to behave there.
It reads: on its own it leaves no token incomplete. It opens: it ends between
tokens. It follows: it begins with a character that closes every token, or is
empty. It separates: it does both. What two of them give together is proved once
for each pair that occurs, and the reading of a long text is then a calculation
with these words.
-/

import SqlTree.Proofs.Reading.Token

namespace SqlTree.Reading

/-! ### Scanning -/

/-- The second text is read from where the first has left the reader. -/
theorem scan_append {mode middle last : Mode} {first second : List Char}
    {tokens more : List Token} (head : scan mode first = some (middle, tokens))
    (tail : scan middle second = some (last, more)) :
    scan mode (first ++ second) = some (last, tokens ++ more) := by
  induction first generalizing mode tokens with
  | nil =>
    cases head
    exact tail
  | cons char rest inductionHypothesis =>
    rw [scan] at head
    obtain ⟨⟨next, done⟩, stepped, others⟩ := Option.bind_eq_some_iff.mp head
    obtain ⟨⟨final, left⟩, scanned, whole⟩ := Option.bind_eq_some_iff.mp others
    cases whole
    rw [List.cons_append, scan, stepped]
    show ((scan next (rest ++ second)).bind fun result => some (result.1, done ++ result.2)) = _
    rw [inductionHypothesis scanned, List.append_assoc]
    rfl

theorem scan_cons {mode next last : Mode} {char : Char} {rest : List Char}
    {tokens more : List Token} (head : mode.next char = some (next, tokens))
    (tail : scan next rest = some (last, more)) :
    scan mode (char :: rest) = some (last, tokens ++ more) := by
  rw [scan, head]
  show ((scan next rest).bind fun result => some (result.1, tokens ++ result.2)) = _
  rw [tail]
  rfl

/-- Between tokens a character starts one. -/
theorem scan_gap_cons {next last : Mode} {char : Char} {rest : List Char}
    {tokens more : List Token} (head : start char = some (next, tokens))
    (tail : scan next rest = some (last, more)) :
    scan .gap (char :: rest) = some (last, tokens ++ more) :=
  scan_cons head tail

/-! ### Characters that start a token -/

theorem isDigit_eq_false_of_isWordStart {char : Char} (start : isWordStart char) :
    char.isDigit = false := by
  rw [← Bool.not_eq_true]
  intro digit
  have most : char.toNat ≤ 57 :=
    UInt32.le_iff_toNat_le.mp (of_decide_eq_true (Bool.and_eq_true_iff.mp digit).2)
  simp only [isWordStart, Bool.or_eq_true, Bool.and_eq_true, decide_eq_true_eq] at start
  have least : 58 ≤ char.toNat := by
    rcases start with ((⟨lower, -⟩ | ⟨upper, -⟩) | underscore) | foreign
    · exact Nat.le_trans (by decide) (UInt32.le_iff_toNat_le.mp lower)
    · exact Nat.le_trans (by decide) (UInt32.le_iff_toNat_le.mp upper)
    · rw [underscore]
      decide
    · omega
  omega

/-- A blank belongs to no word and to no number. -/
theorem isBlank_cases {char : Char} (blank : isBlank char) :
    isWordStart char = false ∧ char.isDigit = false := by
  have listed : char ∈ [' ', '\t', '\n', '\x0b', '\x0c', '\r'] := List.contains_iff_mem.mp blank
  simp only [List.mem_cons, List.not_mem_nil, or_false] at listed
  rcases listed with rfl | rfl | rfl | rfl | rfl | rfl <;> decide

/-- A letter starts a word. -/
theorem start_eq_word {char : Char} (start : isWordStart char) :
    Reading.start char = some (.word [char], []) := by
  have noBlank : isBlank char = false := by
    rw [← Bool.not_eq_true]
    intro blank
    rw [(isBlank_cases blank).1] at start
    cases start
  rw [Reading.start, noBlank, start]
  rfl

/-- A digit starts a number. -/
theorem start_eq_number {char : Char} (digit : char.isDigit) :
    Reading.start char = some (.number [char], []) := by
  have noBlank : isBlank char = false := by
    rw [← Bool.not_eq_true]
    intro blank
    rw [(isBlank_cases blank).2] at digit
    cases digit
  have noWord : isWordStart char = false := by
    rw [← Bool.not_eq_true]
    intro start
    rw [isDigit_eq_false_of_isWordStart start] at digit
    cases digit
  rw [Reading.start, noBlank, noWord, digit]
  rfl

/-! ### Words -/

/-- A word does not go on where no part of one comes first. -/
theorem takeWhile_isWordPart_eq_nil {chars : List Char}
    (stops : ∀ char, chars.head? = some char → ¬ isWordPart char) :
    chars.takeWhile isWordPart = [] := by
  rcases chars with _ | ⟨char, rest⟩
  · rfl
  · exact List.takeWhile_cons_of_neg (stops char rfl)

/-- Nothing is dropped before a character that is no part of a word. -/
theorem dropWhile_isWordPart_eq_self {chars : List Char}
    (stops : ∀ char, chars.head? = some char → ¬ isWordPart char) :
    chars.dropWhile isWordPart = chars := by
  rcases chars with _ | ⟨char, rest⟩
  · rfl
  · exact List.dropWhile_cons_of_neg (stops char rfl)

/-! ### Characters that close a token -/

/-- What closes every token but a quoted one, and starts a token of its own or none. -/
def isSeparator (char : Char) : Bool :=
  isBlank char || isMark char

/-- A separator is none of the characters that a token goes on with. -/
theorem separator_cases {char : Char} (separator : isSeparator char) :
    isWordPart char = false ∧ char.isDigit = false ∧ isOperator char = false ∧
      startsExponent char = false ∧ char ≠ '"' ∧ char ≠ '\'' ∧ char ≠ '&' ∧ char ≠ '.' := by
  simp only [isSeparator, isBlank, isMark, Bool.or_eq_true, List.contains_iff_mem, List.mem_cons,
    List.not_mem_nil, or_false, or_assoc] at separator
  rcases separator with rfl | rfl | rfl | rfl | rfl | rfl | rfl | rfl | rfl | rfl | rfl | rfl | rfl
    <;> decide

/-- A separator completes whatever is open and leaves no token open. -/
theorem Mode.next_separator {mode : Mode} {tokens : List Token} {char : Char}
    (settled : mode.finish = some tokens) (separator : isSeparator char) :
    mode.next char = stop mode char := by
  obtain ⟨noWord, noDigit, noOperator, noExponent, noQuote, noApostrophe, noAmpersand, noPoint⟩ :=
    separator_cases separator
  cases mode with
  | gap =>
    show start char = (start char).bind fun result => some (result.1, [] ++ result.2)
    cases start char <;> rfl
  | word chars =>
    simp only [Mode.next, afterWord, noWord, noApostrophe, noAmpersand, decide_false,
      Bool.false_and, Bool.false_eq_true, if_false]
  | nameQuote chars => simp only [Mode.next, noQuote, if_false]
  | stringQuote escapes contents => simp only [Mode.next, noApostrophe, if_false]
  | parameter value =>
    simp only [Mode.next, noDigit, noWord, Bool.false_eq_true, if_false]
  | number chars | fraction chars =>
    simp only [Mode.next, afterNumber, noDigit, noWord, noPoint, noExponent,
      Bool.false_eq_true, if_false, stop, Mode.finish]
  | power chars =>
    simp only [Mode.next, noDigit, noWord, noPoint, decide_false, Bool.or_false,
      Bool.false_eq_true, if_false]
  | point => simp only [Mode.next, noDigit, Bool.false_eq_true, if_false]
  | operator chars => simp only [Mode.next, noOperator, Bool.false_eq_true, if_false]
  | name _ | string _ _ | escape _ | dollar | exponent _ | lineComment | blockComment _ _ =>
    cases settled

/-- A character that closes a token is read as if it stood between tokens. -/
theorem stop_eq {mode next : Mode} {tokens more : List Token} {char : Char}
    (settled : mode.finish = some tokens) (started : start char = some (next, more)) :
    stop mode char = some (next, tokens ++ more) := by
  rw [stop, settled, started]
  rfl

/-- Characters after a separator are read as if nothing stood before them. -/
theorem scan_separator {mode last : Mode} {tokens more : List Token} {char : Char}
    {rest : List Char} (settled : mode.finish = some tokens) (separator : isSeparator char)
    (scanned : scan .gap (char :: rest) = some (last, more)) :
    scan mode (char :: rest) = some (last, tokens ++ more) := by
  rw [scan] at scanned
  obtain ⟨⟨next, done⟩, started, others⟩ := Option.bind_eq_some_iff.mp scanned
  obtain ⟨⟨final, left⟩, scannedRest, whole⟩ := Option.bind_eq_some_iff.mp others
  cases whole
  rw [← List.append_assoc]
  exact scan_cons ((Mode.next_separator settled separator).trans (stop_eq settled started))
    scannedRest

/-! ### Separates of a text -/

/-- The text is read from between tokens and leaves no token incomplete. -/
def Reads (chars : List Char) (tokens : List Token) : Prop :=
  tokens? chars = some tokens

/-- The text leaves no token open, so that any text may follow. -/
def Opens (chars : List Char) (tokens : List Token) : Prop :=
  scan .gap chars = some (.gap, tokens)

/-- The text may follow any text. -/
def Follows (chars : List Char) (tokens : List Token) : Prop :=
  Reads chars tokens ∧ ∀ char ∈ chars.head?, isSeparator char

/-- The text may stand between any two texts. -/
def Separates (chars : List Char) (tokens : List Token) : Prop :=
  Opens chars tokens ∧ ∃ char ∈ chars.head?, isSeparator char

variable {first second : List Char} {tokens more : List Token}

/-- A text is read if the reader comes to its end and the token that is open there
is complete. -/
theorem reads_iff : Reads first tokens ↔
    ∃ mode done rest, scan .gap first = some (mode, done) ∧ mode.finish = some rest ∧
      done ++ rest = tokens := by
  constructor
  · intro reads
    obtain ⟨⟨mode, done⟩, scanned, others⟩ := Option.bind_eq_some_iff.mp reads
    obtain ⟨rest, finished, whole⟩ := Option.bind_eq_some_iff.mp others
    exact ⟨mode, done, rest, scanned, finished, Option.some_inj.mp whole⟩
  · rintro ⟨mode, done, rest, scanned, finished, rfl⟩
    rw [Reads, tokens?, scanned]
    show (mode.finish.bind fun rest => some (done ++ rest)) = _
    rw [finished]
    rfl

theorem reads_nil : Reads [] [] := rfl

theorem opens_nil : Opens [] [] := rfl

theorem follows_nil : Follows [] [] :=
  ⟨reads_nil, fun _ member => nomatch member⟩

theorem Opens.reads (opens : Opens first tokens) : Reads first tokens :=
  reads_iff.mpr ⟨.gap, tokens, [], opens, rfl, List.append_nil tokens⟩

theorem Opens.append_opens (opens : Opens first tokens) (others : Opens second more) :
    Opens (first ++ second) (tokens ++ more) :=
  scan_append opens others

/-- Behind a text that leaves nothing open, any text is read as on its own. -/
theorem Opens.append_reads (opens : Opens first tokens) (others : Reads second more) :
    Reads (first ++ second) (tokens ++ more) := by
  obtain ⟨mode, done, rest, scanned, finished, rfl⟩ := reads_iff.mp others
  exact reads_iff.mpr ⟨mode, tokens ++ done, rest, scan_append opens scanned, finished,
    List.append_assoc tokens done rest⟩

/-- A separating text closes what is open and leaves nothing open itself. -/
theorem Reads.append_separates (reads : Reads first tokens) (others : Separates second more) :
    Opens (first ++ second) (tokens ++ more) := by
  obtain ⟨mode, done, rest, scanned, finished, rfl⟩ := reads_iff.mp reads
  obtain ⟨opens, char, head, separator⟩ := others
  cases second with
  | nil => cases head
  | cons next others =>
    cases head
    rw [List.append_assoc]
    exact scan_append scanned (scan_separator finished separator opens)

/-- A text that begins with a separator may follow any text that can be read. -/
theorem Reads.append_follows (reads : Reads first tokens) (others : Follows second more) :
    Reads (first ++ second) (tokens ++ more) := by
  obtain ⟨othersRead, separated⟩ := others
  obtain ⟨mode, done, rest, scanned, finished, rfl⟩ := reads_iff.mp reads
  obtain ⟨otherMode, otherDone, otherRest, otherScanned, otherFinished, rfl⟩ :=
    reads_iff.mp othersRead
  -- What follows starts with a separator, which ends the open token and is read as on its own.
  cases second with
  | nil =>
    cases otherScanned
    cases otherFinished
    rw [List.append_nil, List.append_nil, List.append_nil]
    exact reads
  | cons char others =>
    refine reads_iff.mpr ⟨otherMode, done ++ (rest ++ otherDone), otherRest,
      scan_append scanned (scan_separator finished (separated char rfl) otherScanned),
      otherFinished, ?_⟩
    simp only [List.append_assoc]

/-- What is empty follows as well, so the first character may be that of the
second text. -/
theorem Follows.append_follows (follows : Follows first tokens) (others : Follows second more) :
    Follows (first ++ second) (tokens ++ more) := by
  refine ⟨follows.1.append_follows others, fun char head => ?_⟩
  cases first with
  | nil => exact others.2 char head
  | cons next rest => exact follows.2 char head

theorem Follows.append_separates (follows : Follows first tokens)
    (others : Separates second more) : Separates (first ++ second) (tokens ++ more) := by
  refine ⟨follows.1.append_separates others, ?_⟩
  cases first with
  | nil => exact others.2
  | cons char rest => exact ⟨char, rfl, follows.2 char rfl⟩

/-- A text behind a separating one follows whatever the two follow together. -/
theorem Separates.append_reads (separates : Separates first tokens) (others : Reads second more) :
    Follows (first ++ second) (tokens ++ more) := by
  obtain ⟨opens, char, head, separator⟩ := separates
  refine ⟨opens.append_reads others, fun other otherHead => ?_⟩
  cases first with
  | nil => cases head
  | cons next rest =>
    cases head
    cases otherHead
    exact separator

theorem Separates.follows (separates : Separates first tokens) : Follows first tokens := by
  have whole := separates.append_reads reads_nil
  rwa [List.append_nil, List.append_nil] at whole

end SqlTree.Reading
