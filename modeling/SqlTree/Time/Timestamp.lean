/-
This file holds moments of universal time with their two texts, the one that
stands in a statement and the one that stands in JSON, and their distance in
microseconds from the year 2000.

Nanoseconds can run past one second. After the last second of a minute this is a
leap second, and the moment is written with second 60; a moment that is put
together from its parts may have them after any other second as well, and is
written with the second after it. The text in a statement is cut off after
milliseconds, the text in JSON has as many digits as it takes, and the distance is
cut off toward zero.
-/

import SqlTree.Text.Digits
import SqlTree.Time.Calendar

namespace SqlTree

/-- A moment: seconds since 1 January 1970 and nanoseconds, of which there can be
up to two seconds after any second. The year lies between -262143 and 262142. -/
structure Timestamp where
  seconds : Int
  nanoseconds : Nat
  seconds_inRange : -8334601228800 ≤ seconds ∧ seconds ≤ 8210266876799
  nanoseconds_inRange : nanoseconds < 2000000000
  deriving DecidableEq

namespace Timestamp

/-- The moment of the two counts, if they are those of a clock: nanoseconds from a
thousand million on belong to a leap second, which only the last second of a
minute has. -/
def ofUnix? (seconds : Int) (nanoseconds : Nat) : Option Timestamp :=
  if first : -8334601228800 ≤ seconds ∧ seconds ≤ 8210266876799 then
    if second : nanoseconds < 1000000000 then
      some ⟨seconds, nanoseconds, first, Nat.lt_trans second (by decide)⟩
    else if leap : nanoseconds < 2000000000 ∧ seconds.fmod 60 = 59 then
      some ⟨seconds, nanoseconds, first, leap.1⟩
    else none
  else none

/-- The day of the moment. -/
def date (moment : Timestamp) : Date :=
  .ofUnixDay (moment.seconds.fdiv 86400)

/-- The seconds since the day began. -/
def secondOfDay (moment : Timestamp) : Nat :=
  (moment.seconds.fmod 86400).toNat

/-- The nanoseconds within the second that is written. -/
def fraction (moment : Timestamp) : Nat :=
  moment.nanoseconds % 1000000000

/-! ### Text -/

/-- Years 0 to 9999 have four digits; others carry a sign and at least four. -/
def yearText (year : Int) : List Char :=
  if year < 0 then '-' :: Digits.padded 4 year.natAbs
  else if year ≤ 9999 then Digits.padded 4 year.natAbs
  else '+' :: Digits.natural year.natAbs

/-- The date with hyphens between its parts. -/
def dateText (moment : Timestamp) : List Char :=
  let date := moment.date
  yearText date.year ++ '-' :: Digits.padded 2 date.month ++ '-' :: Digits.padded 2 date.day

/-- Hours, minutes and seconds. A second more in the nanoseconds is added to the
seconds, which are then not carried over. -/
def clockText (moment : Timestamp) : List Char :=
  let second := moment.secondOfDay
  Digits.padded 2 (second / 3600) ++ ':' :: Digits.padded 2 (second / 60 % 60)
    ++ ':' :: Digits.padded 2 (second % 60 + moment.nanoseconds / 1000000000)

/-- The text in a statement: milliseconds, cut off, and a zero offset. -/
def plain (moment : Timestamp) : List Char :=
  moment.dateText ++ ' ' :: moment.clockText
    ++ '.' :: Digits.padded 3 (moment.fraction / 1000000) ++ "+00:00".toList

/-- The fewest groups of three digits that lose nothing; none for a whole second. -/
def fractionText (moment : Timestamp) : List Char :=
  let fraction := moment.fraction
  if fraction = 0 then []
  else if fraction % 1000000 = 0 then '.' :: Digits.padded 3 (fraction / 1000000)
  else if fraction % 1000 = 0 then '.' :: Digits.padded 6 (fraction / 1000)
  else '.' :: Digits.padded 9 fraction

/-- The text in JSON: a `T` between date and clock and a `Z` at the end. -/
def interchange (moment : Timestamp) : List Char :=
  moment.dateText ++ 'T' :: moment.clockText ++ moment.fractionText ++ ['Z']

/-! ### Microseconds -/

/-- The seconds from 1970 to 2000. -/
def millennium : Int := 946684800

/-- The microseconds since the start of the year 2000, cut off toward zero. -/
def microseconds (moment : Timestamp) : Int :=
  ((moment.seconds - millennium) * 1000000000 + moment.nanoseconds).tdiv 1000

end Timestamp

end SqlTree
