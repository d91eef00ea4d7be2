/-
This file turns a count of days since 1 January 1970 into a date of the
proleptic Gregorian calendar. Years are counted from March within eras of four
hundred years, so that the leap day is the last day of its year.
-/

namespace SqlTree

/-- A date of the proleptic Gregorian calendar; year 0 precedes year 1. -/
structure Date where
  year : Int
  month : Nat
  day : Nat
  deriving DecidableEq

namespace Date

/-- The days of an era of four hundred years. -/
def daysPerEra : Int := 146097

/-- The days from 1 March of year 0 to 1 January 1970. -/
def daysToUnixEpoch : Int := 719468

/-- The date of a day counted from 1 January 1970. -/
def ofUnixDay (day : Int) : Date :=
  let shifted := day + daysToUnixEpoch
  let era := shifted.fdiv daysPerEra
  let dayOfEra := (shifted.fmod daysPerEra).toNat
  let yearOfEra := (dayOfEra - dayOfEra / 1460 + dayOfEra / 36524 - dayOfEra / 146096) / 365
  let dayOfYear := dayOfEra - (365 * yearOfEra + yearOfEra / 4 - yearOfEra / 100)
  let monthFromMarch := (5 * dayOfYear + 2) / 153
  let month := if monthFromMarch < 10 then monthFromMarch + 3 else monthFromMarch - 9
  { year := yearOfEra + era * 400 + (if month ≤ 2 then 1 else 0)
    month := month
    day := dayOfYear - (153 * monthFromMarch + 2) / 5 + 1 }

end Date

end SqlTree
