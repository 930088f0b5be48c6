/-
Module: Reshape.Calendar.Day
Purpose: dates of the proleptic Gregorian calendar and their day numbers.
Main exports: Date, Date.dayNumber, Date.ofDayNumber, isYear
Trusted boundary: stands for the calendar that the program is given and that is no part of it
-/

/-!
# Days

Days are numbered from 1970-01-01, which has number 0. The count runs through years
that begin in March, so that the leap day is the last day of its year.
-/

namespace Reshape.Calendar

/-- A date; the fields are in range for a date of the calendar. -/
structure Date where
  year : Int
  month : Nat
  day : Nat
  deriving DecidableEq, Repr

/-- The years that the calendar holds. -/
def isYear (year : Int) : Bool :=
  -262143 ≤ year && year ≤ 262142

def isLeap (year : Int) : Bool :=
  year % 4 == 0 && (year % 100 != 0 || year % 400 == 0)

def daysInMonth (year : Int) (month : Nat) : Nat :=
  if month = 2 then (if isLeap year then 29 else 28)
  else if month = 4 ∨ month = 6 ∨ month = 9 ∨ month = 11 then 30
  else 31

/-- A date from its parts, when there is such a date. -/
def Date.ofParts? (year : Int) (month day : Nat) : Option Date :=
  if isYear year && 1 ≤ month && month ≤ 12 && 1 ≤ day && day ≤ daysInMonth year month then
    some ⟨year, month, day⟩
  else none

/-- The number of a day. -/
def Date.dayNumber (date : Date) : Int :=
  let year := if date.month ≤ 2 then date.year - 1 else date.year
  let month := if date.month ≤ 2 then date.month + 9 else date.month - 3
  let century := year.fdiv 400
  let yearOfCentury := year - century * 400
  let dayOfYear := (153 * month + 2) / 5 + date.day - 1
  century * 146097 + yearOfCentury * 365 + yearOfCentury / 4 - yearOfCentury / 100 +
    dayOfYear - 719468

/-- The date with a day number. -/
def Date.ofDayNumber (number : Int) : Date :=
  let shifted := number + 719468
  let century := shifted.fdiv 146097
  let dayOfCentury := (shifted - century * 146097).toNat
  let yearOfCentury :=
    (dayOfCentury - dayOfCentury / 1460 + dayOfCentury / 36524 - dayOfCentury / 146096) / 365
  let dayOfYear := dayOfCentury - (365 * yearOfCentury + yearOfCentury / 4 - yearOfCentury / 100)
  let month := (5 * dayOfYear + 2) / 153
  let day := dayOfYear - (153 * month + 2) / 5 + 1
  let civilMonth := if month < 10 then month + 3 else month - 9
  let year : Int := yearOfCentury + century * 400
  ⟨if civilMonth ≤ 2 then year + 1 else year, civilMonth, day⟩

end Reshape.Calendar
