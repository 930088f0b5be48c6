/-
Module: Reshape.Calendar.Moment
Purpose: moments in universal time: read from text, counted in milliseconds, and
  written.
Main exports: Moment, Moment.ofMilliseconds?, Moment.milliseconds, Moment.write,
  Moment.parse?, Moment.ofParts?
Trusted boundary: stands for the calendar that the program is given and that is no part of it; the
  clock itself is read outside
-/
import Reshape.Calendar.Day
import Reshape.Decimal.Binary
import Reshape.Text.Blank

/-!
# Moments

A moment is a number of whole seconds since the start of 1970 and a number of
milliseconds. A leap second is the second before it with a thousand milliseconds
more. Three forms of text are read: a date and time with an offset, a date and time
without one, and a date alone; the last two are taken as universal time.
-/

namespace Reshape.Calendar

/-- A moment in universal time. `millis` is below 1000, or below 2000 in a leap
second. -/
structure Moment where
  seconds : Int
  millis : Nat
  deriving DecidableEq, Repr

namespace Moment

/-- Milliseconds since the start of 1970. -/
def milliseconds (m : Moment) : Int :=
  m.seconds * 1000 + m.millis

/-- The first moment that the calendar holds, in milliseconds. -/
def earliest : Int := (Date.mk (-262143) 1 1).dayNumber * 86400000

/-- The first moment after those that the calendar holds, in milliseconds. -/
def afterLatest : Int := (Date.mk 262143 1 1).dayNumber * 86400000

/-- The moment at a number of milliseconds, when the calendar holds it. -/
def ofMilliseconds? (ms : Int) : Option Moment :=
  if earliest ≤ ms ∧ ms < afterLatest then
    some ⟨ms.fdiv 1000, (ms - ms.fdiv 1000 * 1000).toNat⟩
  else none

/-! ## Writing -/

/-- A number with at least the given count of digits. -/
def padded (width n : Nat) : String :=
  let digits := toString n
  "".pushn '0' (width - digits.length) ++ digits

/-- Four digits for the years from 0 to 9999, a sign and at least four digits for
others. -/
def writeYear (year : Int) : String :=
  if 0 ≤ year ∧ year ≤ 9999 then padded 4 year.toNat
  else (if year < 0 then "-" else "+") ++ padded 4 year.natAbs

/-- The form `2024-01-02T03:04:05.678Z`. -/
def write (m : Moment) : String :=
  let dayNumber := m.seconds.fdiv 86400
  let date := Date.ofDayNumber dayNumber
  let second := (m.seconds - dayNumber * 86400).toNat
  let leap := if 1000 ≤ m.millis then 1 else 0
  writeYear date.year ++ "-" ++ padded 2 date.month ++ "-" ++ padded 2 date.day ++ "T" ++
    padded 2 (second / 3600) ++ ":" ++ padded 2 (second / 60 % 60) ++ ":" ++
    padded 2 (second % 60 + leap) ++ "." ++ padded 3 (m.millis % 1000) ++ "Z"

/-! ## Reading -/

/-- A number of at least `least` and at most `most` digits. -/
def readNumber? (least most : Nat) (s : List Char) : Option (Nat × List Char) :=
  let digits := (s.take most).takeWhile Char.isDigit
  if digits.length < least then none
  else some (digits.foldl (fun acc c => 10 * acc + (c.toNat - 48)) 0, s.drop digits.length)

/-- A fixed character. -/
def readSign? (sign : Char) : List Char → Option (List Char)
  | c :: rest => if c = sign then some rest else none
  | [] => none

/-- A fraction of a second after its point, in milliseconds, rounded down; digits
beyond the ninth are passed over. -/
def readFraction? (s : List Char) : Option (Nat × List Char) :=
  match readNumber? 1 9 s with
  | some (n, rest) =>
      let nanos := n * Nat.pow 10 (9 - (s.length - rest.length))
      some (nanos / 1000000, rest.dropWhile Char.isDigit)
  | none => none

/-- The optional fraction after the seconds. -/
def readOptionalFraction? : List Char → Option (Nat × List Char)
  | '.' :: rest => readFraction? rest
  | rest => some (0, rest)

/-- A time of day, in seconds and milliseconds. Second 60 is the leap second. -/
def timeOfDay? (hour minute second millis : Nat) : Option (Nat × Nat) :=
  if hour ≤ 23 ∧ minute ≤ 59 ∧ second ≤ 60 then
    if second = 60 then some (hour * 3600 + minute * 60 + 59, millis + 1000)
    else some (hour * 3600 + minute * 60 + second, millis)
  else none

/-- The moment of a date and a time of day at an offset, in seconds. -/
def ofDateTime (date : Date) (time : Nat × Nat) (offset : Int) : Moment :=
  ⟨date.dayNumber * 86400 + time.1 - offset, time.2⟩

/-- The offset from universal time, in seconds: `Z` or hours and minutes. -/
def readOffset? : List Char → Option (Int × List Char)
  | [] => none
  | c :: rest =>
      if c = 'Z' ∨ c = 'z' then some (0, rest)
      else if c = '+' ∨ c = '-' ∨ c = '−' then do
        let (hours, rest) ← readNumber? 2 2 rest
        let rest ← readSign? ':' rest
        let (minutes, rest) ← readNumber? 2 2 rest
        if minutes ≤ 59 && hours ≤ 23 then
          let seconds : Int := hours * 3600 + minutes * 60
          some (if c = '+' then seconds else -seconds, rest)
        else none
      else none

/-- Date and time with an offset, every field at full width. -/
def parseWithOffset? (s : List Char) : Option Moment := do
  let (year, s) ← readNumber? 4 4 s
  let s ← readSign? '-' s
  let (month, s) ← readNumber? 2 2 s
  let s ← readSign? '-' s
  let (day, s) ← readNumber? 2 2 s
  let s ← match s with
    | c :: rest => if c = 'T' ∨ c = 't' ∨ c = ' ' then some rest else none
    | [] => none
  let (hour, s) ← readNumber? 2 2 s
  let s ← readSign? ':' s
  let (minute, s) ← readNumber? 2 2 s
  let s ← readSign? ':' s
  let (second, s) ← readNumber? 2 2 s
  let (millis, s) ← readOptionalFraction? s
  let (offset, s) ← readOffset? s
  let date ← Date.ofParts? year month day
  let time ← timeOfDay? hour minute second millis
  if s.isEmpty then some (ofDateTime date time offset) else none

/-- A year: at most four digits, or a sign and any number of digits. -/
def readYear? (s : List Char) : Option (Int × List Char) :=
  match Text.trimStart s with
  | '-' :: rest => (readNumber? 1 rest.length rest).map fun (n, rest) => (-(n : Int), rest)
  | '+' :: rest => (readNumber? 1 rest.length rest).map fun (n, rest) => ((n : Int), rest)
  | s => (readNumber? 1 4 s).map fun (n, rest) => ((n : Int), rest)

/-- A field of one or two digits, with blanks in front of it. -/
def readField? (s : List Char) : Option (Nat × List Char) :=
  readNumber? 1 2 (Text.trimStart s)

/-- A date whose fields need not have their full width. -/
def readDate? (s : List Char) : Option (Date × List Char) := do
  let (year, s) ← readYear? s
  let s ← readSign? '-' s
  let (month, s) ← readField? s
  let s ← readSign? '-' s
  let (day, s) ← readField? s
  let date ← Date.ofParts? year month day
  some (date, s)

/-- A time whose fields need not have their full width. -/
def readTime? (s : List Char) : Option ((Nat × Nat) × List Char) := do
  let (hour, s) ← readField? s
  let s ← readSign? ':' s
  let (minute, s) ← readField? s
  let s ← readSign? ':' s
  let (second, s) ← readField? s
  let (millis, s) ← readOptionalFraction? s
  let time ← timeOfDay? hour minute second millis
  some (time, s)

/-- Date and time without an offset. -/
def parseLocal? (s : List Char) : Option Moment := do
  let (date, s) ← readDate? s
  let s ← readSign? 'T' s
  let (time, s) ← readTime? s
  if s.isEmpty then some (ofDateTime date time 0) else none

/-- A date alone, which means its first moment. -/
def parseDate? (s : List Char) : Option Moment := do
  let (date, s) ← readDate? s
  if s.isEmpty then some (ofDateTime date (0, 0) 0) else none

/-- The moment that a text names. -/
def parse? (s : List Char) : Option Moment :=
  (parseWithOffset? s).orElse fun _ => (parseLocal? s).orElse fun _ => parseDate? s

/-! ## From components -/

/-- The moment at `year`, `month` months after its start, and a number of
milliseconds after that. -/
def ofParts? (year : Int) (month : Nat) (offset : Int) : Option Moment :=
  let first : Date := ⟨year + (month / 12 : Nat), month % 12 + 1, 1⟩
  if isYear year && isYear first.year then
    ofMilliseconds? (first.dayNumber * 86400000 + offset)
  else none

end Moment

end Reshape.Calendar
