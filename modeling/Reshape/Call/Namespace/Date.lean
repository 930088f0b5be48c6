/-
Module: Reshape.Call.Namespace.Date
Purpose: the namespace Date.
Main exports: Namespace.date?
Trusted boundary: the calendar, and the clock, taken to stand still while a program runs
-/
import Reshape.Calendar.Moment
import Reshape.Call.Error
import Reshape.Call.Namespace.Invocation
import Reshape.Json.Coercion

/-!
# Dates

A date is a text in universal time, or its milliseconds. Components are a year, a
month counted from 0, a day, hours, minutes, seconds and milliseconds; all but year
and month may lie out of their range and then carry over.
-/

namespace Reshape.Namespace

open Reshape.Calendar

/-- The components from the arguments; missing ones have the values of the start of
1970. -/
def dateFields (args : List Json) : List Float :=
  let given := (args.take 7).map Json.toNumber
  given ++ ([1970, 0, 1, 0, 0, 0, 0] : List Float).drop given.length

/-- The moment that components name; none when one of them is no number. -/
def momentOfFields (args : List Json) : Except CallError (Option Moment) :=
  match dateFields args with
  | [year, month, day, hour, minute, second, millis] =>
      if !(dateFields args).all Binary.isFinite then .ok none
      else
        let offset := (day - 1) * 86400000 + hour * 3600000 + minute * 60000 + second * 1000 + millis
        let found :=
          if Binary.isFinite offset then
            Moment.ofParts? (Double.toInt64 year) (Double.toUInt32 month) (Double.toInt64 offset)
          else none
        match found with
        | some moment => .ok (some moment)
        | none => .error .dateOutOfRange
  | _ => .ok none

/-- The moment that the arguments of a constructor name. -/
def momentOf (now : Moment) : List Json → Except CallError (Option Moment)
  | [] => .ok (some now)
  | [.number n] => .ok (Moment.ofMilliseconds? (Double.toInt64 n.toFloat))
  | [.string s] => .ok (Moment.parse? s.toList)
  | [_] => .ok none
  | parts => momentOfFields parts

def writtenOrNull : Option Moment → Json
  | some moment => .string moment.write
  | none => .null

def millisecondsOrNull : Option Moment → Json
  | some moment => .ofInt moment.milliseconds
  | none => .null

def date? (now : Moment) (use : Invocation) (args : List Json) : Option (Except CallError Json) :=
  match use with
  | .construct => some ((momentOf now args).map writtenOrNull)
  | .call => some (.ok (.string now.write))
  | .static "now" => some (.ok (.ofInt now.milliseconds))
  | .static "parse" =>
      some (.ok (millisecondsOrNull (Moment.parse? ((args[0]?.getD Json.null).display.toList))))
  | .static "UTC" => some ((momentOfFields args).map millisecondsOrNull)
  | .static _ => none

end Reshape.Namespace
