/-
Module: Reshape.Json.Coercion
Purpose: the readings of JSON values that the functions share: as a truth value,
  a number, a text, a list and an index.
Main exports: Json.isTruthy, Json.toNumber, Json.ofFloat, Json.display, Json.agrees,
  Json.compare?, Json.toItems, Json.flattenOnce, index?, sliceRange, builtLength
Trusted boundary: none
-/
import Reshape.Json.Equality
import Reshape.Decimal.Layout
import Reshape.Decimal.Reading
import Reshape.Text.Blank

/-!
# Coercions

Function arguments are read loosely: text and booleans have a numeric reading,
every value has a text, a single value is a list of one. A value without a
numeric reading reads as NaN.
-/

namespace Reshape.Json

/-- The largest integer up to which doubles hold every integer. -/
def maxSafeInteger : Nat := 9007199254740991

/-- Null, `false`, zero and the empty string are false, all else is true. -/
def isTruthy : Json → Bool
  | .null => false
  | .bool b => b
  | .number n => n.toFloat != 0 && !n.toFloat.isNaN
  | .string s => s != ""
  | .array _ | .object _ => true

/-- The number a text reads as: zero when it is blank, NaN when it is no number. -/
def numberOfText (s : String) : Float :=
  let trimmed := Text.trim s.toList
  if trimmed.isEmpty then 0 else (Decimal.readFloat? trimmed).getD (0.0 / 0.0)

/-- The numeric reading. An array of one item reads as that item. -/
def toNumber : Json → Float
  | .null => 0
  | .bool b => if b then 1 else 0
  | .number n => n.toFloat
  | .string s => numberOfText s
  | .array [] => 0
  | .array [single] => single.toNumber
  | .array _ => 0.0 / 0.0
  | .object _ => 0.0 / 0.0

/-- Whole and small enough to be held as an integer without loss. -/
def isSafeInteger (x : Float) : Bool :=
  Double.isWhole x && (Binary.ofFloat x).wholePart ≤ maxSafeInteger

/-- The JSON number for a double: an integer when it is a safe integer, null when
it is not finite. -/
def ofFloat (x : Float) : Json :=
  if isSafeInteger x then .ofInt (Binary.ofFloat x).towardZero
  else if Binary.isFinite x then .number (.double x)
  else .null

/-- The text of a double; safe integers are written without a point. -/
def numberText (x : Float) : String :=
  if x.isNaN then "NaN"
  else if !Binary.isFinite x then (if x > 0 then "Infinity" else "-Infinity")
  else if isSafeInteger x then Decimal.fixed 0 x
  else Layout.plain.write x

/-- The text of a number. Integers beyond the signed 64-bit range go through their
double. -/
def Number.text : Number → String
  | .integer value fits =>
      if value ≤ maxInt64 then toString value
      else numberText (Number.integer value fits).toFloat
  | .double x => numberText x

mutual

/-- The text of a value, as in joining and concatenation: items stand between
commas, with nothing for a null item. -/
def display : Json → String
  | .null => "null"
  | .bool b => if b then "true" else "false"
  | .number n => n.text
  | .string s => s
  | .array items => ",".intercalate (displayItems items)
  | .object _ => "[object Object]"

/-- The texts of the items of a list. -/
def displayItems : List Json → List String
  | [] => []
  | .null :: rest => "" :: displayItems rest
  | item :: rest => item.display :: displayItems rest

end

/-- The same value, except that numbers agree when their doubles do: `1` agrees
with `1.0`. -/
def agrees : Json → Json → Bool
  | .number a, .number b => a.toFloat == b.toFloat
  | a, b => a.same b

/-- Order of two doubles; NaN has none. -/
def compareFloat? (x y : Float) : Option Ordering :=
  if x < y then some .lt
  else if x == y then some .eq
  else if y < x then some .gt
  else none

/-- Two strings compare character by character, all else by numeric reading. -/
def compare? : Json → Json → Option Ordering
  | .string a, .string b => some (compareOfLessAndEq a b)
  | a, b => compareFloat? a.toNumber b.toNumber

/-- A list of the value: nothing for null, the items of an array, else the value
alone. -/
def toItems : Json → List Json
  | .null => []
  | .array items => items
  | other => [other]

/-- Replace every array in a list by its items. -/
def flattenOnce : List Json → List Json
  | [] => []
  | .array items :: rest => items ++ flattenOnce rest
  | other :: rest => other :: flattenOnce rest

/-- The integer reading of an argument that may be missing. -/
def index? (argument : Option Json) : Option Int :=
  argument.bind fun value =>
    let x := value.toNumber
    if x.isNaN then none else some (Double.toInt64 x)

/-- A position within `length`; a negative index counts from the end. -/
def relativeIndex (index : Int) (length : Nat) : Nat :=
  if index < 0 then ((length : Int) + index).toNat else min index.toNat length

/-- First position and end of the slice two arguments describe. A missing or null
end is the length; an end before the start gives an empty slice. -/
def sliceRange (start stop : Option Json) (length : Nat) : Nat × Nat :=
  let first := match index? start with
    | some i => relativeIndex i length
    | none => 0
  let last := match stop with
    | none | some .null => length
    | some value =>
        match index? (some value) with
        | some i => relativeIndex i length
        | none => length
  (first, max last first)

end Reshape.Json
