/-
Module: Reshape.Yaml.Scalar
Purpose: what YAML scalars denote: null, booleans, numbers and strings.
Main exports: Yaml.plainLeaf, Yaml.isAmbiguous, Yaml.taggedLeaf
Trusted boundary: stands for the parser of YAML that the program is given and that is no part of it
-/
import Reshape.Decimal.Reading
import Reshape.Json.Reader
import Reshape.Stored.Basic

/-!
# Scalars

Plain text denotes null, a boolean or a number where it has the form of one, and itself
otherwise. Digits behind a leading zero are no number. Integers have at most 128 bits;
longer ones are doubles.
-/

namespace Reshape.Yaml

open Stored (Leaf)

def isNullWord (s : String) : Bool :=
  ["~", "null", "Null", "NULL"].contains s

/-- The boolean that a word denotes. -/
def boolOfWord? (s : String) : Option Bool :=
  if ["true", "True", "TRUE"].contains s then some true
  else if ["false", "False", "FALSE"].contains s then some false
  else none

/-! ## Integers -/

/-- The value of digits in a base up to sixteen, at least one of them. -/
def ofDigits? (base : Nat) (digits : List Char) : Option Nat :=
  if digits.isEmpty then none
  else
    digits.foldlM
      (fun acc c => (Json.hexValue? c).bind fun d => if d < base then some (base * acc + d) else none) 0

/-- Digits in base ten, or in another one behind its sign: `0x`, `0o` or `0b`. -/
def magnitude? : List Char → Option Nat
  | '0' :: 'x' :: digits => ofDigits? 16 digits
  | '0' :: 'o' :: digits => ofDigits? 8 digits
  | '0' :: 'b' :: digits => ofDigits? 2 digits
  | digits => ofDigits? 10 digits

/-- Several digits the first of which is a zero, behind an optional sign. -/
def isZeroPadded (text : List Char) : Bool :=
  match (Decimal.splitSign text).2 with
  | '0' :: d :: digits => (d :: digits).all Char.isDigit
  | _ => false

/-- The integer of at most 128 bits that a text writes. -/
def integer? (text : List Char) : Option Int :=
  if isZeroPadded text then none
  else
    let (negative, unsigned) := Decimal.splitSign text
    (magnitude? unsigned).bind fun n =>
      if negative then (if n ≤ Nat.pow 2 127 then some (-(n : Int)) else none)
      else if n < Nat.pow 2 128 then some (n : Int) else none

/-! ## Doubles -/

/-- The double that a text writes: infinite and not-a-number by their names, which start
with a point, or a finite one in decimal form. -/
def double? (text : List Char) : Option Float :=
  let (negative, unsigned) := Decimal.splitSign text
  let word := String.ofList unsigned
  if [".inf", ".Inf", ".INF"].contains word then some (if negative then -1.0 / 0.0 else 1.0 / 0.0)
  else if [".nan", ".NaN", ".NAN"].contains (String.ofList text) then some (0.0 / 0.0)
  else (Decimal.readFloat? text).bind fun x => if Binary.isFinite x then some x else none

/-! ## Leaves -/

/-- What plain text denotes. -/
def plainLeaf (s : String) : Leaf :=
  if s.isEmpty || isNullWord s then .null
  else
    match boolOfWord? s, integer? s.toList with
    | some b, _ => .bool b
    | none, some i => .integer i
    | none, none =>
        match double? s.toList with
        | some x => if isZeroPadded s.toList then .string s else .double x
        | none => .string s

/-- Whether plain text would not be read back as the string that it is, or looks like a
number. -/
def isAmbiguous (s : String) : Bool :=
  isZeroPadded s.toList ||
    match plainLeaf s with
    | .string _ => false
    | _ => true

/-- The address that the handle `!!` stands for. -/
def coreAddress : String := "tag:yaml.org,2002:"

/-- What text under a tag that is no local one denotes: the four tags of plain values ask
for their form, and all others for a string. -/
def taggedLeaf (tag text : String) : Option Leaf :=
  if tag = coreAddress ++ "null" then (if isNullWord text then some .null else none)
  else if tag = coreAddress ++ "bool" then (boolOfWord? text).map .bool
  else if tag = coreAddress ++ "int" then (integer? text.toList).map .integer
  else if tag = coreAddress ++ "float" then (double? text.toList).map .double
  else some (.string text)

end Reshape.Yaml
