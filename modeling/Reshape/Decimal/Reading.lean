/-
Module: Reshape.Decimal.Reading
Purpose: doubles from decimal text, rounded once to the nearest double.
Main exports: Decimal.toFloat, Decimal.readFloat?, Decimal.digitValue?, Decimal.ofDigits
Trusted boundary: none
-/
import Reshape.Decimal.Shortest

/-!
# Reading doubles

`readFloat?` accepts an optional sign followed by `inf`, `infinity` or `nan` in
any case, or by digits with an optional point and an optional exponent; at least
one digit stands before or after the point. The result is the double nearest to
the decimal that is written.
-/

namespace Reshape.Decimal

/-- The value of an ASCII decimal digit. -/
def digitValue? (c : Char) : Option Nat :=
  if c.isDigit then some (c.toNat - 48) else none

/-- The natural number that decimal digits write; other characters count as 0. -/
def ofDigits (digits : List Char) : Nat :=
  digits.foldl (fun acc c => 10 * acc + (digitValue? c).getD 0) 0

/-- The double nearest to a decimal. Decimals whose first digit stands beyond the
range of doubles are settled without computing the power of ten. -/
def toFloat (d : Decimal) : Float :=
  if d.digits = 0 then 0
  else
    let leading := d.exponent + (Nat.log2 d.digits) * 30103 / 100000
    if 400 < leading then 1.0 / 0.0
    else if leading < -400 then 0
    else if 0 ≤ d.exponent then Float.ofScientific d.digits false d.exponent.toNat
    else Float.ofScientific d.digits true (-d.exponent).toNat

/-- A sign, if there is one, and the rest. -/
def splitSign : List Char → Bool × List Char
  | '-' :: rest => (true, rest)
  | '+' :: rest => (false, rest)
  | rest => (false, rest)

/-- The exponent part `e5`, `E-3`, … of a number, or nothing at all. -/
def readExponent? : List Char → Option Int
  | [] => some 0
  | c :: rest =>
      if c = 'e' ∨ c = 'E' then
        let (negative, digits) := splitSign rest
        if digits.isEmpty || !digits.all Char.isDigit then none
        else some (if negative then -(ofDigits digits : Int) else ofDigits digits)
      else none

/-- A number without sign: digits, a point, digits, an exponent. -/
def readUnsigned? (text : List Char) : Option Decimal :=
  let whole := text.takeWhile Char.isDigit
  let rest := text.dropWhile Char.isDigit
  let fraction := match rest with
    | '.' :: more => more.takeWhile Char.isDigit
    | _ => []
  let tail := match rest with
    | '.' :: more => more.dropWhile Char.isDigit
    | _ => rest
  if whole.isEmpty && fraction.isEmpty then none
  else (readExponent? tail).map fun e =>
    ⟨ofDigits (whole ++ fraction), e - fraction.length⟩

/-- A double from the whole of a text. -/
def readFloat? (text : List Char) : Option Float :=
  let (negative, rest) := splitSign text
  let word := rest.map Char.toLower
  let magnitude? :=
    if word = "inf".toList ∨ word = "infinity".toList then some (1.0 / 0.0)
    else if word = "nan".toList then some (0.0 / 0.0)
    else (readUnsigned? rest).map toFloat
  magnitude?.map fun m => if negative then -m else m

end Reshape.Decimal
