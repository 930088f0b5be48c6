/-
Module: Reshape.Decimal.Layout
Purpose: the written form of decimals: positional or with an exponent, and with a
  fixed number of places.
Main exports: Layout, Layout.write, Layout.jsonText, Layout.yamlText, Layout.plain,
  Decimal.fixed
Trusted boundary: none
-/
import Reshape.Decimal.Shortest

/-!
# Written form of doubles

The digits of a double are chosen by `Decimal.shortest`; a `Layout` fixes
everything else. Three layouts are in use: JSON text, YAML text and the plain
form that the functions on strings work with.
-/

namespace Reshape

/-- The decimal digits of a natural number. -/
def Decimal.digitsOf (n : Nat) : List Char :=
  Nat.toDigits 10 n

/-- How a double is written. -/
structure Layout where
  /-- Which way a value between two shortest decimals goes. -/
  tie : Decimal.Tie
  /-- Positional notation is used whatever the exponent is. -/
  alwaysPositional : Bool
  /-- `.0` follows a whole number in positional notation. -/
  pointZero : Bool
  /-- A positive exponent has its sign written. -/
  plusSign : Bool
  deriving Repr

namespace Layout

/-- Doubles in JSON text: `1.0`, `0.00001`, `1e+16`, `1.5e-6`. -/
def jsonText : Layout := ⟨.toEven, false, true, true⟩

/-- Doubles in YAML text: `1.0`, `0.00001`, `1e16`, `1.5e-6`. -/
def yamlText : Layout := ⟨.toEven, false, true, false⟩

/-- Doubles as the functions on strings write them: `1`, `0.00000001`,
`10000000000000000000000`. -/
def plain : Layout := ⟨.up, true, false, false⟩

/-- Positional notation of `digits · 10 ^ exponent`. -/
def positional (layout : Layout) (digits : List Char) (exponent : Int) : List Char :=
  if 0 ≤ exponent then
    digits ++ List.replicate exponent.toNat '0' ++ (if layout.pointZero then ['.', '0'] else [])
  else
    let places := (-exponent).toNat
    if places < digits.length then
      digits.take (digits.length - places) ++ '.' :: digits.drop (digits.length - places)
    else
      '0' :: '.' :: List.replicate (places - digits.length) '0' ++ digits

/-- One digit before the point and a power of ten after the rest. -/
def withExponent (layout : Layout) (digits : List Char) (leading : Int) : List Char :=
  let fraction := match digits.drop 1 with
    | [] => []
    | rest => '.' :: rest
  let sign := if leading < 0 then ['-'] else if layout.plusSign then ['+'] else []
  digits.take 1 ++ fraction ++ 'e' :: sign ++ Decimal.digitsOf leading.natAbs

/-- The magnitude of a decimal. Its first digit stands for `10 ^ leading`, and from
`10 ^ -5` to `10 ^ 15` every layout is positional. -/
def writeDecimal (layout : Layout) (d : Decimal) : List Char :=
  let digits := Decimal.digitsOf d.digits
  let leading := d.exponent + digits.length - 1
  if layout.alwaysPositional || (-5 ≤ leading && leading ≤ 15) then
    layout.positional digits d.exponent
  else
    layout.withExponent digits leading

/-- A finite double. -/
def write (layout : Layout) (x : Float) : String :=
  let magnitude := layout.writeDecimal (Decimal.shortest layout.tie x)
  String.ofList (if Binary.signBit x then '-' :: magnitude else magnitude)

end Layout

namespace Decimal

/-- A quotient rounded to the nearest integer, halves to the even one. -/
def roundHalfEven (numerator denominator : Nat) : Nat :=
  let q := numerator / denominator
  let r := numerator % denominator
  if 2 * r < denominator then q
  else if denominator < 2 * r then q + 1
  else if q % 2 = 0 then q else q + 1

/-- A finite double with exactly `places` digits after the point, rounded from its
exact value. The sign of a negative double is kept even when all digits are 0. -/
def fixed (places : Nat) (x : Float) : String :=
  let b := Binary.ofFloat x
  let scaled := roundHalfEven (b.ratio.1 * Nat.pow 10 places) b.ratio.2
  let digits := digitsOf scaled
  let padded := List.replicate (places + 1 - digits.length) '0' ++ digits
  let whole := padded.take (padded.length - places)
  let magnitude :=
    if places = 0 then whole else whole ++ '.' :: padded.drop (padded.length - places)
  String.ofList (if b.negative then '-' :: magnitude else magnitude)

end Decimal

end Reshape
