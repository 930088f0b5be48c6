/-
Module: Reshape.Decimal.Binary
Purpose: doubles as exact binary fractions, and their rounding to integers in
  exact arithmetic.
Main exports: Binary, Binary.ofFloat, Binary.toFloat, Double.toInt64,
  Double.floor, Double.ceiling, Double.truncate, Double.remainder
Trusted boundary: none
-/
import Reshape.Decimal.Range

/-!
# Doubles as binary fractions

A finite double is `± significand · 2 ^ exponent`. Everything that has to be
exact (digits of text, truncation, remainders) is computed on this form with
natural numbers, so that it can be reasoned about without floating arithmetic.
-/

namespace Reshape

/-- The value `significand · 2 ^ exponent`, negated when `negative` is set. -/
structure Binary where
  negative : Bool
  significand : Nat
  exponent : Int
  deriving DecidableEq, Repr

namespace Binary

/-- The sign bit of a double; set for `-0.0`. -/
def signBit (x : Float) : Bool :=
  x.toBits >>> 63 == 1

/-- The eleven exponent bits of a double. -/
def exponentBits (x : Float) : Nat :=
  ((x.toBits >>> 52) &&& 0x7ff).toNat

/-- The fifty-two fraction bits of a double. -/
def fractionBits (x : Float) : Nat :=
  (x.toBits &&& 0xfffffffffffff).toNat

/-- Neither an infinity nor NaN. -/
def isFinite (x : Float) : Bool :=
  exponentBits x != 0x7ff

/-- The fraction a finite double stands for. -/
def ofFloat (x : Float) : Binary :=
  if exponentBits x = 0 then
    ⟨signBit x, fractionBits x, -1074⟩
  else
    ⟨signBit x, Nat.pow 2 52 + fractionBits x, (exponentBits x : Int) - 1075⟩

/-- The double with this value, for a significand below `2 ^ 53` and an exponent
of at least `-1074`; such a value needs no rounding. -/
def toFloat (b : Binary) : Float :=
  let shift := min (52 - b.significand.log2) (b.exponent + 1074).toNat
  let significand := b.significand * Nat.pow 2 shift
  let magnitude :=
    if significand < Nat.pow 2 52 then significand
    else (b.exponent - shift + 1074).toNat * Nat.pow 2 52 + significand
  Float.ofBits (UInt64.ofNat (if b.negative then Nat.pow 2 63 + magnitude else magnitude))

/-- Numerator and denominator of the magnitude. -/
def ratio (b : Binary) : Nat × Nat :=
  if 0 ≤ b.exponent then (b.significand * Nat.pow 2 b.exponent.toNat, 1)
  else (b.significand, Nat.pow 2 (-b.exponent).toNat)

/-- The magnitude rounded toward zero. -/
def wholePart (b : Binary) : Nat :=
  b.ratio.1 / b.ratio.2

/-- No digits after the point. -/
def isWhole (b : Binary) : Bool :=
  b.ratio.1 % b.ratio.2 == 0

/-- Rounded toward zero. -/
def towardZero (b : Binary) : Int :=
  if b.negative then -(b.wholePart : Int) else b.wholePart

/-- The greatest integer that is not above the value. -/
def floor (b : Binary) : Int :=
  if b.negative && !b.isWhole then b.towardZero - 1 else b.towardZero

/-- The least integer that is not below the value. -/
def ceiling (b : Binary) : Int :=
  if !b.negative && !b.isWhole then b.towardZero + 1 else b.towardZero

end Binary

/-- The integers from `low` to `high`, both included, take the place of all others. -/
def clampInt (low high i : Int) : Int :=
  max low (min i high)

namespace Double

/-- A finite double without digits after the point. -/
def isWhole (x : Float) : Bool :=
  Binary.isFinite x && (Binary.ofFloat x).isWhole

/-- Truncation to a signed 64-bit integer: values out of range go to the nearer
end, and NaN to zero. -/
def toInt64 (x : Float) : Int :=
  if Binary.isFinite x then clampInt minInt64 maxInt64 (Binary.ofFloat x).towardZero
  else if x > 0 then maxInt64
  else if x < 0 then minInt64
  else 0

/-- Truncation to an unsigned 32-bit integer: values out of range go to the
nearer end, and NaN to zero. -/
def toUInt32 (x : Float) : Nat :=
  (clampInt 0 maxUInt32 (toInt64 x)).toNat

/-- Apply a rounding to the integers; a double that is whole already, an infinity
and NaN stay as they are. -/
def roundBy (rounding : Binary → Int) (x : Float) : Float :=
  if Binary.isFinite x && !(Binary.ofFloat x).isWhole then
    let i := rounding (Binary.ofFloat x)
    if 0 ≤ i then (UInt64.ofNat i.toNat).toFloat else -(UInt64.ofNat (-i).toNat).toFloat
  else x

def floor : Float → Float := roundBy Binary.floor

def ceiling : Float → Float := roundBy Binary.ceiling

def truncate : Float → Float := roundBy Binary.towardZero

/-- The remainder of division with the quotient rounded toward zero; it has the
sign of the dividend and is exact. -/
def remainder (x y : Float) : Float :=
  if !Binary.isFinite x || y.isNaN || y == 0 then 0.0 / 0.0
  else if !Binary.isFinite y then x
  else
    let a := Binary.ofFloat x
    let b := Binary.ofFloat y
    let low := min a.exponent b.exponent
    let dividend := a.significand * Nat.pow 2 (a.exponent - low).toNat
    let divisor := b.significand * Nat.pow 2 (b.exponent - low).toNat
    Binary.toFloat ⟨a.negative, dividend % divisor, low⟩

end Double

end Reshape
