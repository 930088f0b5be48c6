/-
Module: Reshape.Decimal.Shortest
Purpose: the shortest decimal digits that read back as a given double.
Main exports: Decimal, Decimal.shortest
Trusted boundary: none
-/
import Reshape.Decimal.Binary

/-!
# Shortest digits

Of all decimals that read back as a double the ones with the fewest digits are
written, and of these the one nearest to the double. A decimal reads back when
it lies between the midpoints to the two neighbouring doubles; the midpoints
belong to the interval when the significand is even.

The search walks from coarse to fine decimal grids. If a point of a grid lies in
the interval, then so does one of the two grid points around the double itself,
so it is enough to test these two.
-/

namespace Reshape

/-- The decimal `digits · 10 ^ exponent`. -/
structure Decimal where
  digits : Nat
  exponent : Int
  deriving DecidableEq, Repr

namespace Decimal

/-- Where a value that is exactly halfway between two decimals goes. -/
inductive Tie where
  | toEven
  | up
  deriving DecidableEq, Repr

/-- Numerator and denominator of a value, with the half distances to its lower
and upper neighbour on the same denominator. -/
structure Interval where
  value : Nat
  below : Nat
  above : Nat
  unit : Nat
  closed : Bool

/-- The interval of a positive double. The lower neighbour is twice as near when
the significand is the least one of its exponent. -/
def Interval.ofBinary (b : Binary) : Interval :=
  let least := b.significand == Nat.pow 2 52 && b.exponent != -1074
  let scale := Nat.pow 2 (b.exponent - 2).toNat
  { value := 4 * b.significand * scale
    below := (if least then 1 else 2) * scale
    above := 2 * scale
    unit := Nat.pow 2 (2 - b.exponent).toNat
    closed := b.significand % 2 == 0 }

/-- The interval measured in units of `10 ^ exponent`. -/
def Interval.onGrid (i : Interval) (exponent : Int) : Interval :=
  let up := Nat.pow 10 (-exponent).toNat
  { i with
    value := i.value * up
    below := i.below * up
    above := i.above * up
    unit := i.unit * Nat.pow 10 exponent.toNat }

/-- Whether the grid point `point` lies in the interval. -/
def Interval.contains (i : Interval) (point : Nat) : Bool :=
  let p := point * i.unit
  if i.closed then i.value ≤ p + i.below && p ≤ i.value + i.above
  else i.value < p + i.below && p < i.value + i.above

/-- The grid point to write, if one of the two around the value is in the
interval: the nearer one when both are. -/
def Interval.pick? (tie : Tie) (i : Interval) : Option Nat :=
  let low := i.value / i.unit
  let rest := i.value % i.unit
  match i.contains low && low != 0, i.contains (low + 1) with
  | true, true =>
      if 2 * rest < i.unit then some low
      else if i.unit < 2 * rest then some (low + 1)
      else match tie with
        | .up => some (low + 1)
        | .toEven => some (if low % 2 == 0 then low else low + 1)
  | true, false => some low
  | false, true => some (low + 1)
  | false, false => none

/-- Try the grids `10 ^ exponent`, `10 ^ (exponent - 1)`, … -/
def search (tie : Tie) (i : Interval) (exponent : Int) : Nat → Decimal
  | 0 => ⟨0, 0⟩
  | steps + 1 =>
      match (i.onGrid exponent).pick? tie with
      | some digits => ⟨digits, exponent⟩
      | none => search tie i (exponent - 1) steps

/-- An exponent whose grid is too coarse for any point but zero to be near. -/
def coarsest (b : Binary) : Int :=
  ((b.significand.log2 : Int) + b.exponent) * 30103 / 100000 + 2

/-- The shortest decimal that reads back as the magnitude of a finite double; zero
is written with the digit 0. -/
def shortest (tie : Tie) (x : Float) : Decimal :=
  let b := Binary.ofFloat x
  if b.significand = 0 then ⟨0, 0⟩
  else search tie (Interval.ofBinary b) (coarsest b) 24

end Decimal

end Reshape
