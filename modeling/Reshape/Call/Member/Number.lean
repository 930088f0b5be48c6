/-
Module: Reshape.Call.Member.Number
Purpose: the members of numbers.
Main exports: Member.ofNumber?, Member.toRadix
Trusted boundary: none
-/
import Reshape.Call.Error
import Reshape.Json.Coercion

namespace Reshape.Member

open Reshape.Json (index?)

/-- A digit of a radix up to 36: decimal digits, then small letters. -/
def radixDigit (n : Nat) : Char :=
  if n < 10 then Char.ofNat (48 + n) else Char.ofNat (87 + n)

/-- The digits of a natural number, the last one first; zero has one digit. Each step
divides by the radix, so as many steps as the number suffice. -/
def radixDigits (radix : Nat) (n : Nat) : List Char :=
  if _h : 2 ≤ radix ∧ radix ≤ n then
    radixDigit (n % radix) :: radixDigits radix (n / radix)
  else [radixDigit n]
termination_by n
decreasing_by exact Nat.div_lt_self (by omega) (by omega)

/-- An integer written in a radix from 2 to 36; any other radix means ten. -/
def toRadix (n : Int) (radix : Nat) : String :=
  if 2 ≤ radix ∧ radix ≤ 36 then
    let digits := (radixDigits radix n.natAbs).reverse
    String.ofList (if n < 0 then '-' :: digits else digits)
  else toString n

/-- The member of a number with a given name, applied to arguments. -/
def ofNumber? (n : Json.Number) (name : String) (args : List Json) : Option Json :=
  let x := n.toFloat
  match name with
  | "toFixed" =>
      let places := (clampInt 0 100 ((index? args[0]?).getD 0)).toNat
      some (.string (Decimal.fixed places x))
  | "toString" =>
      match index? args[0]? with
      | some radix =>
          if radix ≠ 10 && Double.isWhole x then
            some (.string (toRadix (Double.toInt64 x) (radix % (maxUInt32 + 1)).toNat))
          else some (.string (Json.numberText x))
      | none => some (.string (Json.numberText x))
  | _ => none

end Reshape.Member
