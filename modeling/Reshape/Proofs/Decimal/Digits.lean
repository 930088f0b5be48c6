/-
Module: Reshape.Proofs.Decimal.Digits
Purpose: the decimal digits of a natural number, and the number that they write.
Main exports: Decimal.ofDigits_toDigits, Decimal.isDigit_of_mem_toDigits,
  Decimal.head?_toDigits_ne_zero
Trusted boundary: none
-/
import Reshape.Decimal.Reading

/-!
# Digits of natural numbers

Printing a natural number gives its digits without a leading zero, and reading them gives
the number.
-/

namespace Reshape.Decimal

theorem digitValue?_of_isDigit {c : Char} (isDigit : c.isDigit = true) :
    digitValue? c = some (c.toNat - '0'.toNat) := by
  rw [digitValue?, if_pos isDigit]
  rfl

/-- Digits are read one after the other, from the front. -/
theorem ofDigits_eq_ofDigitChars {digits : List Char} (all : ∀ c ∈ digits, c.isDigit = true) :
    ofDigits digits = Nat.ofDigitChars 10 digits 0 := by
  have step : ∀ start : Nat,
      digits.foldl (fun acc c => 10 * acc + (digitValue? c).getD 0) start =
        Nat.ofDigitChars 10 digits start := by
    induction digits with
    | nil => intro start; rfl
    | cons c digits ih =>
        intro start
        rw [List.foldl_cons, digitValue?_of_isDigit (all c (by simp)), Option.getD_some]
        exact ih (fun other inside => all other (by simp [inside])) _
  exact step 0

theorem isDigit_of_mem_toDigits {n : Nat} {c : Char} (inside : c ∈ Nat.toDigits 10 n) :
    c.isDigit = true :=
  Nat.isDigit_of_mem_toDigits (by decide) (by decide) inside

/-- The digits of a number write the number. -/
theorem ofDigits_toDigits (n : Nat) : ofDigits (Nat.toDigits 10 n) = n := by
  rw [ofDigits_eq_ofDigitChars fun c inside => isDigit_of_mem_toDigits inside]
  exact Nat.ofDigitChars_toDigits (by decide) (by decide)

/-- Only zero is written with a zero in front. -/
theorem head?_toDigits_ne_zero {n : Nat} (positive : 0 < n) :
    (Nat.toDigits 10 n).head? ≠ some '0' := by
  induction n using Nat.strongRecOn with
  | ind n ih =>
      by_cases small : n < 10
      · have single : ∀ digit < 10, 0 < digit → [Nat.digitChar digit].head? ≠ some '0' := by decide
        rw [Nat.toDigits_of_lt_base small]
        exact single n small positive
      · have higher : 0 < n / 10 := Nat.div_pos (by omega) (by decide)
        have last : n % 10 < 10 := Nat.mod_lt n (by decide)
        have split := Nat.toDigits_append_toDigits (by decide) higher last
        rw [Nat.div_add_mod] at split
        have front := ih (n / 10) (Nat.div_lt_self positive (by decide)) higher
        rw [← split, List.head?_append]
        cases first : (Nat.toDigits 10 (n / 10)).head? with
        | none => exact absurd (List.head?_eq_none_iff.1 first) Nat.toDigits_ne_nil
        | some c => rwa [first] at front

end Reshape.Decimal
