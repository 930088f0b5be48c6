/-
Module: Reshape.Proofs.Call.Radix
Purpose: that an integer written in a radix is read back from its text.
Main exports: Member.readDigits_radixDigits, Member.toRadix_injective, Member.radix_text_read_back
Trusted boundary: none
-/
import Mathlib.Data.List.Basic
import Reshape.Call.Member.Number
import Reshape.Call.Namespace.Scalar
import Reshape.Proofs.Text.Classes

/-!
# Integers in a radix

The writer divides and the reader multiplies, so the digits of a magnitude read as this magnitude,
whatever follows them. Around the digits the reader takes blanks, a sign and the mark of hexadecimal
digits away; what is written has none of these but a minus.
-/

namespace Reshape.Member

open Namespace (radixDigit? readDigits dropHexMark parseInteger)

/-! ### Single digits -/

section Digits

variable {radix d n : Nat} {c : Char}

theorem radixDigit?_radixDigit (most : radix ≤ 36) (digit : d < radix) :
    radixDigit? radix (radixDigit d) = some d := by
  have greatest : ∀ d < 36, radixDigit? 36 (radixDigit d) = some d := by decide
  have known := greatest d (by omega)
  simp only [radixDigit?, Option.ite_none_right_eq_some, Option.some.injEq] at known ⊢
  rw [known.2]
  exact ⟨digit, rfl⟩

/-- What the reader takes away around digits is no digit. -/
theorem radixDigit_ne (digit : d < 36) :
    Text.isBlank (radixDigit d) = false ∧ radixDigit d ≠ '-' ∧ radixDigit d ≠ '+' := by
  have none : ∀ d < 36,
      Text.isBlank (radixDigit d) = false ∧ radixDigit d ≠ '-' ∧ radixDigit d ≠ '+' := by decide
  exact none d digit

theorem radixDigit_eq_zero_iff (digit : d < 36) : radixDigit d = '0' ↔ d = 0 := by
  have only : ∀ d < 36, radixDigit d = '0' ↔ d = 0 := by decide
  exact only d digit

/-! ### The digits of a magnitude -/

theorem radixDigits_of_le (least : 2 ≤ radix) (more : radix ≤ n) :
    radixDigits radix n = radixDigit (n % radix) :: radixDigits radix (n / radix) := by
  rw [radixDigits, dif_pos ⟨least, more⟩]

theorem radixDigits_of_lt (less : n < radix) : radixDigits radix n = [radixDigit n] := by
  rw [radixDigits, dif_neg (by omega)]

theorem radixDigits_ne_nil (radix n : Nat) : radixDigits radix n ≠ [] := by
  rw [radixDigits]
  split <;> simp

theorem exists_of_mem_radixDigits (least : 2 ≤ radix) (inside : c ∈ radixDigits radix n) :
    ∃ d < radix, c = radixDigit d := by
  induction n using Nat.strongRecOn with
  | ind n ih =>
      by_cases more : radix ≤ n
      · rw [radixDigits_of_le least more] at inside
        rcases List.mem_cons.1 inside with here | later
        · exact ⟨n % radix, Nat.mod_lt n (by omega), here⟩
        · exact ih (n / radix) (Nat.div_lt_self (by omega) least) later
      · rw [radixDigits_of_lt (by omega)] at inside
        exact ⟨n, by omega, List.mem_singleton.1 inside⟩

/-- Only zero is written with a zero in front; the first digit is the last one divided off. -/
theorem getLast?_radixDigits_eq_zero_iff (least : 2 ≤ radix) (most : radix ≤ 36) :
    (radixDigits radix n).getLast? = some '0' ↔ n = 0 := by
  induction n using Nat.strongRecOn with
  | ind n ih =>
      by_cases more : radix ≤ n
      · have higher : 0 < n / radix := Nat.div_pos more (by omega)
        have front := ih (n / radix) (Nat.div_lt_self (by omega) least)
        obtain ⟨first, rest, filled⟩ :=
          List.exists_cons_of_ne_nil (radixDigits_ne_nil radix (n / radix))
        rw [radixDigits_of_le least more, filled, List.getLast?_cons_cons, ← filled, front]
        omega
      · rw [radixDigits_of_lt (by omega), List.getLast?_singleton, Option.some.injEq,
          radixDigit_eq_zero_iff (by omega)]

/-- The digits of a magnitude are read as this magnitude, and reading goes on behind them. -/
theorem readDigits_radixDigits (least : 2 ≤ radix) (most : radix ≤ 36) (rest : List Char) :
    readDigits radix 0 0 ((radixDigits radix n).reverse ++ rest) =
      readDigits radix n (radixDigits radix n).length rest := by
  induction n using Nat.strongRecOn generalizing rest with
  | ind n ih =>
      by_cases more : radix ≤ n
      · have last : n % radix < radix := Nat.mod_lt n (by omega)
        have front := ih (n / radix) (Nat.div_lt_self (by omega) least)
          (radixDigit (n % radix) :: rest)
        rw [radixDigits_of_le least more, List.reverse_cons, List.append_assoc,
          List.singleton_append, front, readDigits, radixDigit?_radixDigit most last]
        dsimp only
        rw [Nat.div_add_mod, List.length_cons]
      · rw [radixDigits_of_lt (by omega), List.reverse_singleton, List.singleton_append, readDigits,
          radixDigit?_radixDigit most (by omega)]
        simp

end Digits

/-! ### Around the digits -/

section Text

variable {radix : Nat} {n m : Int}

/-- The digits of an integer in the order in which they are written. -/
def radixText (radix : Nat) (n : Int) : List Char :=
  (radixDigits radix n.natAbs).reverse

theorem toList_toRadix (n : Int) (least : 2 ≤ radix) (most : radix ≤ 36) :
    (toRadix n radix).toList =
      if n < 0 then '-' :: radixText radix n else radixText radix n := by
  rw [toRadix, if_pos ⟨least, most⟩, String.toList_ofList]
  rfl

theorem exists_of_mem_radixText (least : 2 ≤ radix) {c : Char} (inside : c ∈ radixText radix n) :
    ∃ d < radix, c = radixDigit d :=
  exists_of_mem_radixDigits least (List.mem_reverse.1 inside)

theorem radixText_ne_nil (radix : Nat) (n : Int) : radixText radix n ≠ [] :=
  List.reverse_ne_nil_iff.2 (radixDigits_ne_nil radix n.natAbs)

theorem isBlank_of_mem_toRadix (n : Int) (least : 2 ≤ radix) (most : radix ≤ 36) :
    ∀ c ∈ (toRadix n radix).toList, Text.isBlank c = false := by
  intro c inside
  have digits : ∀ c ∈ radixText radix n, Text.isBlank c = false := by
    intro c inside
    obtain ⟨d, digit, rfl⟩ := exists_of_mem_radixText least inside
    exact (radixDigit_ne (by omega)).1
  rw [toList_toRadix n least most] at inside
  split at inside
  · rcases List.mem_cons.1 inside with rfl | later
    · rfl
    · exact digits c later
  · exact digits c inside

theorem trimStart_toRadix (n : Int) (least : 2 ≤ radix) (most : radix ≤ 36) :
    Text.trimStart (toRadix n radix).toList = (toRadix n radix).toList :=
  @Text.dropWhile_run _ [] _ nofun fun c first =>
    isBlank_of_mem_toRadix n least most c (List.mem_of_mem_head? first)

theorem splitSign_toRadix (n : Int) (least : 2 ≤ radix) (most : radix ≤ 36) :
    Decimal.splitSign (toRadix n radix).toList = (decide (n < 0), radixText radix n) := by
  rw [toList_toRadix n least most]
  by_cases negative : n < 0
  · simp [negative, Decimal.splitSign]
  · obtain ⟨first, rest, filled⟩ := List.exists_cons_of_ne_nil (radixText_ne_nil radix n)
    have inside : first ∈ radixText radix n := by simp [filled]
    obtain ⟨d, digit, rfl⟩ := exists_of_mem_radixText least inside
    obtain ⟨-, noMinus, noPlus⟩ := radixDigit_ne (Nat.lt_of_lt_of_le digit most)
    rw [if_neg negative, filled, Decimal.splitSign.eq_def]
    simp [negative, noMinus, noPlus]

/-- The mark of hexadecimal digits has a letter that is no such digit. -/
theorem dropHexMark_radixText : dropHexMark (radixText 16 n) = radixText 16 n := by
  have apart : ∀ d < 16, 'x' ≠ radixDigit d ∧ 'X' ≠ radixDigit d := by decide
  unfold dropHexMark
  split
  · next rest marked =>
    have inside : 'x' ∈ radixText 16 n := by simp [marked]
    obtain ⟨d, digit, letter⟩ := exists_of_mem_radixText (by decide) inside
    exact absurd letter (apart d digit).1
  · next rest marked =>
    have inside : 'X' ∈ radixText 16 n := by simp [marked]
    obtain ⟨d, digit, letter⟩ := exists_of_mem_radixText (by decide) inside
    exact absurd letter (apart d digit).2
  · rfl

theorem readDigits_radixText (n : Int) (least : 2 ≤ radix) (most : radix ≤ 36) :
    readDigits radix 0 0 (radixText radix n) = (n.natAbs, (radixText radix n).length) := by
  rw [radixText, ← List.append_nil (radixDigits radix n.natAbs).reverse,
    readDigits_radixDigits least most, readDigits, List.append_nil, List.length_reverse]

/-- The reader finds the sign and the magnitude again, and refuses one beyond `maxInt64`. -/
theorem parseInteger_toRadix (n : Int) (least : 2 ≤ radix) (most : radix ≤ 36) :
    parseInteger (toRadix n radix) radix =
      if maxInt64 < n.natAbs then .null else .ofInt n := by
  have marked : (if radix = 16 then dropHexMark (radixText radix n) else radixText radix n) =
      radixText radix n := by
    split
    · next hexadecimal => rw [hexadecimal, dropHexMark_radixText]
    · rfl
  have filled : (radixText radix n).length ≠ 0 := mt List.length_eq_zero_iff.1 (radixText_ne_nil radix n)
  have signed : (if n < 0 then -(n.natAbs : Int) else n.natAbs) = n := by
    split <;> omega
  rw [parseInteger, trimStart_toRadix n least most, splitSign_toRadix n least most]
  dsimp only
  rw [marked, readDigits_radixText n least most]
  simp only [filled, false_or, decide_eq_true_eq, signed]

/-- Sign and digits tell integers apart, those beyond 64 bits too. -/
theorem toRadix_injective (least : 2 ≤ radix) (most : radix ≤ 36)
    (same : toRadix m radix = toRadix n radix) : m = n := by
  have signs := splitSign_toRadix m least most
  rw [same, splitSign_toRadix n least most, Prod.mk.injEq, decide_eq_decide] at signs
  obtain ⟨sign, digits⟩ := signs
  have magnitude := readDigits_radixText m least most
  rw [← digits, readDigits_radixText n least most, Prod.mk.injEq] at magnitude
  omega

theorem head?_radixText_eq_zero_iff (least : 2 ≤ radix) (most : radix ≤ 36) :
    (radixText radix n).head? = some '0' ↔ n = 0 := by
  rw [radixText, List.head?_reverse, getLast?_radixDigits_eq_zero_iff least most, Int.natAbs_eq_zero]

end Text

/-- Integers of 64 bits with a sign are read back from their text in a radix, all but the least one,
whose magnitude is beyond the greatest one. The text has the digits of the radix behind a minus if
the integer is negative, begins with a zero for zero alone, which is written as a single one, and is
the text of no other integer. -/
theorem radix_text_read_back {radix : Nat} (least : 2 ≤ radix) (most : radix ≤ 36) {n : Int}
    (low : minInt64 ≤ n) (high : n ≤ maxInt64) :
    (minInt64 < n → parseInteger (toRadix n radix) radix = .ofInt n) ∧
    (parseInteger (toRadix n radix) radix = .null ↔ n = minInt64) ∧
    (∃ digits, (toRadix n radix).toList = (if n < 0 then '-' :: digits else digits) ∧
      (∀ c ∈ digits, (radixDigit? radix c).isSome) ∧
      (digits.head? = some '0' ↔ n = 0) ∧ (n = 0 → digits = ['0'])) ∧
    ∀ m, toRadix m radix = toRadix n radix → m = n := by
  have extreme : maxInt64 < n.natAbs ↔ n = minInt64 := by
    rw [maxInt64, minInt64] at *
    omega
  have number : Json.ofInt n ≠ .null := by
    have fits : minInt64 ≤ n ∧ n ≤ maxUInt64 := by
      rw [maxInt64] at high
      exact ⟨low, Int.le_trans high (by decide)⟩
    rw [Json.ofInt, Json.Number.ofInt?, dif_pos fits]
    nofun
  have read := parseInteger_toRadix n least most
  refine ⟨fun more => ?readBack, ?refused, ⟨radixText radix n, toList_toRadix n least most, ?digits,
    head?_radixText_eq_zero_iff least most, ?zero⟩, fun m same => toRadix_injective least most same⟩
  case readBack => rw [read, if_neg (fun beyond => absurd (extreme.1 beyond) (by omega))]
  case refused =>
    rw [read, ← extreme]
    split <;> simp_all
  case digits =>
    intro c inside
    obtain ⟨d, digit, rfl⟩ := exists_of_mem_radixText least inside
    rw [radixDigit?_radixDigit most digit]
    rfl
  case zero =>
    rintro rfl
    rw [radixText, Int.natAbs_zero, radixDigits_of_lt (by omega)]
    rfl

/-- The least integer and the one above it, with all letters for digits. -/
theorem radix_text_read_back_least :
    (2 ≤ 36 ∧ minInt64 < minInt64 + 1 ∧ minInt64 + 1 ≤ maxInt64) ∧
      parseInteger (toRadix minInt64 36) 36 = .null ∧
      parseInteger (toRadix (minInt64 + 1) 36) 36 = .ofInt (minInt64 + 1) := by
  have range : 2 ≤ 36 ∧ minInt64 < minInt64 + 1 ∧ minInt64 + 1 ≤ maxInt64 := by decide
  obtain ⟨-, refused, -⟩ :=
    radix_text_read_back range.1 (by decide) (Int.le_refl minInt64) (by decide)
  obtain ⟨readBack, -⟩ :=
    radix_text_read_back range.1 (by decide) (Int.le_of_lt range.2.1) range.2.2
  exact ⟨range, refused.2 rfl, readBack range.2.1⟩

end Reshape.Member
