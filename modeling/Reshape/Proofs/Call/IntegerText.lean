/-
Module: Reshape.Proofs.Call.IntegerText
Purpose: the texts that the functions on values make of integers.
Main exports: Json.numberText_doubleOfInt, Member.integer_texts
Trusted boundary: none
-/
import Reshape.Call.Namespace.Basic
import Reshape.Proofs.Call.Splitting
import Reshape.Proofs.Decimal.Digits
import Reshape.Proofs.Decimal.Shortest

/-!
# Integers as texts

Integers of 64 bits with a sign are displayed digit by digit. The greater ones, and all integers
whose member `toString` is asked, are written through their double, whose shortest text need not be
the digits of the integer.
-/

namespace Reshape

open Double (nearest Long Shortest)

/-! ### Digits -/

namespace Decimal

theorem toDigits_injective {m n : Nat} (same : Nat.toDigits 10 m = Nat.toDigits 10 n) : m = n := by
  rw [← ofDigits_toDigits m, same, ofDigits_toDigits]

theorem toDigits_mul_pow {n : Nat} (positive : 0 < n) (count : Nat) :
    Nat.toDigits 10 (n * 10 ^ count) = Nat.toDigits 10 n ++ List.replicate count '0' := by
  induction count with
  | zero => simp
  | succ count ih =>
      have filled : 0 < n * 10 ^ count := Nat.mul_pos positive (Nat.pow_pos (by decide))
      have last := Nat.toDigits_append_toDigits (by decide : 1 < 10) filled (by decide : 0 < 10)
      rw [Nat.add_zero] at last
      rw [Nat.pow_succ', Nat.mul_left_comm, List.replicate_succ', ← List.append_assoc, ← ih]
      exact last.symm

/-- A natural number with the sign of an integer. -/
def withSign (i : Int) (magnitude : Nat) : Int :=
  if i < 0 then -(magnitude : Int) else magnitude

theorem withSign_natAbs (i : Int) : withSign i i.natAbs = i := by
  rw [withSign]
  split <;> omega

theorem toString_withSign {i : Int} {magnitude : Nat} (positive : i < 0 → 0 < magnitude) :
    toString (withSign i magnitude) =
      String.ofList (if i < 0 then '-' :: Nat.toDigits 10 magnitude
        else Nat.toDigits 10 magnitude) := by
  rw [Int.toString_eq_repr, Int.repr_eq_if, withSign]
  split_ifs with negative less less
  · have := positive negative
    omega
  · have magnitude_eq : (- -(magnitude : Int)).toNat = magnitude := by omega
    rw [magnitude_eq, Nat.repr_eq_ofList_toDigits, ← String.toList_inj]
    simp
  · rw [Int.toNat_natCast, Nat.repr_eq_ofList_toDigits]
  · omega

end Decimal

/-! ### The text of a double -/

namespace Json

open Decimal (withSign toString_withSign)

variable {i : Int}

theorem isNaN_doubleOfInt (fits : i.natAbs < 2 ^ 64) : (Number.doubleOfInt i).isNaN = false := by
  change (Number.doubleOfInt i).toModel.unpack.isNaN = false
  by_cases zero : i = 0
  · rw [zero, Number.unpack_doubleOfInt_zero]
    rfl
  · obtain ⟨significand, exponent, h, unpacked, -⟩ := Number.unpack_doubleOfInt zero fits
    rw [unpacked]
    rfl

/-- A double of more than 53 bits as it is decoded. -/
theorem ofFloat_doubleOfInt_long (fits : i.natAbs < 2 ^ 64) (beyond : 2 ^ 53 ≤ nearest i.natAbs) :
    ∃ significand places, Long (nearest i.natAbs) significand places ∧ places < 12 ∧
      Binary.ofFloat (Number.doubleOfInt i) =
        ⟨decide (i < 0), significand, ((places + 1 : Nat) : Int)⟩ := by
  have nonzero : i ≠ 0 := by
    rintro rfl
    exact absurd beyond (by decide)
  obtain ⟨significand, exponent, h, unpacked, normal, -, most⟩ :=
    Number.unpack_doubleOfInt nonzero fits
  have value := normal.value
  have whole : 1 ≤ exponent := by
    by_contra low
    have none : exponent.toNat = 0 := by omega
    have scaled := Nat.le_mul_of_pos_right (nearest i.natAbs) (Nat.two_pow_pos (-exponent).toNat)
    rw [none, Nat.pow_zero, Nat.mul_one] at value
    have short := normal.full.2
    omega
  obtain ⟨places, rfl⟩ : ∃ places : Nat, exponent = ((places + 1 : Nat) : Int) :=
    ⟨(exponent - 1).toNat, by omega⟩
  have none : (-((places + 1 : Nat) : Int)).toNat = 0 := by omega
  rw [Int.toNat_natCast, none, Nat.pow_zero, Nat.mul_one] at value
  refine ⟨significand, places, ⟨normal.full, value.symm⟩, by omega, ?_⟩
  rw [(Binary.ofFloat_of_unpack unpacked).1, Number.signOf]
  split_ifs with negative <;> simp [negative, Binary.isNegative]

/-- Short doubles are written digit by digit. -/
theorem fixed_doubleOfInt (fits : i.natAbs < 2 ^ 64) :
    Decimal.fixed 0 (Number.doubleOfInt i) =
      String.ofList (if i < 0 then '-' :: Nat.toDigits 10 (nearest i.natAbs)
        else Nat.toDigits 10 (nearest i.natAbs)) := by
  obtain ⟨-, negative, value, unit⟩ := Number.ofFloat_doubleOfInt fits
  have some_digit := Nat.length_toDigits_pos (b := 10) (n := nearest i.natAbs)
  have full : 0 + 1 - (Nat.toDigits 10 (nearest i.natAbs)).length = 0 := by omega
  have power : Nat.pow 10 0 = 1 := rfl
  simp only [Decimal.fixed, Decimal.digitsOf]
  rw [power, Nat.mul_one, value, Decimal.roundHalfEven_mul_self _ unit, full, negative]
  simp

/-- The signs of a double. -/
theorem signBit_eq_negative (x : Float) : Binary.signBit x = (Binary.ofFloat x).negative := by
  rw [Binary.ofFloat]
  split <;> rfl

/-- Long doubles are written with zeros at their end. -/
theorem write_doubleOfInt (fits : i.natAbs < 2 ^ 64) (beyond : 2 ^ 53 ≤ nearest i.natAbs) :
    ∃ w, 0 < w ∧ Shortest i.natAbs w ∧
      Layout.plain.write (Number.doubleOfInt i) =
        String.ofList (if i < 0 then '-' :: Nat.toDigits 10 w else Nat.toDigits 10 w) := by
  obtain ⟨significand, places, long, short, decoded⟩ := ofFloat_doubleOfInt_long fits beyond
  obtain ⟨point, exponent, positive, shortest, found⟩ :=
    Decimal.search_long long short (decide (i < 0)) rfl
  have nonzero : significand ≠ 0 := by
    have := long.full
    omega
  refine ⟨point * 10 ^ exponent, Nat.mul_pos positive (Nat.pow_pos (by decide)), shortest, ?_⟩
  have digits : Decimal.shortest Layout.plain.tie (Number.doubleOfInt i) = ⟨point, exponent⟩ := by
    rw [Decimal.shortest, decoded]
    dsimp only
    rw [if_neg nonzero]
    exact found
  rw [Layout.write, digits, signBit_eq_negative, decoded, Decimal.toDigits_mul_pow positive]
  simp [Layout.writeDecimal, Layout.positional, Layout.plain, Decimal.digitsOf]

/-- The text of the double of an integer: the shortest of the numbers that have this double. -/
theorem numberText_doubleOfInt (fits : i.natAbs < 2 ^ 64) :
    ∃ w, Shortest i.natAbs w ∧
      numberText (Number.doubleOfInt i) = toString (withSign i w) := by
  have finite := (Number.ofFloat_doubleOfInt fits).1
  have safe : isSafeInteger (Number.doubleOfInt i) =
      decide (nearest i.natAbs ≤ maxSafeInteger) := by
    rw [isSafeInteger, Number.isWhole_doubleOfInt fits, Number.wholePart_doubleOfInt fits,
      Bool.true_and]
  have greatest : maxSafeInteger = 2 ^ 53 - 1 := rfl
  rw [numberText, isNaN_doubleOfInt fits, finite, safe]
  by_cases small : nearest i.natAbs < 2 ^ 53
  · have itself : nearest i.natAbs = i.natAbs := ((Double.nearest_eq_iff_of_lt small).1 rfl).symm
    have within : nearest i.natAbs ≤ maxSafeInteger := by omega
    refine ⟨i.natAbs, Double.shortest_of_lt (by omega), ?_⟩
    rw [toString_withSign (by omega), fixed_doubleOfInt fits, itself]
    simp [itself ▸ within]
  · have beyond : ¬ nearest i.natAbs ≤ maxSafeInteger := by omega
    obtain ⟨w, positive, shortest, written⟩ := write_doubleOfInt fits (Nat.le_of_not_lt small)
    refine ⟨w, shortest, ?_⟩
    rw [toString_withSign fun _ => positive, written]
    simp [beyond]

end Json

/-! ### The texts of an integer -/

namespace Json

open Decimal (withSign toString_withSign withSign_natAbs)

variable (i : Integer)

/-- Only integers beyond the signed range are displayed through their double. -/
theorem display_ofInteger :
    (ofInteger i).display =
      if i.1 ≤ maxInt64 then toString i.1 else numberText (Number.doubleOfInt i.1) := by
  rw [ofInteger, display, Number.text]
  rfl

/-- The integer is written exactly when its own digits are the shortest. -/
theorem toString_withSign_eq_iff {w : Nat} (shortest : Shortest i.1.natAbs w) :
    toString (withSign i.1 w) = toString i.1 ↔ Shortest i.1.natAbs i.1.natAbs := by
  have positive : i.1 < 0 → 0 < w := by
    intro negative
    have rounded := Double.nearest_bounds (n := i.1.natAbs) (by omega)
    have least := Nat.two_pow_pos i.1.natAbs.log2
    refine Nat.pos_of_ne_zero ?_
    rintro rfl
    have none : nearest 0 = 0 := rfl
    have same := shortest.same
    omega
  constructor
  · intro same
    conv_rhs at same => rw [← withSign_natAbs i.1]
    rw [toString_withSign positive, toString_withSign (by omega), String.ofList_inj] at same
    have digits : Nat.toDigits 10 w = Nat.toDigits 10 i.1.natAbs := by
      split_ifs at same
      · exact (List.cons.inj same).2
      · exact same
    rwa [Decimal.toDigits_injective digits] at shortest
  · intro exact_
    rw [shortest.unique exact_, withSign_natAbs]

end Json

namespace Member

open Json (Integer ofInteger numberText)
open Decimal (withSign)

/-! ### What the functions give -/

section Functions

variable (i : Integer)

theorem gives_toString_ofInteger :
    Gives (ofInteger i) "toString" [] (.string (numberText (Json.Number.doubleOfInt i.1))) := by
  have none : Json.index? none = none := rfl
  simp [Gives, ofInteger, find?, ofNumber?, none, Json.Number.toFloat]

/-- The text of a single item needs no separator. -/
theorem gives_join_ofInteger (args : List Json) :
    Gives (.array [ofInteger i]) "join" args (.string (ofInteger i).display) := by
  have single : Json.displayItems [ofInteger i] = [(ofInteger i).display] := rfl
  simp [Gives, find?, ofItems?, joinItems, single]

theorem gives_concat_ofInteger :
    Gives (.string "") "concat" [ofInteger i] (.string (ofInteger i).display) := by
  simp [Gives, find?, ofText?, ofChars]

/-- The namespace is called as it is, behind a null or behind `"new"`. -/
theorem find?_string_ofInteger (now : Calendar.Moment) {lead : List Json}
    (inside : lead ∈ [[], [.null], [.string "new"]]) :
    Namespace.find? now "String" (lead ++ [ofInteger i]) =
      some (.ok (.string (ofInteger i).display)) := by
  simp only [List.mem_cons, List.not_mem_nil, or_false] at inside
  rcases inside with rfl | rfl | rfl <;> rfl

end Functions

/-- An integer whose member `toString` gives other digits. -/
theorem not_toString_exact :
    ¬ ∀ i : Integer, Gives (ofInteger i) "toString" [] (.string (toString i.1)) := by
  intro exactly
  have given := (gives_toString_ofInteger ⟨2 ^ 53 + 1, by decide⟩).symm.trans
    (exactly ⟨2 ^ 53 + 1, by decide⟩)
  have written : numberText (Json.Number.doubleOfInt (2 ^ 53 + 1)) = "9007199254740992" := by
    decide +kernel
  simp only [written, Option.some.injEq, Except.ok.injEq, Json.string.injEq] at given
  exact absurd given (by decide +kernel)

/-- Whatever displays an integer gives one text: the digits of the integer up to the greatest one
with a sign, and beyond the shortest digits with the same double. The member `toString` always
gives the latter, so it gives the integer itself only when its digits are the shortest, as they are
below `2 ^ 53`. -/
theorem integer_texts (i : Integer) :
    ∃ w : Nat, Shortest i.1.natAbs w ∧
      let rounded := toString (withSign i.1 w)
      let text := if i.1 ≤ maxInt64 then toString i.1 else rounded
      ((ofInteger i).display = text ∧
        (∀ now, ∀ lead ∈ [[], [.null], [.string "new"]],
          Namespace.find? now "String" (lead ++ [ofInteger i]) = some (.ok (.string text))) ∧
        (∀ args, Gives (.array [ofInteger i]) "join" args (.string text)) ∧
        Gives (.string "") "concat" [ofInteger i] (.string text)) ∧
      Gives (ofInteger i) "toString" [] (.string rounded) ∧
      (rounded = toString i.1 ↔ Shortest i.1.natAbs i.1.natAbs) ∧
      (i.1.natAbs < 2 ^ 53 → rounded = toString i.1) := by
  obtain ⟨w, shortest, written⟩ := Json.numberText_doubleOfInt i.natAbs_lt
  have exactly := Json.toString_withSign_eq_iff i shortest
  have displayed := Json.display_ofInteger i
  have member := gives_toString_ofInteger i
  rw [written] at displayed member
  refine ⟨w, shortest, ⟨displayed, fun now lead inside => ?_, fun args => ?_, ?_⟩, member, exactly,
    fun small => exactly.2 (Double.shortest_of_lt small)⟩
  · rw [← displayed]
    exact find?_string_ofInteger i now inside
  · rw [← displayed]
    exact gives_join_ofInteger i args
  · rw [← displayed]
    exact gives_concat_ofInteger i

/-- A small integer has one text throughout. -/
theorem integer_texts_small :
    ∃ i : Integer, i.1.natAbs < 2 ^ 53 ∧ (ofInteger i).display = "-42" ∧
      Gives (ofInteger i) "toString" [] (.string "-42") := by
  have small : (-42 : Int).natAbs < 2 ^ 53 := by decide
  obtain ⟨w, -, ⟨displayed, -⟩, written, -, exactly⟩ := integer_texts ⟨-42, by decide⟩
  refine ⟨⟨-42, by decide⟩, small, displayed, ?_⟩
  rw [exactly small] at written
  exact written

end Member

end Reshape
