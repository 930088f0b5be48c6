/-
Module: Reshape.Proofs.Call.IntegerArgument
Purpose: which integers arguments are read as.
Main exports: Json.index?_bounds, Json.index?_ofInteger, Json.ReadsAs, Json.readsAs_ofInt
Trusted boundary: none
-/
import Reshape.Proofs.Call.IntegerText

/-!
# Integer arguments

Positions, lengths and counts are read through a double and cut to 64 bits with a sign. So every
reading is in this range, and integers up to `2 ^ 53` read as themselves.
-/

namespace Reshape

theorem clampInt_bounds {low high : Int} (ordered : low ≤ high) (i : Int) :
    low ≤ clampInt low high i ∧ clampInt low high i ≤ high := by
  rw [clampInt]
  omega

theorem clampInt_of_within {low high i : Int} (least : low ≤ i) (most : i ≤ high) :
    clampInt low high i = i := by
  rw [clampInt]
  omega

/-! ### From doubles -/

namespace Double

theorem toInt64_bounds (x : Float) : minInt64 ≤ toInt64 x ∧ toInt64 x ≤ maxInt64 := by
  rw [toInt64]
  split
  · exact clampInt_bounds (by decide) _
  · split
    · decide
    · split <;> decide

theorem toInt64_doubleOfInt {i : Int} (fits : i.natAbs < 2 ^ 64) :
    toInt64 (Json.Number.doubleOfInt i) = clampInt minInt64 maxInt64 (nearestInt i) := by
  obtain ⟨finite, negative, -⟩ := Json.Number.ofFloat_doubleOfInt fits
  have whole := Json.Number.wholePart_doubleOfInt fits
  rw [toInt64, if_pos finite, Binary.towardZero, negative, whole, nearestInt]
  simp only [decide_eq_true_eq]

theorem nearestInt_of_le {i : Int} (small : i.natAbs ≤ 2 ^ 53) : nearestInt i = i := by
  have itself : nearest i.natAbs = i.natAbs := by
    rcases Nat.lt_or_eq_of_le small with less | most
    · exact nearest_of_lt less
    · rw [most]
      decide
  rw [nearestInt, itself]
  split <;> omega

end Double

/-! ### From arguments -/

namespace Json

variable {argument : Option Json} {i : Int}

/-- What an argument is read as has 64 bits and a sign. -/
theorem index?_bounds (read : index? argument = some i) : minInt64 ≤ i ∧ i ≤ maxInt64 := by
  obtain ⟨value, -, read⟩ := Option.bind_eq_some_iff.1 read
  dsimp only at read
  split at read
  · nomatch read
  · rw [← Option.some.inj read]
    exact Double.toInt64_bounds _

/-- So has zero, which stands for an argument without a reading. -/
theorem getD_index?_bounds (argument : Option Json) :
    minInt64 ≤ (index? argument).getD 0 ∧ (index? argument).getD 0 ≤ maxInt64 := by
  cases read : index? argument with
  | none => decide
  | some i => exact index?_bounds read

/-- An integer is read as the nearest one that a double holds. -/
theorem index?_ofInteger (i : Integer) :
    index? (some (ofInteger i)) = some (clampInt minInt64 maxInt64 (Double.nearestInt i.1)) := by
  have numeric := isNaN_doubleOfInt i.natAbs_lt
  have read := Double.toInt64_doubleOfInt i.natAbs_lt
  rw [index?, Option.bind_some, ofInteger, toNumber, Number.toFloat]
  dsimp only
  rw [numeric, read]
  rfl

/-- An argument that is there and is read as an integer. -/
def ReadsAs (argument : Json) (i : Int) : Prop :=
  argument ≠ .null ∧ index? (some argument) = some i

/-- An integer that a double holds is read as itself. -/
theorem readsAs_ofInt (small : i.natAbs ≤ 2 ^ 53) : ReadsAs (ofInt i) i := by
  have fits : minInt64 ≤ i ∧ i ≤ maxUInt64 := by
    rw [minInt64, maxUInt64]
    omega
  have number : ofInt i = ofInteger ⟨i, fits⟩ := by
    rw [ofInt, Number.ofInt?, dif_pos fits]
    rfl
  have within : minInt64 ≤ i ∧ i ≤ maxInt64 := by
    rw [minInt64, maxInt64]
    omega
  refine ⟨by rw [number]; nofun, ?_⟩
  rw [number, index?_ofInteger, Double.nearestInt_of_le small,
    clampInt_of_within within.1 within.2]

end Json

end Reshape
