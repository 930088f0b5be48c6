/-
Module: Reshape.Proofs.Decimal.Nearest
Purpose: the double of an integer, told by rounding to 53 significant bits.
Main exports: Double.nearest, Double.nearestInt, Json.Number.unpack_doubleOfInt,
  Json.Number.beq_doubleOfInt, Json.Number.ofFloat_doubleOfInt, Json.Integer
Trusted boundary: none
-/
import Reshape.Decimal.Layout
import Reshape.Json.Basic
import Reshape.Proofs.Decimal.Encoding

/-!
# Integers as doubles

A double holds 53 significant bits. An integer with more of them becomes the nearest integer that
has no more, and `nearest` says which in natural numbers. What follows ties it to the arithmetic of
doubles: the doubles of two integers are equal as the nearest integers are, and such a double is
decoded to the nearest integer.
-/

namespace Reshape

open Float.Model (Format UnpackedFloat)
open Float.Model.UnpackedFloat (Sign ExtendedMantissa)

/-! ### Rounding a quotient -/

namespace Decimal

variable {a d q : Nat}

/-- Rounding gives the integer whose multiple is nearest; halfway between two the even one. -/
theorem roundHalfEven_eq_iff (positive : 0 < d) :
    roundHalfEven a d = q ↔
      2 * (q * d) ≤ 2 * a + d ∧ 2 * a ≤ 2 * (q * d) + d ∧
        (q % 2 = 1 → 2 * (q * d) ≠ 2 * a + d ∧ 2 * a ≠ 2 * (q * d) + d) := by
  have division : a = a / d * d + a % d := (Nat.div_add_mod' a d).symm
  have small : a % d < d := Nat.mod_lt a positive
  rw [roundHalfEven]
  generalize a / d = floor at *
  generalize a % d = rest at *
  -- the multiples of `d` are compared, so that what is left is linear
  have below : q < floor → q * d + d ≤ floor * d := fun less =>
    Nat.succ_mul q d ▸ Nat.mul_le_mul_right d less
  have next : q = floor + 1 → q * d = floor * d + d := fun same => same ▸ Nat.succ_mul floor d
  have above : floor + 1 < q → floor * d + 2 * d ≤ q * d := fun more =>
    Nat.add_mul floor 2 d ▸ Nat.mul_le_mul_right d more
  have level : q = floor → q * d = floor * d := fun same => same ▸ rfl
  generalize q * d = x at *
  generalize floor * d = y at *
  split_ifs <;> omega

theorem roundHalfEven_mul_self (q : Nat) (positive : 0 < d) : roundHalfEven (q * d) d = q := by
  rw [roundHalfEven_eq_iff positive]
  omega

theorem roundHalfEven_one (n : Nat) : roundHalfEven n 1 = n := by
  simpa using roundHalfEven_mul_self n Nat.one_pos

/-- Rounding to a multiple stays between two multiples. -/
theorem roundHalfEven_between {m d low high : Nat} (positive : 0 < d) (least : low * d ≤ m)
    (most : m < high * d) : low ≤ roundHalfEven m d ∧ roundHalfEven m d ≤ high := by
  obtain ⟨below, above, -⟩ := (roundHalfEven_eq_iff positive).1 (rfl : roundHalfEven m d = _)
  generalize roundHalfEven m d = q at *
  constructor
  · by_contra less
    have step : q * d + d ≤ low * d := Nat.succ_mul q d ▸ Nat.mul_le_mul_right d (by omega)
    omega
  · by_contra more
    have step : high * d + d ≤ q * d := Nat.succ_mul high d ▸ Nat.mul_le_mul_right d (by omega)
    omega

end Decimal

namespace Double

open Decimal (roundHalfEven)

/-- The bits of a natural number beyond the 53 that a double holds. -/
def excess (n : Nat) : Nat :=
  n.log2 - 52

/-- The natural number with at most 53 significant bits that is nearest to `n`; halfway between
two the one with the even significand. -/
def nearest (n : Nat) : Nat :=
  roundHalfEven n (2 ^ excess n) * 2 ^ excess n

/-- The integer nearest to `i` that a double holds. -/
def nearestInt (i : Int) : Int :=
  if i < 0 then -(nearest i.natAbs : Int) else nearest i.natAbs

/-! ### Dropping bits -/

/-- When the last `places` bits are dropped, two flags are left of them: whether they are half of
the last place or more, and whether they are anything else than nothing or a half. -/
theorem repeat_shiftRightOne (n places : Nat) :
    Nat.repeat ExtendedMantissa.shiftRightOne places ⟨n, false, false⟩ =
      ⟨n / 2 ^ places, decide (2 ^ places ≤ 2 * (n % 2 ^ places)),
        decide (n % 2 ^ places ≠ 0 ∧ 2 * (n % 2 ^ places) ≠ 2 ^ places)⟩ := by
  induction places with
  | zero => simp [Nat.repeat, Nat.mod_one]
  | succ places ih =>
      have positive := Nat.two_pow_pos places
      have small := Nat.mod_lt n positive
      have split : n % 2 ^ (places + 1) = n % 2 ^ places + 2 ^ places * (n / 2 ^ places % 2) := by
        rw [Nat.pow_succ, Nat.mod_mul]
      rw [Nat.repeat, ih, ExtendedMantissa.shiftRightOne, split, Nat.pow_succ,
        ← Nat.div_div_eq_div_mul]
      generalize 2 ^ places = unit at *
      generalize n % unit = rest at *
      generalize n / unit = quotient at *
      rw [ExtendedMantissa.mk.injEq]
      refine ⟨rfl, Bool.eq_iff_iff.2 ?_, Bool.eq_iff_iff.2 ?_⟩ <;>
        rcases Nat.mod_two_eq_zero_or_one quotient with even | odd
      · simp [even]
        omega
      · simp [odd]
        omega
      · simp [even]
        omega
      · simp [odd]
        omega

theorem roundedMantissa_mk (quotient : Nat) (half rest : Bool) :
    (ExtendedMantissa.mk quotient half rest).roundedMantissa =
      if half then if rest then quotient + 1 else quotient + quotient % 2 else quotient := by
  cases half <;> cases rest <;> rfl

theorem roundedMantissa_shiftRight (n places : Nat) :
    (ExtendedMantissa.ofMantissaAndAccuracy n .exact >>> places).roundedMantissa =
      roundHalfEven n (2 ^ places) := by
  change (Nat.repeat ExtendedMantissa.shiftRightOne places ⟨n, false, false⟩).roundedMantissa = _
  have small := Nat.mod_lt n (Nat.two_pow_pos places)
  rw [repeat_shiftRightOne, roundedMantissa_mk, roundHalfEven]
  simp only [decide_eq_true_eq]
  generalize 2 ^ places = unit at *
  generalize n % unit = rest at *
  generalize n / unit = quotient at *
  split_ifs <;> omega

/-! ### Rounding a natural number -/

theorem nearest_of_lt {n : Nat} (small : n < 2 ^ 53) : nearest n = n := by
  have length : n.log2 < 53 := by
    by_cases zero : n = 0
    · simp [zero]
    · exact (Nat.log2_lt zero).2 small
  have none : excess n = 0 := by rw [excess]; omega
  rw [nearest, none, Nat.pow_zero, Decimal.roundHalfEven_one, Nat.mul_one]

/-- A significand of 53 bits and an exponent that stand for a natural number. -/
structure Normal (n significand : Nat) (exponent : Int) : Prop where
  full : 2 ^ 52 ≤ significand ∧ significand < 2 ^ 53
  value : significand * 2 ^ exponent.toNat = n * 2 ^ (-exponent).toNat

theorem shiftToTargetExponent_exact {m places : Nat} {e : Int} (length : m.log2 = 52 + places)
    (range : -1074 ≤ e) :
    UnpackedFloat.shiftToTargetExponent Format.binary64 m e .exact =
      (ExtendedMantissa.ofMantissaAndAccuracy m .exact >>> places, e + places) := by
  have target : Format.binary64.targetExponent (Float.Model.totalExponent m e) = e + places := by
    have least : Format.binary64.minExponent = -1074 := rfl
    have bits : Format.binary64.mantissaBits = 53 := rfl
    rw [Format.targetExponent, Float.Model.totalExponent, least, bits, length]
    omega
  rw [UnpackedFloat.shiftToTargetExponent, target, UnpackedFloat.shiftToExponent]
  simp

/-- A rounded significand is one bit too long at most, and then it is a power of two. -/
theorem shiftToTargetExponent_rounded {m : Nat} {e : Int} (length : 2 ^ 52 ≤ m ∧ m ≤ 2 ^ 53)
    (range : -1074 ≤ e) :
    ∃ significand places : Nat,
      UnpackedFloat.shiftToTargetExponent Format.binary64 m e .exact =
        (⟨significand, false, false⟩, e + places) ∧
      (2 ^ 52 ≤ significand ∧ significand < 2 ^ 53) ∧
      (places = 0 ∧ significand = m ∨ places = 1 ∧ m = 2 ^ 53 ∧ significand = 2 ^ 52) := by
  rcases Nat.lt_or_eq_of_le length.2 with short | rfl
  · have length : m.log2 = 52 + 0 := (Nat.log2_eq_iff (by omega)).2 ⟨length.1, short⟩
    refine ⟨m, 0, ?_, by omega, .inl ⟨rfl, rfl⟩⟩
    rw [shiftToTargetExponent_exact length range]
    rfl
  · have length : (2 ^ 53 : Nat).log2 = 52 + 1 := Nat.log2_two_pow
    refine ⟨2 ^ 52, 1, ?_, by omega, .inr ⟨rfl, rfl, rfl⟩⟩
    rw [shiftToTargetExponent_exact length range]
    rfl

theorem log2_mul_two_pow {n : Nat} (positive : 0 < n) (places : Nat) :
    (n * 2 ^ places).log2 = n.log2 + places := by
  have unit := Nat.two_pow_pos places
  have bounds := (Nat.log2_eq_iff (by omega)).1 (rfl : n.log2 = _)
  refine (Nat.log2_eq_iff (Nat.ne_of_gt (Nat.mul_pos positive unit))).2 ⟨?_, ?_⟩
  · rw [Nat.pow_add]
    exact Nat.mul_le_mul_right _ bounds.1
  · rw [Nat.add_right_comm, Nat.pow_add]
    exact Nat.mul_lt_mul_of_pos_right bounds.2 unit

/-- A natural number filled up with zeros to 53 bits, if it is shorter. -/
def filled (n : Nat) : Nat :=
  n <<< (52 - n.log2)

theorem log2_filled {n : Nat} (positive : 0 < n) : (filled n).log2 = 52 + excess n := by
  rw [filled, Nat.shiftLeft_eq, log2_mul_two_pow positive, excess]
  omega

/-- Its first 53 bits, rounded, are one bit too many at most. -/
theorem roundHalfEven_filled {n : Nat} (positive : 0 < n) :
    2 ^ 52 ≤ roundHalfEven (filled n) (2 ^ excess n) ∧
      roundHalfEven (filled n) (2 ^ excess n) ≤ 2 ^ 53 := by
  have nonzero : filled n ≠ 0 := by
    intro zero
    have length := log2_filled positive
    rw [zero, Nat.log2_zero] at length
    omega
  have bounds := (Nat.log2_eq_iff nonzero).1 (log2_filled positive)
  rw [Nat.add_right_comm, Nat.pow_add, Nat.pow_add] at bounds
  exact Decimal.roundHalfEven_between (Nat.two_pow_pos _) bounds.1 bounds.2

/-- They stand for the nearest number. -/
theorem roundHalfEven_filled_mul (n : Nat) :
    roundHalfEven (filled n) (2 ^ excess n) * 2 ^ excess n = nearest n * 2 ^ (52 - n.log2) := by
  by_cases short : n.log2 ≤ 52
  · have none : excess n = 0 := by rw [excess]; omega
    rw [nearest, filled, none, Nat.shiftLeft_eq, Nat.pow_zero, Decimal.roundHalfEven_one,
      Decimal.roundHalfEven_one, Nat.mul_one, Nat.mul_one]
  · have none : 52 - n.log2 = 0 := by omega
    rw [nearest, filled, none, Nat.shiftLeft_zero, Nat.pow_zero, Nat.mul_one]

/-- The first 53 bits, rounded and shortened if they are too many, with their place. -/
theorem normal_of_rounded {n significand places : Nat}
    (full : 2 ^ 52 ≤ significand ∧ significand < 2 ^ 53)
    (shortened : places = 0 ∧ significand = roundHalfEven (filled n) (2 ^ excess n) ∨
      places = 1 ∧ roundHalfEven (filled n) (2 ^ excess n) = 2 ^ 53 ∧ significand = 2 ^ 52) :
    Normal (nearest n) significand ((n.log2 : Int) - 52 + places) := by
  have dropped : (excess n : Int) = max (n.log2 - 52) 0 := by rw [excess]; omega
  have value := roundHalfEven_filled_mul n
  refine ⟨full, ?_⟩
  rcases shortened with ⟨rfl, rfl⟩ | ⟨rfl, carry, rfl⟩
  · have high : ((n.log2 : Int) - 52 + (0 : Nat)).toNat = excess n := by omega
    have low : (-((n.log2 : Int) - 52 + (0 : Nat))).toNat = 52 - n.log2 := by omega
    rw [high, low, value]
  · rw [carry] at value
    by_cases long : 52 ≤ n.log2
    · have high : ((n.log2 : Int) - 52 + (1 : Nat)).toNat = excess n + 1 := by omega
      have low : (-((n.log2 : Int) - 52 + (1 : Nat))).toNat = 52 - n.log2 := by omega
      rw [high, low, ← value, Nat.pow_succ]
      omega
    · have high : ((n.log2 : Int) - 52 + (1 : Nat)).toNat = excess n := by omega
      have low : 52 - n.log2 = (-((n.log2 : Int) - 52 + (1 : Nat))).toNat + 1 := by omega
      rw [low, Nat.pow_add, ← Nat.mul_assoc] at value
      rw [high]
      omega

/-- A natural number as a double, before it is packed into bits. -/
theorem round_natural {n : Nat} (positive : 0 < n) (sign : Sign) :
    ∃ significand exponent, ∃ h : 0 < significand,
      UnpackedFloat.round Format.binary64 sign n 0 = .finite sign significand exponent h ∧
        Normal (nearest n) significand exponent ∧
        -52 ≤ exponent ∧ exponent ≤ (n.log2 : Int) - 51 := by
  have target : Format.binary64.targetExponent (Float.Model.totalExponent n 0) =
      (n.log2 : Int) - 52 := by
    have least : Format.binary64.minExponent = -1074 := rfl
    have bits : Format.binary64.mantissaBits = 53 := rfl
    rw [Format.targetExponent, Float.Model.totalExponent, least, bits]
    omega
  have up : (0 - ((n.log2 : Int) - 52)).toNat = 52 - n.log2 := by omega
  have dropped : (excess n : Int) = max (n.log2 - 52) 0 := by rw [excess]; omega
  obtain ⟨significand, places, shifted, full, shortened⟩ :=
    shiftToTargetExponent_rounded (roundHalfEven_filled positive)
      (e := 0 - (52 - n.log2 : Nat) + (excess n : Nat)) (by omega)
  refine ⟨significand, (n.log2 : Int) - 52 + places, by omega, ?_,
    normal_of_rounded full shortened, by omega, by omega⟩
  rw [UnpackedFloat.round, target, UnpackedFloat.decreaseExponent]
  dsimp only
  rw [up, UnpackedFloat.roundWithAccuracy, ← filled,
    shiftToTargetExponent_exact (log2_filled positive) (by omega)]
  dsimp only
  rw [roundedMantissa_shiftRight, shifted]
  dsimp only
  rw [dif_neg (by omega)]
  congr 1
  omega

/-! ### What is kept -/

/-- Rounding keeps a number between the powers of two around it. -/
theorem nearest_bounds {n : Nat} (positive : 0 < n) :
    2 ^ n.log2 ≤ nearest n ∧ nearest n ≤ 2 ^ (n.log2 + 1) := by
  have bounds := (Nat.log2_eq_iff (by omega)).1 (rfl : n.log2 = _)
  by_cases short : n < 2 ^ 53
  · rw [nearest_of_lt short]
    omega
  · have long : 53 ≤ n.log2 := (Nat.le_log2 (by omega)).2 (by omega)
    have length : n.log2 = 52 + excess n := by rw [excess]; omega
    have unit := Nat.two_pow_pos (excess n)
    rw [length, Nat.add_right_comm, Nat.pow_add, Nat.pow_add] at bounds
    have between := Decimal.roundHalfEven_between unit bounds.1 bounds.2
    rw [length, Nat.add_right_comm, Nat.pow_add, Nat.pow_add, nearest]
    exact ⟨Nat.mul_le_mul_right _ between.1, Nat.mul_le_mul_right _ between.2⟩

/-- A number that needs no rounding is nearest to itself alone. -/
theorem nearest_eq_iff_of_lt {m n : Nat} (small : n < 2 ^ 53) : nearest m = n ↔ m = n := by
  refine ⟨fun same => ?_, fun same => by rw [same, nearest_of_lt small]⟩
  by_cases short : m < 2 ^ 53
  · rwa [nearest_of_lt short] at same
  · have long : 53 ≤ m.log2 := (Nat.le_log2 (by omega)).2 (by omega)
    have least := (nearest_bounds (n := m) (by omega)).1
    have power : 2 ^ 53 ≤ 2 ^ m.log2 := Nat.pow_le_pow_right (by decide) long
    omega

/-- Two integers with one nearest integer are the same, or both need rounding. -/
theorem eq_or_le_of_nearestInt_eq {a b : Int} (same : nearestInt a = nearestInt b) :
    a = b ∨ 2 ^ 53 ≤ a.natAbs ∧ 2 ^ 53 ≤ b.natAbs := by
  have magnitudes : nearest a.natAbs = nearest b.natAbs := by
    rw [nearestInt, nearestInt] at same
    split_ifs at same <;> omega
  by_cases small : a.natAbs < 2 ^ 53 ∨ b.natAbs < 2 ^ 53
  · have alike : a.natAbs = b.natAbs := by
      rcases small with small | small
      · rw [nearest_of_lt small, eq_comm, nearest_eq_iff_of_lt small] at magnitudes
        exact magnitudes.symm
      · rwa [nearest_of_lt small, nearest_eq_iff_of_lt small] at magnitudes
    have kept : nearest b.natAbs = b.natAbs := nearest_of_lt (by omega)
    left
    rw [nearestInt, nearestInt, alike, kept] at same
    split_ifs at same <;> omega
  · omega

/-! ### The significand and exponent of a number -/

/-- A number is told by one significand of 53 bits and one exponent. -/
theorem Normal.unique {n significand other : Nat} {exponent otherExponent : Int}
    (one : Normal n significand exponent) (two : Normal n other otherExponent) :
    significand = other ∧ exponent = otherExponent := by
  have length : significand.log2 = 52 := (Nat.log2_eq_iff (by have := one.full; omega)).2 one.full
  have otherLength : other.log2 = 52 := (Nat.log2_eq_iff (by have := two.full; omega)).2 two.full
  have same : significand * 2 ^ (exponent.toNat + (-otherExponent).toNat) =
      other * 2 ^ (otherExponent.toNat + (-exponent).toNat) := by
    rw [Nat.pow_add, Nat.pow_add, ← Nat.mul_assoc, ← Nat.mul_assoc, one.value, two.value,
      Nat.mul_right_comm]
  have lengths := congrArg Nat.log2 same
  rw [log2_mul_two_pow (by have := one.full; omega), log2_mul_two_pow (by have := two.full; omega),
    length, otherLength] at lengths
  have places : exponent.toNat + (-otherExponent).toNat =
      otherExponent.toNat + (-exponent).toNat := by omega
  rw [places] at same
  exact ⟨Nat.eq_of_mul_eq_mul_right (Nat.two_pow_pos _) same, by omega⟩

/-- They tell one number. -/
theorem Normal.number_eq {n other significand : Nat} {exponent : Int}
    (one : Normal n significand exponent) (two : Normal other significand exponent) :
    n = other := by
  have same := one.value.symm.trans two.value
  exact Nat.eq_of_mul_eq_mul_right (Nat.two_pow_pos _) same

theorem Normal.positive {n significand : Nat} {exponent : Int}
    (normal : Normal n significand exponent) : 0 < n := by
  have positive : 0 < significand * 2 ^ exponent.toNat :=
    Nat.mul_pos (by have := normal.full; omega) (Nat.two_pow_pos _)
  rw [normal.value] at positive
  exact Nat.pos_of_mul_pos_right positive

end Double

namespace Json.Number

open Double (nearest nearestInt Normal)

/-! ### Integers as doubles -/

/-- The sign that an integer other than zero has. -/
def signOf (i : Int) : Sign :=
  if i < 0 then .negative else .positive

theorem unpack_doubleOfInt_zero : (doubleOfInt 0).toModel.unpack = .zero .positive := by
  rfl

theorem toModel_toFloat {n : Nat} (positive : 0 < n) (fits : n < 2 ^ 64) :
    ∃ significand exponent, ∃ h : 0 < significand,
      (UInt64.ofNat n).toFloat.toModel =
        Float.Model.pack (.finite .positive significand exponent h) ∧
      Normal (nearest n) significand exponent ∧ -52 ≤ exponent ∧ exponent ≤ 12 := by
  obtain ⟨significand, exponent, h, rounded, normal, least, most⟩ :=
    Double.round_natural positive .positive
  have length : n.log2 < 64 := (Nat.log2_lt (by omega)).2 fits
  have word : (UInt64.ofNat n).toNat = n := UInt64.toNat_ofNat_of_lt' fits
  have order : compare (n : Int) 0 = .gt := Int.compare_eq_gt.2 (by omega)
  refine ⟨significand, exponent, h, ?_, normal, least, by omega⟩
  simp only [UInt64.toFloat, Float.Model.ofUInt64, UnpackedFloat.ofUInt64, UnpackedFloat.ofNat,
    UnpackedFloat.ofInt, UnpackedFloat.normalize, word, order, Int.toNat_natCast, rounded]

/-- The double of an integer has the sign of the integer and the magnitude of the nearest one. -/
theorem unpack_doubleOfInt {i : Int} (nonzero : i ≠ 0) (fits : i.natAbs < 2 ^ 64) :
    ∃ significand exponent, ∃ h : 0 < significand,
      (doubleOfInt i).toModel.unpack = .finite (signOf i) significand exponent h ∧
      Normal (nearest i.natAbs) significand exponent ∧ -52 ≤ exponent ∧ exponent ≤ 12 := by
  obtain ⟨significand, exponent, h, packed, normal, least, most⟩ :=
    toModel_toFloat (Int.natAbs_pos.2 nonzero) fits
  refine ⟨significand, exponent, h, ?_, normal, least, most⟩
  have range : -1074 ≤ exponent ∧ exponent ≤ 971 := by omega
  rw [doubleOfInt, signOf]
  by_cases negative : i < 0
  · have magnitude : (-i).toNat = i.natAbs := by omega
    rw [if_neg (by omega), if_pos negative, magnitude]
    change (Float.Model.pack (UInt64.ofNat i.natAbs).toFloat.toModel.unpack.neg).unpack = _
    rw [packed, Binary.unpack_pack h normal.full range]
    exact Binary.unpack_pack h normal.full range
  · have magnitude : i.toNat = i.natAbs := by omega
    rw [if_pos (by omega), if_neg negative, magnitude, packed]
    exact Binary.unpack_pack h normal.full range

/-! ### Comparing -/

theorem nearestInt_eq_iff {a b : Int} (nonzero : 0 < nearest a.natAbs) :
    nearestInt a = nearestInt b ↔ signOf a = signOf b ∧ nearest a.natAbs = nearest b.natAbs := by
  rw [nearestInt, nearestInt, signOf, signOf]
  split_ifs <;> simp <;> omega

theorem nearestInt_zero : nearestInt 0 = 0 := by
  decide

theorem nearestInt_ne_zero {i : Int} (nonzero : 0 < nearest i.natAbs) : nearestInt i ≠ 0 := by
  rw [nearestInt]
  split_ifs <;> omega

/-- The doubles of two integers are equal when the nearest integers are. -/
theorem beq_doubleOfInt {a b : Int} (fits : a.natAbs < 2 ^ 64) (fits' : b.natAbs < 2 ^ 64) :
    (doubleOfInt a == doubleOfInt b) = decide (nearestInt a = nearestInt b) := by
  rw [Bool.eq_iff_iff, decide_eq_true_eq]
  change (doubleOfInt a).toModel.unpack.beq (doubleOfInt b).toModel.unpack = true ↔ _
  rw [UnpackedFloat.beq_iff_ne_notANumber_and_eq]
  by_cases zero : a = 0 <;> by_cases zero' : b = 0
  · rw [zero, zero', unpack_doubleOfInt_zero]
    simp
  · obtain ⟨significand, exponent, h, unpacked, normal, -⟩ := unpack_doubleOfInt zero' fits'
    have apart := nearestInt_ne_zero normal.positive
    rw [zero, unpack_doubleOfInt_zero, unpacked, nearestInt_zero]
    simp [apart.symm]
  · obtain ⟨significand, exponent, h, unpacked, normal, -⟩ := unpack_doubleOfInt zero fits
    have apart := nearestInt_ne_zero normal.positive
    rw [zero', unpack_doubleOfInt_zero, unpacked, nearestInt_zero]
    simp [apart]
  · obtain ⟨significand, exponent, h, unpacked, normal, -⟩ := unpack_doubleOfInt zero fits
    obtain ⟨significand', exponent', h', unpacked', normal', -⟩ := unpack_doubleOfInt zero' fits'
    rw [unpacked, unpacked', nearestInt_eq_iff normal.positive]
    simp only [ne_eq, reduceCtorEq, not_false_eq_true, and_false, or_false, true_and,
      UnpackedFloat.finite.injEq, and_congr_right_iff]
    refine fun _ => ⟨?_, fun same => normal.unique (same ▸ normal')⟩
    rintro ⟨rfl, rfl⟩
    exact normal.number_eq normal'

/-! ### Decoding -/

/-- The double of an integer is finite and stands for the nearest integer. -/
theorem ofFloat_doubleOfInt {i : Int} (fits : i.natAbs < 2 ^ 64) :
    Binary.isFinite (doubleOfInt i) = true ∧
    (Binary.ofFloat (doubleOfInt i)).negative = decide (i < 0) ∧
    (Binary.ofFloat (doubleOfInt i)).ratio.1 =
      nearest i.natAbs * (Binary.ofFloat (doubleOfInt i)).ratio.2 ∧
    0 < (Binary.ofFloat (doubleOfInt i)).ratio.2 := by
  by_cases zero : i = 0
  · subst zero
    decide +kernel
  · obtain ⟨significand, exponent, h, unpacked, normal, -⟩ := unpack_doubleOfInt zero fits
    obtain ⟨decoded, finite⟩ := Binary.ofFloat_of_unpack unpacked
    have value := normal.value
    refine ⟨finite, ?_, ?_⟩
    · rw [decoded, signOf]
      split_ifs <;> simp_all [Binary.isNegative]
    · rw [decoded, Binary.ratio]
      dsimp only
      split_ifs with natural
      · have none : (-exponent).toNat = 0 := by omega
        rw [none] at value
        exact ⟨value, Nat.one_pos⟩
      · have none : exponent.toNat = 0 := by omega
        rw [none] at value
        exact ⟨by simpa using value, Nat.two_pow_pos _⟩

variable {i : Int}

theorem wholePart_doubleOfInt (fits : i.natAbs < 2 ^ 64) :
    (Binary.ofFloat (doubleOfInt i)).wholePart = nearest i.natAbs := by
  obtain ⟨-, -, value, unit⟩ := ofFloat_doubleOfInt fits
  rw [Binary.wholePart, value, Nat.mul_div_cancel _ unit]

theorem isWhole_doubleOfInt (fits : i.natAbs < 2 ^ 64) : Double.isWhole (doubleOfInt i) = true := by
  obtain ⟨finite, -, value, -⟩ := ofFloat_doubleOfInt fits
  simp [Double.isWhole, Binary.isWhole, finite, value]

end Json.Number

namespace Json

/-- The integers that JSON numbers hold: those of 64 bits, with a sign or without. -/
abbrev Integer : Type :=
  { i : Int // minInt64 ≤ i ∧ i ≤ maxUInt64 }

/-- An integer as a JSON value. -/
def ofInteger (i : Integer) : Json :=
  .number (.integer i.1 i.2)

theorem Integer.natAbs_lt (i : Integer) : i.1.natAbs < 2 ^ 64 := by
  have least : minInt64 = -9223372036854775808 := rfl
  have most : maxUInt64 = 18446744073709551615 := rfl
  have bounds := i.2
  omega

end Json

end Reshape
