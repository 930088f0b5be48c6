/-
Module: Reshape.Proofs.Decimal.Encoding
Purpose: the bits of a double against its sign, significand and exponent.
Main exports: Binary.ofFloat_of_unpack, Binary.unpack_pack
Trusted boundary: none
-/
import Mathlib
import Reshape.Decimal.Binary

/-!
# Encoding of doubles

A double is kept as 64 bits, and its arithmetic is defined on the sign, significand and exponent
that the bits unpack to. Decoding a double to a binary fraction reads the same three fields.
-/

namespace Reshape

open Float.Model (Format UnpackedFloat)
open Float.Model.UnpackedFloat (Sign unpackExponent unpackMantissa unpackSign)

namespace Binary

/-! ### The three fields -/

theorem exponentBits_eq (x : Float) :
    exponentBits x = (@unpackExponent Format.binary64 x.toBits.toBitVec).toNat := by
  have mask := Nat.and_two_pow_sub_one_eq_mod (x.toBits.toNat >>> 52) 11
  simpa [exponentBits, unpackExponent] using mask

theorem fractionBits_eq (x : Float) :
    fractionBits x = (@unpackMantissa Format.binary64 x.toBits.toBitVec).toNat := by
  have mask := Nat.and_two_pow_sub_one_eq_mod x.toBits.toNat 52
  simpa [fractionBits, unpackMantissa] using mask

theorem signBit_eq (x : Float) :
    signBit x = (@unpackSign Format.binary64 x.toBits.toBitVec == 1#1) := by
  have bound := x.toBits.toNat_lt
  have shifted : (x.toBits >>> 63).toNat = x.toBits.toNat / 2 ^ 63 := by
    simp [Nat.shiftRight_eq_div_pow]
  have extracted : (@unpackSign Format.binary64 x.toBits.toBitVec).toNat =
      x.toBits.toNat / 2 ^ 63 % 2 := by
    simp [unpackSign, Nat.shiftRight_eq_div_pow]
  rw [signBit, Bool.eq_iff_iff, beq_iff_eq, beq_iff_eq, ← UInt64.toNat_inj, ← BitVec.toNat_inj,
    shifted, extracted]
  change _ = 1 ↔ _ = 1
  omega

/-! ### Decoding -/

/-- The sign of a double as a truth value. -/
def isNegative : Sign → Bool
  | .negative => true
  | .positive => false

theorem isNegative_ofBitVec (bit : BitVec 1) :
    isNegative (Sign.ofBitVec bit) = (bit == 1#1) := by
  revert bit
  decide

/-- The leading bit of a significand is not stored. -/
theorem toNat_append_one (fraction : BitVec 52) :
    (1#1 ++ fraction).toNat = 2 ^ 52 + fraction.toNat := by
  rw [BitVec.toNat_append, ← Nat.shiftLeft_add_eq_or_of_lt fraction.isLt]
  rfl

/-- A finite double other than zero is decoded to its sign, significand and exponent. -/
theorem ofFloat_of_unpack {x : Float} {sign : Sign} {significand : Nat} {exponent : Int}
    {positive : 0 < significand}
    (finite : x.toModel.unpack = .finite sign significand exponent positive) :
    ofFloat x = ⟨isNegative sign, significand, exponent⟩ ∧ isFinite x = true := by
  have field (value : BitVec 11) :
      @unpackExponent Format.binary64 x.toModel.toBits.toBitVec = value ↔
        exponentBits x = value.toNat := by
    rw [exponentBits_eq, BitVec.toNat_inj, Float.toBits]
  have exponentField := exponentBits_eq x
  have bias : Format.binary64.exponentBias = 1023 := rfl
  simp only [Float.Model.unpack, UnpackedFloat.unpack] at finite
  rw [ofFloat, isFinite, fractionBits_eq, signBit_eq, ← isNegative_ofBitVec]
  split at finite
  · split at finite <;> cases finite
  · next bounded =>
      refine ⟨?_, bne_iff_ne.2 (mt (field (-1#11)).2 bounded)⟩
      split at finite
      · next subnormal =>
          have subnormal : exponentBits x = 0 := (field _).1 subnormal
          split at finite
          · cases finite
          · cases finite
            rw [if_pos subnormal, bias, ← Float.toBits, ← exponentField, subnormal]
            rfl
      · next normal =>
          have normal : exponentBits x ≠ 0 := mt (field (0#11)).2 normal
          cases finite
          rw [if_neg normal, bias, ← Float.toBits, ← exponentField, toNat_append_one]
          rfl

/-! ### Doubles with a significand of full length -/

/-- Nothing is lost when a significand of 53 bits is packed. -/
theorem unpack_pack {sign : Sign} {significand : Nat} {exponent : Int}
    (positive : 0 < significand) (full : 2 ^ 52 ≤ significand ∧ significand < 2 ^ 53)
    (range : -1074 ≤ exponent ∧ exponent ≤ 971) :
    (Float.Model.pack (.finite sign significand exponent positive)).unpack =
      .finite sign significand exponent positive := by
  have bias : Format.binary64.exponentBias = 1023 := rfl
  have length : significand.log2 = 52 := (Nat.log2_eq_iff (by omega)).2 full
  obtain ⟨field, shift⟩ : ∃ field : Nat, exponent + 1075 = field :=
    Int.eq_ofNat_of_zero_le (by omega)
  have biased : exponent + (1023 : Nat) + (52 : Nat) = field := by omega
  have exponentBits : (BitVec.ofNat 11 field).toNat = field :=
    Nat.mod_eq_of_lt (by omega)
  have fractionBits : (1#1 ++ BitVec.ofNat 52 significand).toNat = significand := by
    rw [toNat_append_one, BitVec.toNat_ofNat]
    omega
  have normal : BitVec.ofNat 11 field ≠ 0#11 := by
    rw [ne_eq, ← BitVec.toNat_inj, exponentBits]
    change field ≠ 0
    omega
  have bounded : BitVec.ofNat 11 field ≠ -1#11 := by
    rw [ne_eq, ← BitVec.toNat_inj, exponentBits]
    change field ≠ 2047
    omega
  simp only [Float.Model.unpack, Float.Model.pack, UnpackedFloat.pack, bias, length, biased,
    Int.toNat_natCast]
  rw [if_neg (show ¬ 2 ^ 11 ≤ field + 1 by omega), if_pos (by rfl)]
  simp only [UnpackedFloat.unpack, UnpackedFloat.unpackExponent_packComponents,
    UnpackedFloat.unpackMantissa_packComponents, UnpackedFloat.unpackSign_packComponents,
    Sign.ofBitVec_toBitVec, if_neg bounded, if_neg normal, exponentBits, fractionBits, bias]
  congr 1
  omega

end Binary

end Reshape
