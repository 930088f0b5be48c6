/-
Module: Reshape.Decimal.Range
Purpose: the ends of the ranges of integers with a fixed number of bits.
Main exports: minInt64, maxInt64, maxUInt64, maxUInt32
Trusted boundary: none
-/

namespace Reshape

/-- The least integer of 64 bits with a sign, `-2 ^ 63`. -/
def minInt64 : Int := -9223372036854775808

/-- The greatest integer of 64 bits with a sign, `2 ^ 63 - 1`. -/
def maxInt64 : Int := 9223372036854775807

/-- The greatest integer of 64 bits without a sign, `2 ^ 64 - 1`. -/
def maxUInt64 : Nat := 18446744073709551615

/-- The greatest integer of 32 bits without a sign, `2 ^ 32 - 1`. -/
def maxUInt32 : Nat := 4294967295

end Reshape
