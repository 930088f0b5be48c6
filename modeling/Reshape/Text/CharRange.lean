/-
Module: Reshape.Text.CharRange
Purpose: sets of characters given by ranges of code points.
Main exports: CharRange, CharRange.covers
Trusted boundary: none
-/

namespace Reshape.Text

/-- First and last code point of a run of characters. -/
abbrev CharRange := Nat × Nat

namespace CharRange

/-- Whether one of the ranges holds the code point. -/
def covers (ranges : List CharRange) (point : Nat) : Bool :=
  ranges.any fun range => range.1 ≤ point && point ≤ range.2

end CharRange

end Reshape.Text
