/-
Module: Reshape.Text.Blank
Purpose: blank characters and the removal of blanks at the ends of a text.
Main exports: isBlank, trim, trimStart, trimEnd
Trusted boundary: none
-/
import Reshape.Text.CharRange

namespace Reshape.Text

/-- The characters of the property White_Space. -/
def blankRanges : List CharRange :=
  [(0x9, 0xd), (0x20, 0x20), (0x85, 0x85), (0xa0, 0xa0), (0x1680, 0x1680), (0x2000, 0x200a),
   (0x2028, 0x2029), (0x202f, 0x202f), (0x205f, 0x205f), (0x3000, 0x3000)]

def isBlank (c : Char) : Bool :=
  CharRange.covers blankRanges c.toNat

/-- Without the blanks at the start. -/
def trimStart (s : List Char) : List Char :=
  s.dropWhile isBlank

/-- Without the blanks at the end. -/
def trimEnd (s : List Char) : List Char :=
  (s.reverse.dropWhile isBlank).reverse

/-- Without the blanks at both ends. -/
def trim (s : List Char) : List Char :=
  trimEnd (trimStart s)

end Reshape.Text
