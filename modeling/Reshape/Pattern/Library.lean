/-
Module: Reshape.Pattern.Library
Purpose: what the program asks of a library of patterns.
Main exports: Pattern.Options, Pattern.Library
Trusted boundary: the library itself, which is no part of the program; nothing is assumed
  about the patterns that it accepts
-/

/-!
# The library of patterns

The language of patterns is not the program's own. A pattern and four options go to a
library, which refuses the pattern or tells of every text whether the pattern occurs in it.
-/

namespace Reshape.Pattern

/-- How the characters of a pattern are understood. -/
structure Options where
  /-- Letters stand for all their cases. -/
  anyCase : Bool := false
  /-- `^` and `$` stand for the ends of lines. -/
  multiLine : Bool := false
  /-- The dot stands for line breaks too. -/
  dotAll : Bool := false
  /-- Blanks and comments are passed over. -/
  extended : Bool := false
  deriving DecidableEq, Repr

/-- A library of patterns. -/
class Library where
  /-- The texts that a pattern occurs in; none when the library refuses the pattern. -/
  build? : Options → String → Option (String → Bool)

end Reshape.Pattern
