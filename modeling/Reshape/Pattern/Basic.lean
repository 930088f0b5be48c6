/-
Module: Reshape.Pattern.Basic
Purpose: patterns and the texts they occur in.
Main exports: Pattern, Pattern.ends, Pattern.occursIn, Pattern.size
Trusted boundary: stands in for a library of patterns, which is no part of the program; what is
  proved of programs holds for any such library
-/
import Reshape.Pattern.CharSet

/-!
# Patterns

A pattern relates the positions of a text: it leads from a start to every end of a
stretch that it matches. A set of positions is kept as an increasing list, and a
pattern maps the set of starts to the set of ends. Only occurrence is asked for, so
it makes no difference in which order alternatives and repetitions are tried.
-/

namespace Reshape

namespace Pattern

/-- A condition on the place between two characters. -/
inductive Look where
  | textStart
  | textEnd
  | lineStart
  | lineEnd
  /-- A line that ends with a carriage return, a line feed or both. -/
  | anyLineStart
  | anyLineEnd
  | wordBoundary (word : CharSet)
  | noWordBoundary (word : CharSet)
  | wordStart (word : CharSet)
  | wordEnd (word : CharSet)
  /-- No word character before the place. -/
  | wordStartHalf (word : CharSet)
  /-- No word character after the place. -/
  | wordEndHalf (word : CharSet)

/-- Whether the condition holds between `before` and `after`; at an end of the text
there is no character. -/
def Look.holds (look : Look) (before after : Option Char) : Bool :=
  let isWord (set : CharSet) (c : Option Char) : Bool := c.any set.mem
  match look with
  | .textStart => before.isNone
  | .textEnd => after.isNone
  | .lineStart => before.isNone || before == some '\n'
  | .lineEnd => after.isNone || after == some '\n'
  | .anyLineStart =>
      before.isNone || before == some '\n' || (before == some '\r' && after != some '\n')
  | .anyLineEnd =>
      after.isNone || after == some '\r' || (after == some '\n' && before != some '\r')
  | .wordBoundary set => isWord set before != isWord set after
  | .noWordBoundary set => isWord set before == isWord set after
  | .wordStart set => !isWord set before && isWord set after
  | .wordEnd set => isWord set before && !isWord set after
  | .wordStartHalf set => !isWord set before
  | .wordEndHalf set => !isWord set after

end Pattern

/-- A pattern. -/
inductive Pattern where
  | nothing
  | char (set : Pattern.CharSet)
  | look (condition : Pattern.Look)
  | andThen (first second : Pattern)
  | orElse (left right : Pattern)
  /-- At least `least` times, and at most `most` times if that is given. -/
  | repeated (least : Nat) (most : Option Nat) (inner : Pattern)

namespace Pattern

/-- Positions of a text in increasing order. -/
abbrev Positions := List Nat

/-- Merge two increasing lists. -/
def Positions.merge : Positions → Positions → Positions
  | [], ys => ys
  | x :: xs, ys =>
      let rec insertFrom : Positions → Positions
        | [] => x :: merge xs []
        | y :: ys =>
            if x < y then x :: merge xs (y :: ys)
            else if y < x then y :: insertFrom ys
            else x :: merge xs ys
      insertFrom ys

/-- Apply `step` the given number of times, as long as any position is left. -/
def iterate (step : Positions → Positions) : Nat → Positions → Positions
  | 0, ps => ps
  | n + 1, ps => if ps.isEmpty then [] else iterate step n (step ps)

/-- All positions reached by at most the given number of steps. Once a step reaches
nothing new, no later one does. -/
def closure (step : Positions → Positions) : Nat → Positions → Positions
  | 0, ps => ps
  | n + 1, ps =>
      let grown := ps.merge (step ps)
      if grown.length = ps.length then ps else closure step n grown

/-- The ends of the stretches that a pattern matches from one of the starts. -/
def ends (text : Array Char) : Pattern → Positions → Positions
  | .nothing, ps => ps
  | .char set, ps =>
      ps.filterMap fun p =>
        match text[p]? with
        | some c => if set.mem c then some (p + 1) else none
        | none => none
  | .look condition, ps =>
      ps.filter fun p => condition.holds (if p = 0 then none else text[p - 1]?) text[p]?
  | .andThen first second, ps => second.ends text (first.ends text ps)
  | .orElse left right, ps => (left.ends text ps).merge (right.ends text ps)
  | .repeated least most inner, ps =>
      let step := inner.ends text
      closure step (match most with
        | some m => m - least
        | none => text.size + 1) (iterate step least ps)

/-- Whether the pattern matches anywhere in the text. -/
def occursIn (pattern : Pattern) (text : List Char) : Bool :=
  let chars := text.toArray
  !(pattern.ends chars (List.range (chars.size + 1))).isEmpty

/-- An estimate of how large a machine for the pattern is: copies of a repeated
pattern count as often as they have to be present. -/
def size : Pattern → Nat
  | .nothing => 1
  | .char (.ranges rs) => if rs.all (·.2 < 0x80) then 1 else 2 + rs.length / 2
  | .char _ => 4
  | .look _ => 1
  | .andThen first second => first.size + second.size
  | .orElse left right => left.size + right.size + 1
  | .repeated least most inner =>
      match most with
      | some m => max least m * (inner.size + 1) + 1
      | none => max least 1 * inner.size + 1

/-- The largest size that is accepted. -/
def maxSize : Nat := 300000

end Pattern

end Reshape
