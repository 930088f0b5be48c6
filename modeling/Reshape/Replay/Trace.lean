/-
Module: Reshape.Replay.Trace
Purpose: the values a chain has gone through, and their substitution into
  arguments.
Main exports: Trace, Trace.Piece, Trace.resolve, Trace.interpolate
Trusted boundary: none
-/
import Reshape.Json.Coercion
import Reshape.Text.Word

/-!
# Traces

A reference is a dollar sign with decimal digits behind it. The entry it names is
the value after that many operations; digits that are no index of an entry name
null, and only ASCII digits are read as an index. Resolving replaces the arguments
that are references as a whole; interpolating also replaces the references inside
longer texts. What is put in is not looked at again.
-/

namespace Reshape

/-- The value before any operation, and the value after each one. -/
structure Trace where
  entries : List Json

namespace Trace

/-- The trace before any operation. -/
def start (value : Json) : Trace :=
  ⟨[value]⟩

/-- The trace after one more operation. -/
def record (trace : Trace) (value : Json) : Trace :=
  ⟨trace.entries ++ [value]⟩

/-- The entry that the digits of a reference name. -/
def entry (trace : Trace) (digits : List Char) : Json :=
  if digits.all Char.isDigit then (trace.entries[Decimal.ofDigits digits]?).getD .null
  else .null

/-- A stretch of a text that may hold references. -/
inductive Piece where
  | literal (char : Char)
  | reference (digits : List Char)
  deriving DecidableEq, Repr

/-- Cut a text into characters and references; a reference takes all the digits
that follow its dollar sign. -/
def pieces : List Char → List Piece
  | [] => []
  | c :: rest =>
      if c = '$' ∧ rest.takeWhile Text.isDecimalDigit ≠ [] then
        .reference (rest.takeWhile Text.isDecimalDigit) ::
          pieces (rest.dropWhile Text.isDecimalDigit)
      else .literal c :: pieces rest
termination_by s => s.length
decreasing_by
  · have := (List.dropWhile_suffix Text.isDecimalDigit (l := rest)).length_le
    simp only [List.length_cons]
    omega
  · simp

/-- The digits of a text that is a reference and nothing else. -/
def reference? (text : List Char) : Option (List Char) :=
  match pieces text with
  | [.reference digits] => some digits
  | _ => none

/-- The text of a piece with references replaced. -/
def render (trace : Trace) : Piece → List Char
  | .literal c => [c]
  | .reference digits => (trace.entry digits).display.toList

/-- A text that is no reference as a whole, with the references in it replaced. -/
def fill (trace : Trace) (text : String) : String :=
  String.ofList ((pieces text.toList).flatMap trace.render)

mutual

/-- The argument with every text in it that is a reference replaced by its entry;
other texts become `other`. -/
def substitute (trace : Trace) (other : String → String) : Json → Json
  | .string s =>
      match reference? s.toList with
      | some digits => trace.entry digits
      | none => .string (other s)
  | .array items => .array (substituteItems trace other items)
  | .object members => .object (substituteMembers trace other members)
  | value => value

def substituteItems (trace : Trace) (other : String → String) : List Json → List Json
  | [] => []
  | item :: rest => trace.substitute other item :: substituteItems trace other rest

def substituteMembers (trace : Trace) (other : String → String) :
    List (String × Json) → List (String × Json)
  | [] => []
  | (key, value) :: rest => (key, trace.substitute other value) :: substituteMembers trace other rest

end

/-- The argument of a call: references as a whole are replaced. -/
def resolve (trace : Trace) (argument : Json) : Json :=
  trace.substitute id argument

/-- The argument of an assignment: references inside texts are replaced as well. -/
def interpolate (trace : Trace) (argument : Json) : Json :=
  trace.substitute trace.fill argument

end Trace

end Reshape
