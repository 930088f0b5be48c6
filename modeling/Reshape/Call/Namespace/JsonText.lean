/-
Module: Reshape.Call.Namespace.JsonText
Purpose: the namespace JSON.
Main exports: Namespace.json?
Trusted boundary: none
-/
import Reshape.Call.Namespace.Scalar
import Reshape.Json.Reader

namespace Reshape.Namespace

/-- An indent argument asks for indented text when it is a string or a positive
number. -/
def wantsIndent : Option Json → Bool
  | some (.string _) => true
  | some indent => indent.toNumber > 0
  | none => false

/-- JSON text, indented when the third argument asks for it. -/
def stringify (args : List Json) : Json :=
  .string (if wantsIndent args[2]? then (arg args 0).indented else (arg args 0).compact)

def json? (use : Invocation) (args : List Json) : Option (Except CallError Json) :=
  match use with
  | .static "stringify" => some (.ok (stringify args))
  | .static "parse" =>
      match Json.parse? (arg args 0).display with
      | some value => some (.ok value)
      | none => some (.error .malformedJson)
  | .static _ => none
  | _ => some (.error (.staticOnly "JSON"))

end Reshape.Namespace
