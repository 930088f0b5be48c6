/-
Module: Reshape.Call.Member.Basic
Purpose: the members that values have by their kind.
Main exports: Member.find?
Trusted boundary: none
-/
import Reshape.Call.Member.Items
import Reshape.Call.Member.Number

namespace Reshape.Member

/-- The member of a value with a given name, applied to arguments; null and objects
have none. -/
def find? (value : Json) (name : String) (args : List Json) : Option (Except CallError Json) :=
  match value with
  | .string s => ofText? s name args
  | .array items => (ofItems? items name args).map .ok
  | .number n => (ofNumber? n name args).map .ok
  | .bool _ => if name = "toString" then some (.ok (.string value.display)) else none
  | .null | .object _ => none

end Reshape.Member
