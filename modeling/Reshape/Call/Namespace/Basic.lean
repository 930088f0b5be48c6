/-
Module: Reshape.Call.Namespace.Basic
Purpose: the namespaces that a call name may select.
Main exports: Namespace.find?
Trusted boundary: none
-/
import Reshape.Call.Namespace.Container
import Reshape.Call.Namespace.Date
import Reshape.Call.Namespace.JsonText
import Reshape.Call.Namespace.Mathematics

namespace Reshape.Namespace

/-- The namespace with a given name, used as the arguments say. The current value
plays no part. A member that a namespace lacks is not found. -/
def find? (now : Calendar.Moment) (name : String) (args : List Json) :
    Option (Except CallError Json) :=
  let (use, rest) := Invocation.split args
  match name with
  | "Date" => date? now use rest
  | "Number" => (number? use rest).map .ok
  | "String" => (string? use rest).map .ok
  | "Boolean" => (boolean? use rest).map .ok
  | "Array" => array? use rest
  | "Object" => (object? use rest).map .ok
  | "Math" => math? use rest
  | "JSON" => json? use rest
  | _ => none

end Reshape.Namespace
