/-
Module: Reshape.Call.Builtin.Arithmetic
Purpose: functions that fold numbers into the current value.
Main exports: Builtin.arithmetic
Trusted boundary: none
-/
import Reshape.Call.Registry
import Reshape.Json.Coercion

namespace Reshape.Builtin

/-- Combine the value with every argument in turn, arrays among these opened. -/
def foldNumbers (op : Float → Float → Float) (value : Json) (args : List Json) : Json :=
  .ofFloat ((Json.flattenOnce args).foldl (fun acc arg => op acc arg.toNumber) value.toNumber)

def arithmeticOf (op : Float → Float → Float) : Registered :=
  ⟨fun value args => .ok (foldNumbers op value args), false⟩

def arithmetic : Registry := [
  ("add", arithmeticOf (· + ·)),
  ("sub", arithmeticOf (· - ·)),
  ("div", arithmeticOf (· / ·)),
  ("mul", arithmeticOf (· * ·)),
  ("mod", arithmeticOf Double.remainder)]

end Reshape.Builtin
