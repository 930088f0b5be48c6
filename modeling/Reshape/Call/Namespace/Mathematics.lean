/-
Module: Reshape.Call.Namespace.Mathematics
Purpose: the namespace Math.
Main exports: Namespace.math?
Trusted boundary: none
-/
import Reshape.Call.Namespace.Scalar

namespace Reshape.Namespace

/-- The greater of two numbers; NaN gives way to the other. -/
def greater (x y : Float) : Float :=
  if y.isNaN then x else if x < y || x.isNaN then y else x

/-- The lesser of two numbers; NaN gives way to the other. -/
def lesser (x y : Float) : Float :=
  if y.isNaN then x else if y < x || x.isNaN then y else x

/-- One, negative if the number is; zero and NaN stay as they are. -/
def signum (x : Float) : Float :=
  if x == 0 || x.isNaN then x else if x < 0 then -1 else 1

/-- A member of the namespace as a number. -/
def mathMember? (member : String) (args : List Json) : Option Float :=
  let x := (arg args 0).toNumber
  match member with
  | "PI" => some 3.141592653589793
  | "E" => some 2.718281828459045
  | "abs" => some x.abs
  | "ceil" => some (Double.ceiling x)
  | "floor" => some (Double.floor x)
  | "round" => some (Double.floor (x + 0.5))
  | "trunc" => some (Double.truncate x)
  | "sign" => some (signum x)
  | "sqrt" => some x.sqrt
  | "pow" => some (x.pow (arg args 1).toNumber)
  | "max" => some ((args.map Json.toNumber).foldl greater (-1.0 / 0.0))
  | "min" => some ((args.map Json.toNumber).foldl lesser (1.0 / 0.0))
  | _ => none

def math? (use : Invocation) (args : List Json) : Option (Except CallError Json) :=
  match use with
  | .static member => (mathMember? member args).map fun x => .ok (.ofFloat x)
  | _ => some (.error (.staticOnly "Math"))

end Reshape.Namespace
