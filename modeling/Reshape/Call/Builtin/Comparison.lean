/-
Module: Reshape.Call.Builtin.Comparison
Purpose: functions that compare the current value, and the logical ones.
Main exports: Builtin.conditional, Builtin.comparisons
Trusted boundary: none
-/
import Reshape.Call.Registry
import Reshape.Json.Coercion

/-!
# Comparisons

A comparison with one argument tells whether the value passes against it. With
more arguments it is a switch: they are pairs of a test and a result, the first
test that the value passes decides, and an argument left over is the default.
-/

namespace Reshape.Builtin

/-- A test of the current value against an argument. -/
abbrev Test := Json → Json → Bool

def isGreater : Test := fun a b => a.compare? b == some .gt
def isGreaterOrEqual : Test := fun a b => a.compare? b == some .gt || a.compare? b == some .eq
def isLess : Test := fun a b => a.compare? b == some .lt
def isLessOrEqual : Test := fun a b => a.compare? b == some .lt || a.compare? b == some .eq

/-- The result of the first pair whose test passes, else the argument left over, else
the value. -/
def switch (test : Test) (value : Json) : List Json → Json
  | [] => value
  | [fallback] => fallback
  | candidate :: result :: rest =>
      if test value candidate then result else switch test value rest

/-- A single argument is tested, several are a switch. -/
def conditional (test : Test) (value : Json) : List Json → Json
  | [candidate] => .bool (test value candidate)
  | args => switch test value args

/-- Some item of the value is found among the arguments, arrays among these opened. -/
def containsAny (value : Json) (args : List Json) : Bool :=
  let haystack := Json.flattenOnce args
  value.toItems.any fun item => haystack.any fun candidate => item.agrees candidate

/-- The value and the arguments as one list, arrays opened. -/
def withValue (value : Json) (args : List Json) : List Json :=
  Json.flattenOnce (value :: args)

def conditionalOf (test : Test) : Registered :=
  ⟨fun value args => .ok (conditional test value args), false⟩

def truthOf (f : Json → List Json → Bool) : Registered :=
  ⟨fun value args => .ok (.bool (f value args)), false⟩

def comparisons : Registry := [
  ("eq", conditionalOf Json.agrees),
  ("ne", conditionalOf fun a b => !a.agrees b),
  ("gt", conditionalOf isGreater),
  ("gte", conditionalOf isGreaterOrEqual),
  ("lt", conditionalOf isLess),
  ("lte", conditionalOf isLessOrEqual),
  ("in", truthOf containsAny),
  ("nin", truthOf fun value args => !containsAny value args),
  ("not", truthOf fun value _ => !value.isTruthy),
  ("or", truthOf fun value args => (withValue value args).any Json.isTruthy),
  ("and", truthOf fun value args => (withValue value args).all Json.isTruthy)]

end Reshape.Builtin
