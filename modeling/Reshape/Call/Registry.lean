/-
Module: Reshape.Call.Registry
Purpose: functions by name.
Main exports: Function, Registered, Registry
Trusted boundary: none
-/
import Reshape.Call.Error

namespace Reshape

/-- A function gets the current value and the arguments of the call, and gives the
value to go on with. -/
abbrev Function := Json → List Json → Except CallError Json

/-- A function with the way it treats null. -/
structure Registered where
  run : Function
  /-- The function also runs when the current value is null. -/
  nullSafe : Bool

/-- Functions by name; a name is registered at most once. -/
abbrev Registry := List (String × Registered)

namespace Registry

def find? (registry : Registry) (name : String) : Option Registered :=
  registry.lookup name

/-- Register a function; an earlier one of the same name is replaced. -/
def register (registry : Registry) (name : String) (entry : Registered) : Registry :=
  match registry with
  | [] => [(name, entry)]
  | (other, old) :: rest =>
      if other = name then (name, entry) :: rest else (other, old) :: register rest name entry

def has (registry : Registry) (name : String) : Bool :=
  (registry.find? name).isSome

/-- Whether a registered function runs on null. -/
def isNullSafe (registry : Registry) (name : String) : Bool :=
  ((registry.find? name).map (·.nullSafe)).getD false

/-- Call a registered function. -/
def call (registry : Registry) (name : String) (value : Json) (args : List Json) :
    Except CallError Json :=
  match registry.find? name with
  | some entry => entry.run value args
  | none => .error (.unknownFunction name)

/-- The registered names in the order of their characters. -/
def names (registry : Registry) : List String :=
  (registry.map Prod.fst).mergeSort (fun a b => a ≤ b)

end Registry

end Reshape
