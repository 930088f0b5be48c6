/-
Module: Reshape.Program.Operation
Purpose: operations, how a directive argument denotes one, and rules.
Main exports: Scope, Operation, Operation.ofArgument, Rule, Program, FragmentTable
Trusted boundary: none
-/
import Reshape.Json.Printer
import Reshape.Tree.Address

/-!
# Programs

A program is a list of rules in the order in which they run. A rule is an address
and the chain of operations that is run at every match of it. One argument of a
directive denotes one operation: a few names have a meaning of their own and every
other name is the call of a function.
-/

namespace Reshape

/-- The value that a path expression is evaluated on. -/
inductive Scope where
  /-- The value being revised. -/
  | current
  /-- The container that encloses it. -/
  | parent
  /-- The whole response. -/
  | root
  deriving DecidableEq, Repr

/-- One step of a rule's chain. -/
inductive Operation where
  /-- Evaluate a path expression. -/
  | navigate (scope : Scope) (path : String)
  /-- Run a chain on every item of an array, or once on any other value. -/
  | each (operations : List Operation)
  /-- Merge the members of the value into the enclosing object. -/
  | hoist (keep : Bool)
  /-- Move the value to another key of the enclosing object. -/
  | rename (key : String)
  /-- Replace the value by arguments. -/
  | assign (args : List Json)
  /-- Call a function on the value. -/
  | call (name : String) (args : List Json)
  deriving Inhabited

namespace Operation

/-- An argument read as a text: a string is itself, null is empty, and any other
value is its JSON text. -/
def textOf : Json → String
  | .string s => s
  | .null => ""
  | other => other.compact

/-- An argument read as an argument list: the items of an array, else one argument. -/
def argsOf : Json → List Json
  | .array items => items
  | other => [other]

/-- The operation that the argument `name: value` denotes, where `chain` is the
chain that `value` denotes. -/
def named (name : String) (value : Json) (chain : List Operation) : Operation :=
  if name = "self" ∨ name = "path" then .navigate .current (textOf value)
  else if name = "parent" then .navigate .parent (textOf value)
  else if name = "root" then .navigate .root (textOf value)
  else if name = "each" ∨ name = "map" then .each chain
  else if name = "hoist" then .hoist (match value with | .bool keep => keep | _ => false)
  else if name = "rename" then .rename (textOf value)
  else if name = "assign" then .assign (argsOf value)
  else .call name (argsOf value)

mutual

/-- The chain that the argument of `each` denotes: a string is a call without
arguments, an object has one operation a member, and the chains of a list follow
one another. Other values denote the empty chain. -/
def chainOf : Json → List Operation
  | .string name => [.call name []]
  | .array items => chainOfItems items
  | .object members => chainOfMembers members
  | _ => []

def chainOfItems : List Json → List Operation
  | [] => []
  | item :: rest => chainOf item ++ chainOfItems rest

def chainOfMembers : List (String × Json) → List Operation
  | [] => []
  | (name, value) :: rest => named name value (chainOf value) :: chainOfMembers rest

end

/-- The operation that a directive argument denotes. -/
def ofArgument (name : String) (value : Json) : Operation :=
  named name value (chainOf value)

/-- A short name for reports. -/
def label : Operation → String
  | .navigate .current _ => "self"
  | .navigate .parent _ => "parent"
  | .navigate .root _ => "root"
  | .each _ => "each"
  | .hoist _ => "hoist"
  | .rename _ => "rename"
  | .assign _ => "assign"
  | .call name _ => name

end Operation

/-- An address and the chain to run at every match of it. -/
structure Rule where
  address : Address
  operations : List Operation
  deriving Inhabited

namespace Rule

/-- The rule with its address placed under `base`. -/
def under (base : Address) (rule : Rule) : Rule :=
  { rule with address := base.join rule.address }

end Rule

/-- Rules in the order in which they run. -/
abbrev Program := List Rule

/-- The rules of every fragment, addressed from the fragment, in the order in which
the fragments are declared. -/
abbrev FragmentTable := List (String × List Rule)

end Reshape
