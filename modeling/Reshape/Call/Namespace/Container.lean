/-
Module: Reshape.Call.Namespace.Container
Purpose: the namespaces Array and Object.
Main exports: Namespace.array?, Namespace.object?
Trusted boundary: none
-/
import Reshape.Call.Namespace.Scalar

namespace Reshape.Namespace

/-! ## Array -/

/-- A single number is a length, other arguments are the items. -/
def arrayOf : List Json → Except CallError Json
  | [.number n] =>
      match n.toInt? with
      | some i =>
          if i < 0 then .error (.arrayLength n)
          else (builtLength i.toNat "array").map fun length => .array (List.replicate length .null)
      | none => .error (.arrayLength n)
  | items => .ok (.array items)

/-- The characters of a string or the items of an array, else nothing. -/
def itemsFrom : Json → List Json
  | .string s => s.toList.map fun c => .string (String.ofList [c])
  | .array items => items
  | _ => []

def array? (use : Invocation) (args : List Json) : Option (Except CallError Json) :=
  match use with
  | .construct | .call => some (arrayOf args)
  | .static "isArray" => some (.ok (.bool (arg args 0).isArray))
  | .static "of" => some (.ok (.array args))
  | .static "from" => some (.ok (.array (itemsFrom (arg args 0))))
  | .static _ => none

/-! ## Object -/

def membersOf : Json → Members
  | .object members => members
  | _ => []

/-- The keys of an object, or the indexes of an array as texts. -/
def keysOf : Json → List Json
  | .object members => members.map fun (key, _) => .string key
  | .array items => (List.range items.length).map fun i => .string (toString i)
  | _ => []

def valuesOf : Json → List Json
  | .object members => members.map Prod.snd
  | .array items => items
  | _ => []

def entriesOf (value : Json) : List Json :=
  (membersOf value).map fun (key, item) => .array [.string key, item]

/-- An object from pairs of a key and a value. -/
def fromEntries (value : Json) : Json :=
  .object (value.toItems.foldl (fun acc entry =>
    match entry with
    | .array (key :: rest) => Members.insert key.display (rest.head?.getD .null) acc
    | _ => acc) [])

/-- The members of all arguments in one object. -/
def mergeAll (args : List Json) : Json :=
  .object ((args.drop 1).foldl (fun acc source => Members.insertAll acc (membersOf source))
    (membersOf (arg args 0)))

def object? (use : Invocation) (args : List Json) : Option Json :=
  match use with
  | .construct | .call => some (.object (membersOf (arg args 0)))
  | .static "keys" => some (.array (keysOf (arg args 0)))
  | .static "values" => some (.array (valuesOf (arg args 0)))
  | .static "entries" => some (.array (entriesOf (arg args 0)))
  | .static "fromEntries" => some (fromEntries (arg args 0))
  | .static "assign" => some (mergeAll args)
  | .static _ => none

end Reshape.Namespace
