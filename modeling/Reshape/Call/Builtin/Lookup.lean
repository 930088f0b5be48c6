/-
Module: Reshape.Call.Builtin.Lookup
Purpose: reading and writing inside the current value along a path of keys.
Main exports: Builtin.pathKeys, Builtin.lookup?, Builtin.assign, Builtin.flatten,
  Builtin.unflatten, Builtin.pick
Trusted boundary: none
-/
import Reshape.Call.Registry
import Reshape.Json.Coercion
import Reshape.Tree.Address

/-!
# Paths of keys

A path is written as a text such as `a.b[0]` or as a list of keys. In an array a
key is an index if it reads as one. Writing creates the objects that are missing on
the way and may append one item to an array; where an array on the way has no place
for a key, nothing is written at all.
-/

namespace Reshape.Builtin

/-- The keys of a path argument. Brackets are written as dots, and empty keys are
left out. -/
def pathKeys : Json → List String
  | .array items => items.map Json.display
  | .string s =>
      let dotted := (s.toList.map fun c => if c = '[' then '.' else c).filter (· ≠ ']')
      ((Text.splitChar '.' dotted).filter (· ≠ [])).map String.ofList
  | .null => []
  | other => [other.display]

/-- The index that a key reads as: decimal digits, with a plus sign at most, up to
`maxUInt64`. -/
def keyIndex? (key : String) : Option Nat :=
  let digits := match key.toList with
    | '+' :: rest => rest
    | s => s
  let n := Decimal.ofDigits digits
  if digits.isEmpty || !digits.all Char.isDigit || maxUInt64 < n then none else some n

/-- One step along a path. -/
def childAt? (value : Json) (key : String) : Option Json :=
  match value with
  | .object members => Members.get? key members
  | .array items => (keyIndex? key).bind fun i => items[i]?
  | _ => none

/-- The value at a path. -/
def lookup? (value : Json) : List String → Option Json
  | [] => some value
  | key :: rest => (childAt? value key).bind fun inner => lookup? inner rest

/-- What a value is written into: itself, or a new object when the path goes on and
the value is no container. -/
def containerFor (value : Json) (rest : List String) : Json :=
  if !rest.isEmpty && !value.isContainer then .object [] else value

/-- The value with `replacement` written at a path. -/
def assign (value : Json) (replacement : Json) : List String → Json
  | [] => replacement
  | key :: rest =>
      match value with
      | .object members =>
          let slot := (Members.get? key members).getD .null
          .object (Members.insert key (assign (containerFor slot rest) replacement rest) members)
      | .array items =>
          match keyIndex? key with
          | some i =>
              match items[i]? with
              | some slot => .array (items.set i (assign (containerFor slot rest) replacement rest))
              | none =>
                  if i = items.length then
                    .array (items ++ [assign (containerFor .null rest) replacement rest])
                  else value
          | none => value
      | other => other

/-- The value at the path of the first argument, or the second argument where there
is none or null. -/
def get (value : Json) (args : List Json) : Json :=
  match lookup? value ((args[0]?.map pathKeys).getD []) with
  | none | some .null => args[1]?.getD .null
  | some found => found

/-- The value with the second argument written at the path of the first. -/
def set (value : Json) (args : List Json) : Json :=
  assign value (args[1]?.getD .null) ((args[0]?.map pathKeys).getD [])

mutual

/-- Add a value under a dotted key, opened if it is an object with members. -/
def flattenOnto (acc : Members) (key : String) : Json → Members
  | .object (first :: rest) => flattenMembers acc key (first :: rest)
  | other => Members.insert key other acc

/-- Add members under a common start of their keys. -/
def flattenMembers (acc : Members) (base : String) : List (String × Json) → Members
  | [] => acc
  | (key, value) :: rest =>
      let full := if base = "" then key else base ++ "." ++ key
      flattenMembers (flattenOnto acc full value) base rest

end

/-- An object with the members of inner objects under dotted keys. -/
def flatten : Json → Json
  | .object members => .object (flattenMembers [] "" members)
  | other => other

/-- An object with the values of dotted keys in inner objects. -/
def unflatten : Json → Json
  | .object members =>
      members.foldl (fun nested member =>
        assign nested member.2 ((Text.splitChar '.' member.1.toList).map String.ofList))
        (.object [])
  | other => other

/-- The keys to take and the keys to give them, from one argument of `pick`. -/
def pickKeys : Json → List (String × String)
  | .string key => [(key, key)]
  | .array [.string key] => [(key, key)]
  | .array [.string key, .string target] => [(key, target)]
  | .object members => members.filterMap fun (key, target) => target.string?.map (key, ·)
  | _ => []

/-- An object with the chosen members of the value, null for those it lacks. -/
def pick (value : Json) (args : List Json) : Json :=
  .object ((args.flatMap pickKeys).foldl (fun picked (key, target) =>
    Members.insert target ((value.member? key).getD .null) picked) [])

end Reshape.Builtin
