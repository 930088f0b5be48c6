/-
Module: Reshape.Program.Stored
Purpose: programs as stored data: how they are written, and which data are read
  back as a program.
Main exports: Program.toJson, Program.parse?, FragmentTable.toJson
Trusted boundary: stands for the readers and printers that are derived from the declarations of
  rules and operations
-/
import Reshape.Json.Reader
import Reshape.Program.Operation
import Reshape.Yaml.Document

/-!
# Stored programs

A program is a list of rules. Unknown fields are passed over, repeated ones are an
error, and missing operations are none; all other fields are required. A rule is read
from its fields by name; JSON also allows the list of them in order. An operation names
its kind in the field `op` and may be a list as well.
-/

namespace Reshape

namespace Scope

/-- The name under which a scope is stored. -/
def word : Scope → String
  | .current => "self"
  | .parent => "parent"
  | .root => "root"

def ofWord? (s : String) : Option Scope :=
  [current, parent, root].find? (·.word == s)

/-- A scope is stored as its name, or as a map from its name to nothing. -/
def ofStored? : Stored → Option Scope
  | .map [(key, .leaf _ .null)] => key.string?.bind ofWord?
  | .map [(key, .map [])] => key.string?.bind ofWord?
  | other => other.string?.bind ofWord?

end Scope

namespace Operation

/-- The kinds of operations, as named in the field `op`. -/
inductive Kind where
  | navigate
  | each
  | hoist
  | rename
  | assign
  | call
  deriving DecidableEq, Repr

namespace Kind

def word : Kind → String
  | .navigate => "navigate"
  | .each => "each"
  | .hoist => "hoist"
  | .rename => "rename"
  | .assign => "assign"
  | .call => "call"

/-- All kinds, in the order of their numbers. -/
def all : List Kind := [navigate, each, hoist, rename, assign, call]

def ofWord? (s : String) : Option Kind :=
  all.find? (·.word == s)

/-- The kind in the field `op` of a rule's own operation: any leaf with its text. -/
def ofOuter? (tag : Stored) : Option Kind :=
  tag.text?.bind ofWord?

/-- The kind in the field `op` inside `each`: its name, or its number. -/
def ofInner? : Stored → Option Kind
  | .leaf _ (.integer i) => if 0 ≤ i then all[i.toNat]? else none
  | other => other.string?.bind ofWord?

/-- The fields of a kind, besides `op`. -/
def fieldNames : Kind → List String
  | .navigate => ["scope", "path"]
  | .each => ["operations"]
  | .hoist => ["keep"]
  | .rename => ["key"]
  | .assign => ["args"]
  | .call => ["name", "args"]

end Kind

mutual

/-- The stored form, with the kind first. -/
def toJson : Operation → Json
  | .navigate scope path =>
      .object [("op", .string "navigate"), ("scope", .string scope.word), ("path", .string path)]
  | .each operations => .object [("op", .string "each"), ("operations", .array (listToJson operations))]
  | .hoist keep => .object [("op", .string "hoist"), ("keep", .bool keep)]
  | .rename key => .object [("op", .string "rename"), ("key", .string key)]
  | .assign args => .object [("op", .string "assign"), ("args", .array args)]
  | .call name args =>
      .object [("op", .string "call"), ("name", .string name), ("args", .array args)]

def listToJson : List Operation → List Json
  | [] => []
  | operation :: rest => operation.toJson :: listToJson rest

end

/-- Whether a key stands for the field of this name and number. -/
def isKeyOf (name : String) (number : Nat) : Stored → Bool
  | .leaf _ (.string s) => s == name
  | .leaf _ (.integer i) => i == number
  | _ => false

/-- Whether a key can stand for a field at all: by its name, or by its number. -/
def isKey : Stored → Bool
  | .leaf _ (.string _) => true
  | .leaf _ (.integer i) => 0 ≤ i
  | _ => false

/-- The values of the fields with these names, the first of which has this number. -/
def namedFields? (entries : List (Stored × Stored)) : Nat → List String → Option (List Stored)
  | _, [] => some []
  | number, name :: rest =>
      match Stored.field (isKeyOf name number) entries, namedFields? entries (number + 1) rest with
      | .once value, some values => some (value :: values)
      | _, _ => none

/-- The values of the named fields: the entries of a map, or the items of a list that has
exactly as many. -/
def fields? (names : List String) : Stored → Option (List Stored)
  | .map entries => if entries.all (isKey ·.1) then namedFields? entries 0 names else none
  | .list items => if items.length = names.length then some items else none
  | _ => none

/-- The kind and the other fields of a stored operation: `op` names an entry of a
map, or is the first item of a list. -/
def split? (kindOf? : Stored → Option Kind) : Stored → Option (Kind × Stored)
  | .map entries =>
      match Stored.field (·.string? == some "op") entries with
      | .once tag => (kindOf? tag).map (·, .map (entries.filter (·.1.string? != some "op")))
      | _ => none
  | .list (tag :: items) => (kindOf? tag).map (·, .list items)
  | _ => none

/-- Read an operation; `fuel` bounds the nesting of `each`. -/
def read? (kindOf? : Stored → Option Kind) : Nat → Stored → Option Operation
  | 0, _ => none
  | fuel + 1, stored => do
      let (kind, rest) ← split? kindOf? stored
      if !rest.isPlain then none
      let values ← fields? kind.fieldNames rest
      match kind, values with
      | .navigate, [scope, path] => some (.navigate (← Scope.ofStored? scope) (← path.string?))
      | .each, [operations] =>
          let items ← operations.list?
          some (.each (← items.mapM (read? Kind.ofInner? fuel)))
      | .hoist, [keep] => some (.hoist (← keep.bool?))
      | .rename, [key] => some (.rename (← key.string?))
      | .assign, [args] => some (.assign (← (← args.list?).mapM Stored.toJson?))
      | .call, [name, args] =>
          some (.call (← name.string?) (← (← args.list?).mapM Stored.toJson?))
      | _, _ => none

end Operation

namespace Operation

/-- The operation that stored data denote. -/
def ofStored? (stored : Stored) : Option Operation :=
  read? Kind.ofOuter? (stored.depth + 1) stored

end Operation

namespace Rule

/-- The stored form. -/
def toJson (rule : Rule) : Json :=
  .object [("address", .string rule.address.text),
    ("operations", .array (Operation.listToJson rule.operations))]

/-- A rule from its two fields; missing operations are none. -/
def ofFields? (address : Stored) (operations : Option Stored) : Option Rule := do
  let text ← address.text?
  match operations with
  | none => some ⟨⟨text⟩, []⟩
  | some stored =>
      let items ← stored.listOrNothing?
      some ⟨⟨text⟩, ← items.mapM Operation.ofStored?⟩

/-- The rule that stored data denote. -/
def ofStored? (format : Stored.Format) : Stored → Option Rule
  | .map entries =>
      if entries.all (·.1.text?.isSome) then
        match Stored.field (·.text? == some "address") entries,
            Stored.field (·.text? == some "operations") entries with
        | .once address, .missing => ofFields? address none
        | .once address, .once operations => ofFields? address (some operations)
        | _, _ => none
      else none
  | .list [address] => if format = .json then ofFields? address none else none
  | .list [address, operations] =>
      if format = .json then ofFields? address (some operations) else none
  | .tagged inner => ofStored? format inner
  | _ => none

end Rule

namespace Program

/-- The stored form of a program. -/
def toJson (program : Program) : Json :=
  .array (program.map Rule.toJson)

/-- The program that stored data denote. -/
def ofStored? (format : Stored.Format) (stored : Stored) : Option Program :=
  stored.listOrNothing?.bind fun items => items.mapM (Rule.ofStored? format)

/-- The program that a JSON value denotes. -/
def ofJson? (value : Json) : Option Program :=
  ofStored? .json (.ofJson value)

/-- The data that text in a format writes. -/
def storedOfText? : Stored.Format → String → Option Stored
  | .json, text => (Json.parseRaw? text).map .ofJson
  | .yaml, text => Stored.ofYaml? text

/-- The program that text in a format writes. -/
def parse? (format : Stored.Format) (text : String) : Option Program :=
  (storedOfText? format text).bind (ofStored? format)

end Program

namespace FragmentTable

/-- The stored form: one member a fragment. -/
def toJson (table : FragmentTable) : Json :=
  .object (table.map fun (name, rules) => (name, Program.toJson rules))

end FragmentTable

end Reshape
