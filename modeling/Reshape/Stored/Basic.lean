/-
Module: Reshape.Stored.Basic
Purpose: data of a stored document, whatever its format, and what can be read from it.
Main exports: Stored, Stored.Format, Stored.ofJson, Stored.toJson?, Stored.field
Trusted boundary: stands for the way in which data are read into declared types, which is no part of
  the program
-/
import Reshape.Decimal.Binary
import Reshape.Json.Basic

/-!
# Stored data

Programs and settings are stored as JSON or as YAML. Both are first brought into
`Stored`, data whose entries are as written: keys may repeat and need not be strings,
and integers may be of any size.
-/

namespace Reshape

/-- The formats in which data are stored. -/
inductive Stored.Format where
  | json
  | yaml
  deriving DecidableEq, Repr

/-- A stored value that has no parts. -/
inductive Stored.Leaf where
  | null
  | bool (value : Bool)
  | integer (value : Int)
  | double (value : Float)
  | string (value : String)

/-- Data of a stored document. -/
inductive Stored where
  /-- `written` is the text of a leaf in a format where every leaf can be read as
  text; it is absent in a format that quotes its strings. -/
  | leaf (written : Option String) (value : Stored.Leaf)
  | list (items : List Stored)
  | map (entries : List (Stored × Stored))
  /-- Data under a type tag that nothing here understands. -/
  | tagged (inner : Stored)

namespace Stored

/-! ## From JSON -/

mutual

/-- JSON data, with members as written. -/
def ofJson : Json → Stored
  | .null => .leaf none .null
  | .bool b => .leaf none (.bool b)
  | .number (.integer value _) => .leaf none (.integer value)
  | .number (.double x) => .leaf none (.double x)
  | .string s => .leaf (some s) (.string s)
  | .array items => .list (ofItems items)
  | .object members => .map (ofMembers members)

def ofItems : List Json → List Stored
  | [] => []
  | item :: rest => ofJson item :: ofItems rest

def ofMembers : List (String × Json) → List (Stored × Stored)
  | [] => []
  | (key, value) :: rest => (.leaf (some key) (.string key), ofJson value) :: ofMembers rest

end

/-! ## Readings -/

/-- The text of a leaf, whatever its kind; a tag makes no difference. -/
def text? : Stored → Option String
  | .leaf written _ => written
  | .tagged inner => inner.text?
  | _ => none

/-- A string, and not merely a leaf with a text. -/
def string? : Stored → Option String
  | .leaf _ (.string s) => some s
  | _ => none

def bool? : Stored → Option Bool
  | .leaf _ (.bool b) => some b
  | _ => none

/-- The items of a list. -/
def list? : Stored → Option (List Stored)
  | .list items => some items
  | _ => none

/-- The items of a list where nothing written at all counts as the empty list. -/
def listOrNothing? : Stored → Option (List Stored)
  | .list items => some items
  | .leaf (some "") .null => some []
  | .tagged inner => inner.listOrNothing?
  | _ => none

mutual

/-- The JSON value of plain data: keys must be strings and integers must fit 64
bits. A double that is not finite becomes null. -/
def toJson? : Stored → Option Json
  | .leaf _ .null => some .null
  | .leaf _ (.bool b) => some (.bool b)
  | .leaf _ (.integer i) => (Json.Number.ofInt? i).map .number
  | .leaf _ (.double x) => some (if Binary.isFinite x then .number (.double x) else .null)
  | .leaf _ (.string s) => some (.string s)
  | .list items => (toItems? items).map .array
  | .map entries => (toMembers? entries).map fun members => .object (Members.insertAll [] members)
  | .tagged _ => none

def toItems? : List Stored → Option (List Json)
  | [] => some []
  | item :: rest =>
      match item.toJson?, toItems? rest with
      | some value, some values => some (value :: values)
      | _, _ => none

def toMembers? : List (Stored × Stored) → Option Members
  | [] => some []
  | (key, item) :: rest =>
      match key.string?, item.toJson?, toMembers? rest with
      | some name, some value, some members => some ((name, value) :: members)
      | _, _, _ => none

end

mutual

/-- Plain data: no tag that nothing understands, and no integer beyond 64 bits. -/
def isPlain : Stored → Bool
  | .leaf _ (.integer i) => (Json.Number.ofInt? i).isSome
  | .leaf _ _ => true
  | .list items => allPlain items
  | .map entries => entriesPlain entries
  | .tagged _ => false

def allPlain : List Stored → Bool
  | [] => true
  | item :: rest => item.isPlain && allPlain rest

def entriesPlain : List (Stored × Stored) → Bool
  | [] => true
  | (key, item) :: rest => key.isPlain && item.isPlain && entriesPlain rest

end

/-- What an entry list says about one field. -/
inductive Field where
  | missing
  | once (value : Stored)
  | repeated

/-- The entries whose key `names` accepts, as one field. -/
def field (names : Stored → Bool) (entries : List (Stored × Stored)) : Field :=
  match entries.filter (names ·.1) with
  | [] => .missing
  | [(_, value)] => .once value
  | _ => .repeated

mutual

/-- How deep data nest. -/
def depth : Stored → Nat
  | .leaf _ _ => 1
  | .list items => depthItems items + 1
  | .map entries => depthEntries entries + 1
  | .tagged inner => inner.depth + 1

def depthItems : List Stored → Nat
  | [] => 0
  | item :: rest => max item.depth (depthItems rest)

def depthEntries : List (Stored × Stored) → Nat
  | [] => 0
  | (_, item) :: rest => max item.depth (depthEntries rest)

end

end Stored

end Reshape
