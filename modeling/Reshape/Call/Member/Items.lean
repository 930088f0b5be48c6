/-
Module: Reshape.Call.Member.Items
Purpose: the members of arrays.
Main exports: Member.ofItems?, Member.flattenDepth
Trusted boundary: none
-/
import Reshape.Call.Member.Text

namespace Reshape.Member

open Reshape.Json (index? sliceRange)

/-- Open arrays within a list, and arrays within these, to the given depth. -/
def flattenDepth : Nat → List Json → List Json
  | 0, items => items
  | depth + 1, items =>
      items.flatMap fun item => match item with
        | .array inner => flattenDepth depth inner
        | other => [other]

/-- The texts of the items with a separator between them; null has no text. -/
def joinItems (separator : String) (items : List Json) : String :=
  separator.intercalate (Json.displayItems items)

def sliceItems (items args : List Json) : List Json :=
  let range := sliceRange args[0]? args[1]? items.length
  between range.1 range.2 items

/-- The item at a position from either end, or null. -/
def itemFrom (items args : List Json) : Json :=
  ((positionOf? ((index? args[0]?).getD 0) items.length).bind (items[·]?)).getD .null

/-- The position of the first item that agrees with the argument, or -1. -/
def indexOfItem (items args : List Json) : Json :=
  match items.findIdx? (·.agrees (args[0]?.getD .null)) with
  | some position => .ofInt position
  | none => .ofInt (-1)

/-- The items in the order of their texts; items with the same text keep theirs. -/
def sortItems (items : List Json) : List Json :=
  ((items.map fun item => (item.display, item)).mergeSort fun a b => a.1 ≤ b.1).map Prod.snd

/-- The member of an array with a given name, applied to arguments. -/
def ofItems? (items : List Json) (name : String) (args : List Json) : Option Json :=
  match name with
  | "join" => some (.string (joinItems ((textArg? args 0).getD ",") items))
  | "toString" => some (.string (Json.array items).display)
  | "slice" => some (.array (sliceItems items args))
  | "at" => some (itemFrom items args)
  | "concat" => some (.array (items ++ Json.flattenOnce args))
  | "reverse" => some (.array items.reverse)
  | "includes" => some (.bool (items.any (·.agrees (args[0]?.getD .null))))
  | "indexOf" => some (indexOfItem items args)
  | "flat" => some (.array (flattenDepth (max ((index? args[0]?).getD 1) 0).toNat items))
  | "sort" => some (.array (sortItems items))
  | _ => none

end Reshape.Member
