/-
Module: Reshape.Tree.Location
Purpose: concrete places in a JSON tree, how they are read and written, and which
  of them an address matches.
Main exports: Step, Location, Json.at?, Json.set?, Json.locate, Json.read
Trusted boundary: none
-/
import Reshape.Json.Basic
import Reshape.Tree.Address

/-!
# Locations

A location is the list of steps from the root to a place. An address matches a
location when its segments are the keys among the steps: an array on the way is
crossed at every index, so one address can match any number of locations.
-/

namespace Reshape

/-- One step into a container. -/
inductive Step where
  | key (name : String)
  | index (position : Nat)
  deriving DecidableEq, Repr

/-- The steps from the root to a place. -/
abbrev Location := List Step

namespace Step

/-- A key as it is, an index in brackets. -/
def display : Step → String
  | .key name => name
  | .index position => "[" ++ toString position ++ "]"

end Step

namespace Location

/-- The steps after the first one; only a key needs a dot in front of it. -/
def displayRest : Location → String
  | [] => ""
  | .key name :: rest => "." ++ name ++ displayRest rest
  | .index position :: rest => (Step.index position).display ++ displayRest rest

/-- `$` for the root, else the steps: `list[0].id`. -/
def display : Location → String
  | [] => "$"
  | first :: rest => first.display ++ displayRest rest

/-- The last step and the location it starts from; the root has none. -/
def split? : Location → Option (Location × Step)
  | [] => none
  | [last] => some ([], last)
  | step :: rest => (split? rest).map fun (before, last) => (step :: before, last)

/-- The location of the enclosing container. -/
def parent? (location : Location) : Option Location :=
  (split? location).map Prod.fst

/-- The key or index within the enclosing container. -/
def last? (location : Location) : Option Step :=
  (split? location).map Prod.snd

end Location

namespace Json

/-- The value one step into a container. -/
def child? : Json → Step → Option Json
  | .object members, .key name => Members.get? name members
  | .array items, .index position => items[position]?
  | _, _ => none

/-- The container with the value at one step replaced; nothing is added. -/
def setChild (container : Json) (step : Step) (value : Json) : Json :=
  match container, step with
  | .object members, .key name => .object (Members.insert name value members)
  | .array items, .index position => .array (items.set position value)
  | other, _ => other

/-- The value at a location. -/
def at? (tree : Json) : Location → Option Json
  | [] => some tree
  | step :: rest => (tree.child? step).bind fun inner => inner.at? rest

/-- The tree with the value at a location replaced, when the location exists. -/
def set? (tree : Json) (value : Json) : Location → Option Json
  | [] => some value
  | step :: rest =>
      (tree.child? step).bind fun inner =>
        (inner.set? value rest).map fun changed => tree.setChild step changed

/-- The container that encloses a location. -/
def enclosing? (tree : Json) (location : Location) : Option Json :=
  location.parent?.bind tree.at?

mutual

/-- The locations that a list of response keys matches, in depth-first order. -/
def locate : Json → List String → List Location
  | _, [] => [[]]
  | .array items, name :: names => locateItems (name :: names) 0 items
  | .object members, name :: names => locateMember name names members
  | _, _ :: _ => []

/-- Matches within the items of an array, whose first item has the given index. -/
def locateItems (names : List String) (position : Nat) : List Json → List Location
  | [] => []
  | item :: rest =>
      (item.locate names).map (.index position :: ·) ++ locateItems names (position + 1) rest

/-- Matches within the member that has the given name. -/
def locateMember (name : String) (names : List String) : List (String × Json) → List Location
  | [] => []
  | (key, value) :: rest =>
      if key = name then (value.locate names).map (.key name :: ·)
      else locateMember name names rest

end

/-- The locations an address matches. -/
def find (tree : Json) (address : Address) : List Location :=
  tree.locate address.segments

/-- The values an address matches. -/
def read (tree : Json) (address : Address) : List Json :=
  (tree.find address).filterMap tree.at?

end Json

end Reshape
