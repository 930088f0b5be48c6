/-
Module: Reshape.Tree.Revision
Purpose: revising every match of an address, with edits of the enclosing object
  that wait until the match has its new value.
Main exports: Edit, Sight, Visitor, Revision, Json.revise
Trusted boundary: none
-/
import Reshape.Tree.Location

/-!
# Revising matches

The matches are found once, on the tree as it is at the start, and visited in that
order. A visitor gets the value of a match together with the tree around it, and
gives the new value and the edits to make to the object that encloses the match.
The edits are made after the new value is in place and before the next visit. When
a visitor fails, earlier matches stay revised and the failing one is untouched.
-/

namespace Reshape

/-- A change to the members of the object that encloses a match. It is told the
key of the match. -/
abbrev Edit := String → Members → Members

/-- What a visitor sees around the value of a match. -/
structure Sight where
  root : Json
  location : Location

namespace Sight

/-- The container that encloses the match. -/
def parent? (sight : Sight) : Option Json :=
  sight.root.enclosing? sight.location

end Sight

/-- A step of revising: from a state and the value of a match to the next state,
the new value and the edits. -/
abbrev Visitor (σ ε : Type) := σ → Json → Sight → Except ε (σ × Json × List Edit)

/-- What revising leaves behind. -/
structure Revision (σ ε : Type) where
  tree : Json
  state : σ
  written : Nat
  failure : Option ε

namespace Json

/-- Make edits to the object that encloses a location; a location that is no member
of an object has none. -/
def editAround (tree : Json) (location : Location) (edits : List Edit) : Json :=
  match location.split? with
  | some (parent, .key key) =>
      match tree.at? parent with
      | some (.object members) =>
          let edited := edits.foldl (fun acc edit => edit key acc) members
          (tree.set? (.object edited) parent).getD tree
      | _ => tree
  | _ => tree

/-- Visit locations in turn. -/
def reviseEach {σ ε : Type} (visit : Visitor σ ε) (tree : Json) (state : σ) (written : Nat) :
    List Location → Revision σ ε
  | [] => ⟨tree, state, written, none⟩
  | location :: rest =>
      match tree.at? location with
      | none => reviseEach visit tree state written rest
      | some current =>
          match visit state current ⟨tree, location⟩ with
          | .error e => ⟨tree, state, written, some e⟩
          | .ok (next, value, edits) =>
              match tree.set? value location with
              | none => reviseEach visit tree next written rest
              | some changed =>
                  reviseEach visit (changed.editAround location edits) next (written + 1) rest

/-- Revise every match of an address. -/
def revise {σ ε : Type} (visit : Visitor σ ε) (tree : Json) (address : Address) (state : σ) :
    Revision σ ε :=
  reviseEach visit tree state 0 (tree.find address)

end Json

end Reshape
