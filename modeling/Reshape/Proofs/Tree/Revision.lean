/-
Module: Reshape.Proofs.Tree.Revision
Purpose: what one visit of a revision changes, and how revising a list of locations
  splits into parts.
Main exports: Json.editAround_member, Json.afterVisit, Json.reviseEach_cons,
  Json.at?_afterVisit_of_forks, Json.reviseEach_append
Trusted boundary: none
-/
import Mathlib.Data.List.Basic
import Reshape.Proofs.Tree.Matches
import Reshape.Tree.Revision

/-!
# One visit of a revision

A visit stores the new value and then makes the edits in the object around it, so all
that it changes lies at or below the enclosing container. The run over a list of
locations is the run over its first part followed, unless that failed, by the run over
the rest.
-/

namespace Reshape

namespace Location

theorem split?_concat (parent : Location) (last : Step) :
    split? (parent ++ [last]) = some (parent, last) := by
  induction parent with
  | nil => rfl
  | cons step parent ih =>
      obtain ⟨next, rest, more⟩ := List.exists_cons_of_ne_nil (l := parent ++ [last]) (by simp)
      rw [more] at ih
      simp [more, split?, ih]

end Location

namespace Json

open Location (Forks)

/-! ### Edits -/

/-- The edits around the root are dropped. -/
@[simp] theorem editAround_root (tree : Json) (edits : List Edit) :
    tree.editAround [] edits = tree := rfl

/-- The edits around a member are all made, in order, to the enclosing object. -/
theorem editAround_member {tree : Json} {parent : Location} {members : Members}
    (around : tree.at? parent = some (.object members)) (key : String) (edits : List Edit) :
    tree.set? (.object (edits.foldl (fun acc edit => edit key acc) members)) parent =
      some (tree.editAround (parent ++ [.key key]) edits) := by
  obtain ⟨edited, replaced⟩ := exists_set?_of_at? around
    (.object (edits.foldl (fun acc edit => edit key acc) members))
  simp [editAround, Location.split?_concat, around, replaced]

/-- Edits that are made are made to the object that encloses a member; around any other
location nothing happens. -/
theorem editAround_cases (tree : Json) (location : Location) (edits : List Edit) :
    tree.editAround location edits = tree ∨
      ∃ parent key members, location = parent ++ [.key key] ∧
        tree.at? parent = some (.object members) := by
  rcases location.eq_nil_or_concat' with rfl | ⟨parent, last, rfl⟩
  · exact .inl rfl
  · cases last with
    | index position => exact .inl (by simp [editAround, Location.split?_concat])
    | key key =>
        cases around : tree.at? parent with
        | none => exact .inl (by simp [editAround, Location.split?_concat, around])
        | some container =>
            cases container with
            | object members => exact .inr ⟨parent, key, members, rfl, around⟩
            | _ => exact .inl (by simp [editAround, Location.split?_concat, around])

/-- Without edits nothing changes. -/
@[simp] theorem editAround_nil (tree : Json) (location : Location) :
    tree.editAround location [] = tree := by
  rcases editAround_cases tree location [] with same | ⟨parent, key, members, rfl, around⟩
  · exact same
  · have made := editAround_member around key []
    rw [List.foldl_nil, set?_of_at? around, Option.some.injEq] at made
    exact made.symm

theorem at?_editAround_of_forks {location other : Location}
    (forks : Forks location.dropLast other) (tree : Json) (edits : List Edit) :
    (tree.editAround location edits).at? other = tree.at? other := by
  rcases editAround_cases tree location edits with same | ⟨parent, key, members, rfl, around⟩
  · rw [same]
  · rw [List.dropLast_concat] at forks
    exact at?_set?_of_forks forks (editAround_member around key edits)

/-! ### One visit -/

/-- The tree after a visit that gave a new value and edits. -/
def afterVisit (tree : Json) (location : Location) (value : Json) (edits : List Edit) : Json :=
  ((tree.set? value location).getD tree).editAround location edits

/-- A visit is not seen at a location that forks from the enclosing container. -/
theorem at?_afterVisit_of_forks {location other : Location}
    (forks : Forks location.dropLast other) (tree value : Json) (edits : List Edit) :
    (tree.afterVisit location value edits).at? other = tree.at? other := by
  rw [afterVisit, at?_editAround_of_forks forks]
  cases replaced : tree.set? value location with
  | none => rfl
  | some changed => exact at?_set?_of_forks forks.of_dropLast_left replaced

variable {σ ε : Type} {visit : Visitor σ ε}

/-- The visit of a location that exists, and what follows it. -/
theorem reviseEach_cons {tree current : Json} {location : Location}
    (found : tree.at? location = some current) (state : σ) (written : Nat)
    (rest : List Location) :
    reviseEach visit tree state written (location :: rest) =
      match visit state current ⟨tree, location⟩ with
      | .error e => ⟨tree, state, written, some e⟩
      | .ok (next, value, edits) =>
          reviseEach visit (tree.afterVisit location value edits) next (written + 1) rest := by
  simp only [reviseEach, found]
  cases visit state current ⟨tree, location⟩ with
  | error e => rfl
  | ok given =>
      obtain ⟨next, value, edits⟩ := given
      obtain ⟨changed, replaced⟩ := exists_set?_of_at? found value
      simp [replaced, afterVisit]

/-! ### Runs in parts -/

/-- Revising two lists of locations in turn; the second one is not reached when the first
one fails. -/
theorem reviseEach_append (tree : Json) (state : σ) (written : Nat)
    (locations more : List Location) :
    reviseEach visit tree state written (locations ++ more) =
      match reviseEach visit tree state written locations with
      | ⟨changed, next, count, none⟩ => reviseEach visit changed next count more
      | ⟨changed, next, count, some e⟩ => ⟨changed, next, count, some e⟩ := by
  induction locations generalizing tree state written with
  | nil => rfl
  | cons location locations ih =>
      cases found : tree.at? location with
      | none => simp only [List.cons_append, reviseEach, found, ih]
      | some current =>
          rw [List.cons_append, reviseEach_cons found, reviseEach_cons found]
          cases visit state current ⟨tree, location⟩ with
          | error e => rfl
          | ok given => exact ih _ _ _

/-- A visitor that never fails never stops the run. -/
theorem failure_reviseEach_of_total
    (total : ∀ state value sight, ∃ given, visit state value sight = .ok given) (tree : Json)
    (state : σ) (written : Nat) (locations : List Location) :
    (reviseEach visit tree state written locations).failure = none := by
  induction locations generalizing tree state written with
  | nil => rfl
  | cons location locations ih =>
      cases found : tree.at? location with
      | none => simpa only [reviseEach, found] using ih tree state written
      | some current =>
          obtain ⟨⟨next, value, edits⟩, given⟩ := total state current ⟨tree, location⟩
          rw [reviseEach_cons found, given]
          exact ih _ next (written + 1)

/-- The number of earlier visits only adds to the count. -/
theorem reviseEach_written (tree : Json) (state : σ) (written : Nat)
    (locations : List Location) :
    reviseEach visit tree state written locations =
      { reviseEach visit tree state 0 locations with
        written := written + (reviseEach visit tree state 0 locations).written } := by
  induction locations generalizing tree state written with
  | nil => rfl
  | cons location locations ih =>
      cases found : tree.at? location with
      | none => simpa only [reviseEach, found] using ih tree state written
      | some current =>
          rw [reviseEach_cons found, reviseEach_cons found]
          cases visit state current ⟨tree, location⟩ with
          | error e => rfl
          | ok given =>
              obtain ⟨next, value, edits⟩ := given
              dsimp only
              rw [ih _ next (written + 1), ih _ next (0 + 1)]
              simp [Nat.add_assoc]

end Json

end Reshape
