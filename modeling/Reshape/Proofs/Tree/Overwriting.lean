/-
Module: Reshape.Proofs.Tree.Overwriting
Purpose: a location is a lens: replacing in place succeeds where reading does, is read back, and
  is seen nowhere but on the way to the location and below it.
Main exports: Json.overwrite, Json.overwrite_eq, Json.SameLayout, Json.Overwritten,
  Json.overwrite_lens
Trusted boundary: none
-/
import Reshape.Proofs.Tree.Frame

/-!
# Replacing in place

Replacing in place walks down to the location and puts every container on the way together again,
whether the walk has found the location or has lost it at a step. A walk that is lost has changed
nothing below, and a container whose part is set to what it holds is the container it was: so the
walk agrees with the replacement that gives no tree when there is no location, and leaves the tree
alone then.
-/

namespace Reshape

namespace Json

open Location (Forks)

/-- Replace the value at a location in place. Tells whether the location was found, next to the
tree as it stands then. -/
def overwrite (tree value : Json) : Location → Bool × Json
  | [] => (true, value)
  | step :: rest =>
      match tree.child? step with
      | none => (false, tree)
      | some inner =>
          let (done, changed) := inner.overwrite value rest
          (done, tree.setChild step changed)

theorem overwrite_eq (tree value : Json) (location : Location) :
    tree.overwrite value location =
      ((tree.set? value location).isSome, (tree.set? value location).getD tree) := by
  induction location generalizing tree with
  | nil => rfl
  | cons step rest ih =>
      cases child : tree.child? step with
      | none => simp [overwrite, set?_cons, child]
      | some inner =>
          simp only [overwrite, set?_cons, child, ih, Option.bind_some]
          cases inner.set? value rest with
          | none => simp [setChild_of_child? child]
          | some changed => rfl

theorem set?_of_missing {tree : Json} {location : Location} (missing : tree.at? location = none)
    (value : Json) : tree.set? value location = none := by
  rw [← Option.not_isSome_iff_eq_none, isSome_set?, missing]
  simp

/-- A walk that loses its way leaves the tree as it is. -/
theorem overwrite_of_missing {tree : Json} {location : Location}
    (missing : tree.at? location = none) (value : Json) :
    tree.overwrite value location = (false, tree) := by
  rw [overwrite_eq, set?_of_missing missing]
  rfl

theorem overwrite_of_set? {tree changed value : Json} {location : Location}
    (replaced : tree.set? value location = some changed) :
    tree.overwrite value location = (true, changed) := by
  rw [overwrite_eq, replaced]
  rfl

/-! ### What is seen of it -/

/-- Two objects with the same keys in the same order, or two arrays of the same length. -/
inductive SameLayout : Json → Json → Prop where
  | object {members after : Members} (keys : Members.keys after = Members.keys members) :
      SameLayout (.object members) (.object after)
  | array {items after : List Json} (length : after.length = items.length) :
      SameLayout (.array items) (.array after)

theorem sameLayout_setChild {container held : Json} {step : Step}
    (child : container.child? step = some held) (value : Json) :
    SameLayout container (container.setChild step value) := by
  cases container <;> cases step <;> simp only [child?, reduceCtorEq] at child
  · exact .array (List.length_set ..)
  · exact .object (Members.keys_insert child)

/-- The container at the front of a location only has one of its parts replaced. -/
theorem at?_set?_front {tree changed value : Json} {front rest : Location} {step : Step}
    (replaced : tree.set? value (front ++ step :: rest) = some changed) :
    ∃ container held part, tree.at? front = some container ∧
      container.child? step = some held ∧
      changed.at? front = some (container.setChild step part) := by
  rw [set?_append, Option.bind_eq_some_iff] at replaced
  obtain ⟨container, found, replaced⟩ := replaced
  obtain ⟨after, replacedBelow, replacedFront⟩ := Option.bind_eq_some_iff.1 replaced
  rw [set?_cons, Option.bind_eq_some_iff] at replacedBelow
  obtain ⟨held, child, replacedBelow⟩ := replacedBelow
  obtain ⟨part, -, rfl⟩ := Option.map_eq_some_iff.1 replacedBelow
  exact ⟨container, held, part, found, child, at?_set?_self replacedFront⟩

/-- A location has been given a value, and that is all there is to see of it: other locations read
as before, unless they lead to this one or on from it, and the containers on the way keep their
keys in order or their length. -/
structure Overwritten (tree : Json) (location : Location) (value after : Json) : Prop where
  holds : after.at? location = some value
  others : ∀ other, ¬ other <+: location → ¬ location <+: other →
    after.at? other = tree.at? other
  onTheWay : ∀ front step rest, location = front ++ step :: rest →
    ∃ container containerAfter, tree.at? front = some container ∧
      after.at? front = some containerAfter ∧ SameLayout container containerAfter

theorem overwritten_of_set? {tree value after : Json} {location : Location}
    (replaced : tree.set? value location = some after) :
    Overwritten tree location value after where
  holds := at?_set?_self replaced
  others := by
    intro other notAbove notBelow
    have forks : Forks location other :=
      ((Location.prefix_or_forks location other).resolve_left notBelow).resolve_left notAbove
    exact at?_set?_of_forks forks replaced
  onTheWay := by
    rintro front step rest rfl
    obtain ⟨container, held, part, found, child, after⟩ := at?_set?_front replaced
    exact ⟨container, _, found, after, sameLayout_setChild child part⟩

/-! ### The laws -/

/-- Of two values put at a location in turn the second one stays, and where there is no location
neither does anything. -/
theorem overwrite_overwrite (tree first second : Json) (location : Location) :
    (tree.overwrite first location).2.overwrite second location =
      tree.overwrite second location := by
  cases found : tree.at? location with
  | none => rw [overwrite_of_missing found]
  | some held =>
      obtain ⟨changed, replaced⟩ := exists_set?_of_at? found first
      rw [overwrite_of_set? replaced, overwrite_eq, overwrite_eq, set?_set? replaced]
      -- both replacements succeed, so neither falls back on its tree
      obtain ⟨last, replacedLast⟩ := exists_set?_of_at? found second
      rw [replacedLast, Option.getD_some, Option.getD_some]

/-- Every location is a lens on every tree. When reading finds nothing there, replacing in place
says so and leaves the tree as it was. When reading finds a value, replacing says so as well, the
new value is read back and nothing else has changed; putting back what was read gives the tree
itself. The second of two replacements stays. The replacement that gives a tree or none is the
one in place, with none for a location that was not found. -/
theorem overwrite_lens (tree value : Json) (location : Location) :
    (tree.at? location = none ∧ tree.overwrite value location = (false, tree) ∧
          tree.set? value location = none ∨
        ∃ held after, tree.at? location = some held ∧
          tree.overwrite value location = (true, after) ∧
          tree.set? value location = some after ∧
          Overwritten tree location value after ∧
          tree.overwrite held location = (true, tree)) ∧
      ∀ second, (tree.overwrite value location).2.overwrite second location =
        tree.overwrite second location := by
  refine ⟨?_, fun second => overwrite_overwrite tree value second location⟩
  cases found : tree.at? location with
  | none =>
      exact .inl ⟨rfl, overwrite_of_missing found value, set?_of_missing found value⟩
  | some held =>
      obtain ⟨after, replaced⟩ := exists_set?_of_at? found value
      exact .inr ⟨held, after, rfl, overwrite_of_set? replaced, replaced,
        overwritten_of_set? replaced, overwrite_of_set? (set?_of_at? found)⟩

/-- A member of an object in an array, and a key that an array is asked for. -/
theorem overwrite_lens_item :
    let tree : Json := .object [("a", .array [.object [("b", .null), ("c", .bool true)],
      .string "d"])]
    let location : Location := [.key "a", .index 0, .key "b"]
    (∃ after, tree.overwrite (.array []) location = (true, after) ∧
      after.at? location = some (.array []) ∧
      after.at? [.key "a", .index 1] = some (.string "d")) ∧
    tree.overwrite (.array []) [.key "a", .key "b"] = (false, tree) := by
  intro tree location
  have beside : ¬ [.key "a", .index 1] <+: location ∧ ¬ location <+: [.key "a", .index 1] := by
    decide
  constructor
  · rcases (overwrite_lens tree (.array []) location).1 with
      ⟨missing, -⟩ | ⟨held, after, -, done, -, seen, -⟩
    · cases missing
    · exact ⟨after, done, seen.holds, seen.others _ beside.1 beside.2⟩
  · rcases (overwrite_lens tree (.array []) [.key "a", .key "b"]).1 with
      ⟨-, lost, -⟩ | ⟨held, after, found, -⟩
    · exact lost
    · cases found

end Json

end Reshape
