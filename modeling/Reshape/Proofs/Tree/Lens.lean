/-
Module: Reshape.Proofs.Tree.Lens
Purpose: the laws of reading and replacing at one step and at a location, and when
  two locations do not touch each other.
Main exports: Members.insert_insert, Json.at?_set?_self, Json.set?_append,
  Location.Forks, Json.at?_set?_of_forks, Json.set?_comm
Trusted boundary: none
-/
import Reshape.Tree.Location

/-!
# Locations as lenses

A location that exists can be replaced, and then holds the new value. Two locations
that fork, so that neither lies on the way to the other, can be replaced in either
order, and replacing at one is not seen at the other. No law asks for distinct keys:
reading, replacing and erasing all mean the first member of a name.
-/

namespace Reshape

/-! ### Members -/

namespace Members

theorem get?_insert_self (key : String) (value : Json) (members : Members) :
    get? key (insert key value members) = some value := by
  induction members with
  | nil => simp [insert, get?]
  | cons member rest ih =>
      obtain ⟨name, old⟩ := member
      by_cases same : name = key
      · simp [insert, get?, same]
      · simp [insert, get?, same, ih]

theorem get?_insert_of_ne {key other : String} (differ : key ≠ other) (value : Json)
    (members : Members) : get? other (insert key value members) = get? other members := by
  induction members with
  | nil => simp [insert, get?, differ]
  | cons member rest ih =>
      obtain ⟨name, old⟩ := member
      by_cases same : name = key
      · simp [insert, get?, same, differ]
      · simp [insert, get?, same, ih]

/-- Setting a member to what it holds changes nothing. -/
theorem insert_of_get? {key : String} {value : Json} {members : Members}
    (held : get? key members = some value) : insert key value members = members := by
  induction members with
  | nil => simp [get?] at held
  | cons member rest ih =>
      obtain ⟨name, old⟩ := member
      by_cases same : name = key
      · simp [get?, same] at held
        simp [insert, same, held]
      · simp [get?, same] at held
        simp [insert, same, ih held]

/-- Of two values set in turn the second one stays. -/
theorem insert_insert (key : String) (first second : Json) (members : Members) :
    insert key second (insert key first members) = insert key second members := by
  induction members with
  | nil => simp [insert]
  | cons member rest ih =>
      obtain ⟨name, old⟩ := member
      by_cases same : name = key
      · simp [insert, same]
      · simp [insert, same, ih]

/-- Members that are already there can be set in either order. The order would show in
the keys if either of them were new. -/
theorem insert_comm {key other : String} (differ : key ≠ other) {members : Members}
    (held : (get? key members).isSome) (otherHeld : (get? other members).isSome)
    (value otherValue : Json) :
    insert other otherValue (insert key value members) =
      insert key value (insert other otherValue members) := by
  induction members with
  | nil => simp [get?] at held
  | cons member rest ih =>
      obtain ⟨name, old⟩ := member
      by_cases same : name = key
      · simp [insert, same, differ]
      · by_cases sameOther : name = other
        · simp [insert, sameOther, differ.symm]
        · simp only [get?, same, sameOther, if_false] at held otherHeld
          simp [insert, same, sameOther, ih held otherHeld]

end Members

namespace Json

/-! ### One step -/

theorem child?_setChild_self {tree held : Json} {step : Step}
    (child : tree.child? step = some held) (value : Json) :
    (tree.setChild step value).child? step = some value := by
  cases tree <;> cases step <;> simp [child?] at child
  · rename_i items position
    obtain ⟨bound, -⟩ := List.getElem?_eq_some_iff.1 child
    simp [setChild, child?, bound]
  · simp [setChild, child?, Members.get?_insert_self]

theorem child?_setChild_of_ne {step other : Step} (differ : step ≠ other) (tree value : Json) :
    (tree.setChild step value).child? other = tree.child? other := by
  cases tree <;> cases step <;> cases other <;> simp [setChild, child?]
  · rename_i items position otherPosition
    have apart : position ≠ otherPosition := fun same => differ (same ▸ rfl)
    simp [List.getElem?_set_ne apart]
  · rename_i members key otherKey
    have apart : key ≠ otherKey := fun same => differ (same ▸ rfl)
    exact Members.get?_insert_of_ne apart value members

theorem setChild_of_child? {tree value : Json} {step : Step}
    (child : tree.child? step = some value) : tree.setChild step value = tree := by
  cases tree <;> cases step <;> simp [child?] at child
  · obtain ⟨bound, rfl⟩ := List.getElem?_eq_some_iff.1 child
    simp [setChild]
  · simp [setChild, Members.insert_of_get? child]

theorem setChild_setChild (tree first second : Json) (step : Step) :
    (tree.setChild step first).setChild step second = tree.setChild step second := by
  cases tree <;> cases step <;> simp [setChild, Members.insert_insert]

theorem setChild_comm {tree held otherHeld : Json} {step other : Step} (differ : step ≠ other)
    (child : tree.child? step = some held) (otherChild : tree.child? other = some otherHeld)
    (value otherValue : Json) :
    (tree.setChild step value).setChild other otherValue =
      (tree.setChild other otherValue).setChild step value := by
  cases tree <;> cases step <;> cases other <;> simp [child?] at child otherChild
  · rename_i items position otherPosition
    have apart : position ≠ otherPosition := fun same => differ (same ▸ rfl)
    simp [setChild, List.set_comm _ _ apart]
  · rename_i members key otherKey
    have apart : key ≠ otherKey := fun same => differ (same ▸ rfl)
    have held := Option.isSome_iff_exists.2 ⟨_, child⟩
    have otherHeld := Option.isSome_iff_exists.2 ⟨_, otherChild⟩
    simp [setChild, Members.insert_comm apart held otherHeld]

/-! ### One location -/

@[simp] theorem at?_nil (tree : Json) : tree.at? [] = some tree := rfl

@[simp] theorem set?_nil (tree value : Json) : tree.set? value [] = some value := rfl

theorem at?_cons (tree : Json) (step : Step) (rest : Location) :
    tree.at? (step :: rest) = (tree.child? step).bind fun inner => inner.at? rest := rfl

theorem set?_cons (tree value : Json) (step : Step) (rest : Location) :
    tree.set? value (step :: rest) =
      (tree.child? step).bind fun inner =>
        (inner.set? value rest).map fun changed => tree.setChild step changed := rfl

/-- Reading along two stretches of a location in turn. -/
theorem at?_append (tree : Json) (location rest : Location) :
    tree.at? (location ++ rest) = (tree.at? location).bind fun inner => inner.at? rest := by
  induction location generalizing tree with
  | nil => rfl
  | cons step location ih =>
      cases child : tree.child? step with
      | none => simp [at?_cons, child]
      | some inner => simp [at?_cons, child, ih]

theorem at?_concat (tree : Json) (parent : Location) (last : Step) :
    tree.at? (parent ++ [last]) = (tree.at? parent).bind fun inner => inner.child? last := by
  simp only [at?_append, at?_cons, at?_nil, Option.bind_fun_some]

/-- Replacing below a location is replacing what the location holds. -/
theorem set?_append (tree value : Json) (location rest : Location) :
    tree.set? value (location ++ rest) =
      (tree.at? location).bind fun inner =>
        (inner.set? value rest).bind fun changed => tree.set? changed location := by
  induction location generalizing tree with
  | nil => simp
  | cons step location ih =>
      cases child : tree.child? step with
      | none => simp [at?_cons, set?_cons, child]
      | some inner =>
          simp only [List.cons_append, set?_cons, at?_cons, child, Option.bind_some, ih]
          cases inner.at? location with
          | none => rfl
          | some held =>
              cases replaced : held.set? value rest with
              | none => simp [replaced]
              | some changed => simp [replaced]

/-- A location can be replaced exactly when it exists. -/
theorem isSome_set? (tree value : Json) (location : Location) :
    (tree.set? value location).isSome = (tree.at? location).isSome := by
  induction location generalizing tree with
  | nil => rfl
  | cons step location ih =>
      cases child : tree.child? step with
      | none => simp [at?_cons, set?_cons, child]
      | some inner => simp [at?_cons, set?_cons, child, ih]

theorem exists_set?_of_at? {tree held : Json} {location : Location}
    (found : tree.at? location = some held) (value : Json) :
    ∃ changed, tree.set? value location = some changed :=
  Option.isSome_iff_exists.1 (by rw [isSome_set?, found]; rfl)

theorem at?_set?_self {tree changed value : Json} {location : Location}
    (replaced : tree.set? value location = some changed) :
    changed.at? location = some value := by
  induction location generalizing tree changed with
  | nil =>
      cases replaced
      rfl
  | cons step location ih =>
      simp only [set?_cons, Option.bind_eq_some_iff, Option.map_eq_some_iff] at replaced
      obtain ⟨inner, child, changedInner, replacedInner, rfl⟩ := replaced
      simp [at?_cons, child?_setChild_self child, ih replacedInner]

/-- Replacing a member sets it in the object that encloses it. -/
theorem at?_set?_member {tree stored value : Json} {parent : Location} {own : String}
    {members : Members} (around : tree.at? parent = some (.object members))
    (store : tree.set? value (parent ++ [.key own]) = some stored) :
    stored.at? parent = some (.object (Members.insert own value members)) := by
  rw [set?_append, around, Option.bind_some, Option.bind_eq_some_iff] at store
  obtain ⟨changed, set, replaced⟩ := store
  simp only [set?_cons, set?_nil, Option.map_some, Option.bind_eq_some_iff, Option.some.injEq]
    at set
  obtain ⟨inner, -, rfl⟩ := set
  exact at?_set?_self replaced

/-- Replacing a location by what it holds changes nothing. -/
theorem set?_of_at? {tree value : Json} {location : Location}
    (found : tree.at? location = some value) : tree.set? value location = some tree := by
  induction location generalizing tree with
  | nil =>
      cases found
      rfl
  | cons step location ih =>
      simp only [at?_cons, Option.bind_eq_some_iff] at found
      obtain ⟨inner, child, foundInner⟩ := found
      simp [set?_cons, child, ih foundInner, setChild_of_child? child]

/-- Of two replacements of one location the second one stays. -/
theorem set?_set? {tree changed first : Json} {location : Location}
    (replaced : tree.set? first location = some changed) (second : Json) :
    changed.set? second location = tree.set? second location := by
  induction location generalizing tree changed with
  | nil => rfl
  | cons step location ih =>
      simp only [set?_cons, Option.bind_eq_some_iff, Option.map_eq_some_iff] at replaced
      obtain ⟨inner, child, changedInner, replacedInner, rfl⟩ := replaced
      simp [set?_cons, child, child?_setChild_self child, ih replacedInner, setChild_setChild]

end Json

/-! ### Locations that fork -/

namespace Location

/-- Two locations part at some step, so neither lies on the way to the other. -/
inductive Forks : Location → Location → Prop where
  | here {step other : Step} {rest otherRest : Location} (differ : step ≠ other) :
      Forks (step :: rest) (other :: otherRest)
  | later {step : Step} {rest otherRest : Location} (forks : Forks rest otherRest) :
      Forks (step :: rest) (step :: otherRest)

namespace Forks

theorem symm {location other : Location} (forks : Forks location other) :
    Forks other location := by
  induction forks with
  | here differ => exact .here differ.symm
  | later _ ih => exact .later ih

/-- Locations that have forked stay apart however far they go on. -/
theorem append {location other : Location} (forks : Forks location other)
    (rest otherRest : Location) : Forks (location ++ rest) (other ++ otherRest) := by
  induction forks with
  | here differ => exact .here differ
  | later _ ih => exact .later ih

/-- What forks from a container forks from all that stands in it. -/
theorem of_dropLast_left {location other : Location} (forks : Forks location.dropLast other) :
    Forks location other := by
  rcases location.eq_nil_or_concat with rfl | ⟨parent, last, whole⟩
  · exact forks
  · rw [List.concat_eq_append] at whole
    rw [whole, List.dropLast_concat] at forks
    rw [whole]
    simpa using forks.append [last] []

theorem of_dropLast_right {location other : Location} (forks : Forks location other.dropLast) :
    Forks location other :=
  forks.symm.of_dropLast_left.symm

theorem not_prefix {location other : Location} (forks : Forks location other) :
    ¬ location <+: other := by
  induction forks with
  | here differ => simp [List.cons_prefix_cons, differ]
  | later _ ih => simpa [List.cons_prefix_cons] using ih

end Forks

end Location

namespace Json

open Location (Forks)

/-- What is replaced at one location is not seen at one that forks from it. -/
theorem at?_set?_of_forks {location other : Location} (forks : Forks location other)
    {tree changed value : Json} (replaced : tree.set? value location = some changed) :
    changed.at? other = tree.at? other := by
  induction forks generalizing tree changed with
  | here differ =>
      simp only [set?_cons, Option.bind_eq_some_iff, Option.map_eq_some_iff] at replaced
      obtain ⟨inner, child, changedInner, replacedInner, rfl⟩ := replaced
      simp [at?_cons, child?_setChild_of_ne differ]
  | later _ ih =>
      simp only [set?_cons, Option.bind_eq_some_iff, Option.map_eq_some_iff] at replaced
      obtain ⟨inner, child, changedInner, replacedInner, rfl⟩ := replaced
      simp [at?_cons, child, child?_setChild_self child, ih replacedInner]

/-- Locations that fork can be replaced in either order. -/
theorem set?_comm {location other : Location} (forks : Forks location other)
    {tree changed otherChanged value otherValue : Json}
    (replaced : tree.set? value location = some changed)
    (otherReplaced : tree.set? otherValue other = some otherChanged) :
    changed.set? otherValue other = otherChanged.set? value location := by
  induction forks generalizing tree changed otherChanged with
  | here differ =>
      simp only [set?_cons, Option.bind_eq_some_iff, Option.map_eq_some_iff]
        at replaced otherReplaced
      obtain ⟨inner, child, changedInner, replacedInner, rfl⟩ := replaced
      obtain ⟨otherInner, otherChild, otherChangedInner, otherReplacedInner, rfl⟩ := otherReplaced
      simp [set?_cons, child, otherChild, child?_setChild_of_ne differ,
        child?_setChild_of_ne differ.symm, replacedInner, otherReplacedInner,
        setChild_comm differ child otherChild]
  | later _ ih =>
      simp only [set?_cons, Option.bind_eq_some_iff, Option.map_eq_some_iff]
        at replaced otherReplaced
      obtain ⟨inner, child, changedInner, replacedInner, rfl⟩ := replaced
      obtain ⟨_, sameChild, otherChangedInner, otherReplacedInner, rfl⟩ := otherReplaced
      cases child.symm.trans sameChild
      simp [set?_cons, child?_setChild_self child, ih replacedInner otherReplacedInner,
        setChild_setChild]

end Json

end Reshape
