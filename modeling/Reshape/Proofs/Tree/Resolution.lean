/-
Module: Reshape.Proofs.Tree.Resolution
Purpose: the locations that an address matches are exactly those whose keys are its
  segments, each of them once and in depth-first order.
Main exports: Location.keys, Location.EndsInKey, Json.matches_iff, Json.locations,
  Json.find_exact
Trusted boundary: none
-/
import Reshape.Proofs.Tree.Address

/-!
# What an address resolves to

Nothing of the walk is needed to say what an address matches: the location exists, its
keys in order are the segments of the address, and it does not end at an index, so that
the last step names a member. Two matches part at an index, which orders them and keeps
either from leading to the other.
-/

namespace Reshape

namespace Step

/-- The key of a step into an object; a step into an array has none. -/
def key? : Step → Option String
  | .key name => some name
  | .index _ => none

end Step

namespace Location

/-- The keys on the way, indices left out. -/
def keys (location : Location) : List String :=
  location.filterMap Step.key?

/-- The root, or a location whose last step is a key. -/
def EndsInKey (location : Location) : Prop :=
  location = [] ∨ ∃ key, location.getLast? = some (.key key)

@[simp] theorem keys_nil : keys [] = [] := rfl

@[simp] theorem keys_key (name : String) (rest : Location) :
    keys (.key name :: rest) = name :: keys rest := rfl

@[simp] theorem keys_index (position : Nat) (rest : Location) :
    keys (.index position :: rest) = keys rest := rfl

theorem EndsInKey.of_cons {step : Step} {rest : Location} (ends : EndsInKey (step :: rest)) :
    EndsInKey rest := by
  cases rest with
  | nil => exact .inl rfl
  | cons next rest =>
      obtain ⟨key, last⟩ := ends.resolve_left (by simp)
      exact .inr ⟨key, by rwa [List.getLast?_cons_cons] at last⟩

/-- Behind an index there is a key. -/
theorem EndsInKey.keys_ne_nil {position : Nat} {rest : Location}
    (ends : EndsInKey (.index position :: rest)) : keys rest ≠ [] := by
  obtain ⟨key, last⟩ := ends.resolve_left (by simp)
  have inside : Step.key key ∈ rest := by
    simpa using List.mem_of_getLast? last
  intro none
  have listed : key ∈ keys rest := List.mem_filterMap.2 ⟨_, inside, rfl⟩
  simp [none] at listed

namespace Earlier

/-- Locations that part at an index stay in order however far they go on. -/
theorem append {location other : Location} (earlier : Earlier location other)
    (rest otherRest : Location) : Earlier (location ++ rest) (other ++ otherRest) := by
  induction earlier with
  | here lower => exact .here lower
  | later _ ih => exact .later ih

theorem of_dropLast {location other : Location}
    (earlier : Earlier location.dropLast other.dropLast) : Earlier location other := by
  simp only [List.dropLast_eq_take] at earlier
  simpa only [List.take_append_drop] using
    earlier.append (location.drop (location.length - 1)) (other.drop (other.length - 1))

end Earlier

end Location

namespace Json

open Location (EndsInKey Earlier Forks)

/-! ### Matches without the walk -/

theorem Matches.keys_eq {tree : Json} {names : List String} {location : Location}
    (isMatch : Matches tree names location) : location.keys = names := by
  induction isMatch with
  | here => rfl
  | item _ _ ih => exact ih
  | member _ _ ih => simp [ih]

theorem Matches.endsInKey {tree : Json} {names : List String} {location : Location}
    (isMatch : Matches tree names location) : EndsInKey location := by
  cases names with
  | nil =>
      cases isMatch
      exact .inl rfl
  | cons name names =>
      obtain ⟨parent, key, members, rfl, -⟩ := isMatch.enclosed (by simp)
      exact .inr ⟨key, by simp⟩

theorem matches_of_at? {tree value : Json} {location : Location}
    (found : tree.at? location = some value) (ends : EndsInKey location) :
    Matches tree location.keys location := by
  induction location generalizing tree with
  | nil => exact .here
  | cons step rest ih =>
      obtain ⟨inner, child, below⟩ := Option.bind_eq_some_iff.1 found
      have further := ih below ends.of_cons
      cases step with
      | key name =>
          cases tree with
          | object members => exact .member child further
          | _ => cases child
      | index position =>
          cases tree with
          | array items =>
              -- an array is only crossed while a key is left
              obtain ⟨name, names, more⟩ := List.exists_cons_of_ne_nil ends.keys_ne_nil
              rw [more] at further
              rw [Location.keys_index, more]
              exact .item child further
          | _ => cases child

/-- A location matches the keys on the way to it if it exists and does not end at an index,
and it matches no other keys. -/
theorem matches_iff {tree : Json} {names : List String} {location : Location} :
    Matches tree names location ↔
      (tree.at? location).isSome ∧ location.keys = names ∧ EndsInKey location := by
  constructor
  · intro isMatch
    exact ⟨Option.isSome_iff_exists.2 isMatch.exists_at?, isMatch.keys_eq, isMatch.endsInKey⟩
  · rintro ⟨exists_, rfl, ends⟩
    obtain ⟨value, found⟩ := Option.isSome_iff_exists.1 exists_
    exact matches_of_at? found ends

/-! ### Depth-first order -/

mutual

/-- The locations of a tree in depth-first order: a container before what stands in it,
items by their index and members as they are listed. -/
def locations : Json → List Location
  | .array items => [] :: locationsItems 0 items
  | .object members => [] :: locationsMembers members
  | .null | .bool _ | .number _ | .string _ => [[]]

def locationsItems (position : Nat) : List Json → List Location
  | [] => []
  | item :: rest =>
      item.locations.map (.index position :: ·) ++ locationsItems (position + 1) rest

def locationsMembers : List (String × Json) → List Location
  | [] => []
  | (key, value) :: rest => value.locations.map (.key key :: ·) ++ locationsMembers rest

end

mutual

theorem locate_sublist : ∀ (tree : Json) (names : List String),
    (tree.locate names).Sublist tree.locations
  | tree, [] => by
      rw [locate_nil]
      cases tree <;> simp [locations]
  | .array items, name :: names => by
      rw [locate, locations]
      exact (locateItems_sublist (name :: names) 0 items).cons []
  | .object members, name :: names => by
      rw [locate, locations]
      exact (locateMember_sublist name names members).cons []
  | .null, _ :: _ | .bool _, _ :: _ | .number _, _ :: _ | .string _, _ :: _ =>
      List.nil_sublist _

theorem locateItems_sublist (names : List String) : ∀ (position : Nat) (items : List Json),
    (locateItems names position items).Sublist (locationsItems position items)
  | _, [] => List.nil_sublist _
  | position, item :: rest => by
      rw [locateItems, locationsItems]
      exact ((locate_sublist item names).map _).append
        (locateItems_sublist names (position + 1) rest)

theorem locateMember_sublist (name : String) (names : List String) :
    ∀ members : List (String × Json),
      (locateMember name names members).Sublist (locationsMembers members)
  | [] => List.nil_sublist _
  | (key, value) :: rest => by
      rw [locateMember, locationsMembers]
      split
      · next same =>
          rw [same]
          exact ((locate_sublist value names).map _).trans (List.sublist_append_left _ _)
      · exact (locateMember_sublist name names rest).trans (List.sublist_append_right _ _)

end

/-- The matches of an address part at indices, in the order of these. -/
theorem pairwise_earlier_find (tree : Json) (address : Address) :
    (tree.find address).Pairwise Earlier :=
  (pairwise_earlier_locate tree address.segments).imp Earlier.of_dropLast

/-- What an address reads is what its matches hold, one value each. -/
theorem map_some_read (tree : Json) (address : Address) :
    (tree.read address).map some = (tree.find address).map tree.at? := by
  have held : ∀ location ∈ tree.find address, (tree.at? location).isSome := fun location found =>
    (matches_iff.1 (mem_locate.1 found)).1
  rw [read]
  generalize tree.find address = found at held ⊢
  induction found with
  | nil => rfl
  | cons location rest ih =>
      obtain ⟨here, later⟩ := List.forall_mem_cons.1 held
      obtain ⟨value, holds⟩ := Option.isSome_iff_exists.1 here
      simp [holds, ih later]

/-- The matches of an address are the locations that exist, have its segments as their keys
and do not end at an index. None is listed twice or leads to another one, they are in
depth-first order with the items of an array by their index, and reading the address gives
the value of each. -/
theorem find_exact (tree : Json) (address : Address) :
    (∀ location, location ∈ tree.find address ↔
      (tree.at? location).isSome ∧ location.keys = address.segments ∧
        (location = [] ∨ ∃ key, location.getLast? = some (.key key))) ∧
      (tree.find address).Nodup ∧
      (tree.find address).Pairwise (fun location other =>
        ¬ location <+: other ∧ ¬ other <+: location) ∧
      (tree.find address).Pairwise Earlier ∧
      (tree.find address).Sublist tree.locations ∧
      (tree.read address).map some = (tree.find address).map tree.at? := by
  have apart := pairwise_find tree address
  refine ⟨fun location => mem_locate.trans matches_iff, ?_, ?_, pairwise_earlier_find tree address,
    locate_sublist tree address.segments, map_some_read tree address⟩
  · refine List.Pairwise.imp ?_ apart
    rintro location _ forks rfl
    exact forks.not_prefix (List.prefix_refl _)
  · exact apart.imp fun forks => ⟨forks.not_prefix, forks.symm.not_prefix⟩

/-- An array in an array is crossed twice, an empty one holds no match, and a text on the way
ends it. -/
example :
    let tree : Json := .object [("a", .array
      [.array [.object [("b", .null)]], .array [], .string "b", .object [("b", .array [])]])]
    tree.find ⟨"a.b"⟩ =
      [[.key "a", .index 0, .index 0, .key "b"], [.key "a", .index 3, .key "b"]] := by
  decide

end Json

end Reshape
