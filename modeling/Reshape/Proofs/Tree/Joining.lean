/-
Module: Reshape.Proofs.Tree.Joining
Purpose: joined addresses form a monoid, and joining is finding in two steps: the matches of the
  second address within the value of each match of the first one.
Main exports: Address.empty_join, Address.join_empty, Json.find_join_within, Json.read_join,
  Json.join_composes
Trusted boundary: none
-/
import Reshape.Proofs.Tree.Identical
import Reshape.Proofs.Tree.Resolution

/-!
# Finding in two steps

The segments of a joined address are those of its two parts, and locating goes through segments
one by one, so the matches of a joined address are found by going on from the matches of its first
part. Every one of these holds a value to go on in, also where the address crosses an array at
the joint. What is read follows: the second address is read in each value that the first one
reads.
-/

namespace Reshape

namespace Address

/-- The empty address is a unit on the left. -/
theorem empty_join (address : Address) : join ⟨""⟩ address = address := by
  simp [join]

/-- The empty address is a unit on the right. -/
theorem join_empty (address : Address) : address.join ⟨""⟩ = address := by
  obtain ⟨text⟩ := address
  by_cases none : text = ""
  · simp [join, none]
  · simp [join, none]

end Address

namespace Json

variable {tree : Json} {base : Address} {subtree : Location → Json}

/-- Every match of an address holds a value, and these are what the address reads. -/
theorem exists_subtree (tree : Json) (base : Address) :
    ∃ subtree : Location → Json,
      (∀ location ∈ tree.find base, tree.at? location = some (subtree location)) ∧
        tree.read base = (tree.find base).map subtree := by
  have held : ∀ location ∈ tree.find base,
      tree.at? location = some ((tree.at? location).getD .null) := by
    intro location found
    obtain ⟨value, holds⟩ := (mem_locate.1 found).exists_at?
    rw [holds, Option.getD_some]
  refine ⟨fun location => (tree.at? location).getD .null, held, ?_⟩
  have same : (tree.read base).map some =
      ((tree.find base).map fun location => (tree.at? location).getD .null).map some := by
    rw [map_some_read, List.map_map]
    exact List.map_congr_left held
  exact List.map_injective_iff.2 (fun _ _ => Option.some.inj) same

/-- The matches of a joined address, from those of its first part and what they hold. -/
theorem find_join_within
    (held : ∀ location ∈ tree.find base, tree.at? location = some (subtree location))
    (relative : Address) :
    tree.find (base.join relative) =
      (tree.find base).flatMap fun location =>
        ((subtree location).find relative).map (location ++ ·) := by
  rw [find_join]
  refine List.flatMap_congr fun location found => ?_
  rw [locateFrom, held location found]
  rfl

/-- Reading a joined address is reading its second part in each value that the first part
reads. -/
theorem read_join (tree : Json) (base relative : Address) :
    tree.read (base.join relative) = (tree.read base).flatMap fun value => value.read relative := by
  obtain ⟨subtree, held, reads⟩ := exists_subtree tree base
  rw [reads, List.flatMap_map, read, find_join_within held relative, List.filterMap_flatMap]
  refine List.flatMap_congr fun location found => ?_
  -- going on from a match is starting at the value it holds
  have below : ∀ rest, tree.at? (location ++ rest) = (subtree location).at? rest := by
    intro rest
    rw [at?_append, held location found, Option.bind_some]
  rw [List.filterMap_map, read]
  exact List.filterMap_congr fun rest _ => below rest

/-- Joining addresses puts the segments of the second one behind those of the first one, whatever
dots the two texts have; it is associative, with the empty address as its unit. On every tree the
matches of a joined address are, in order, those of the second address in the value of each match
of the first one, led to by that match, and the values it reads are found in the same way. -/
theorem join_composes (base middle relative : Address) (tree : Json) :
    (base.join relative).segments = base.segments ++ relative.segments ∧
      (base.join middle).join relative = base.join (middle.join relative) ∧
      Address.join ⟨""⟩ base = base ∧ base.join ⟨""⟩ = base ∧
      (∃ subtree : Location → Json,
        (∀ location ∈ tree.find base, tree.at? location = some (subtree location)) ∧
          tree.find (base.join relative) =
            (tree.find base).flatMap fun location =>
              ((subtree location).find relative).map (location ++ ·)) ∧
      tree.read (base.join relative) =
        (tree.read base).flatMap fun value => value.read relative := by
  obtain ⟨subtree, held, -⟩ := exists_subtree tree base
  exact ⟨Address.segments_join base relative, Address.join_join base middle relative,
    Address.empty_join base, Address.join_empty base,
    ⟨subtree, held, find_join_within held relative⟩, read_join tree base relative⟩

/-- Dots at the joint leave no segment, and the joint is crossed at every item. -/
example :
    let tree : Json := .object [("a", .array [.object [("b", .null)], .object [("b", .bool true)]])]
    let joined := Address.join ⟨".a."⟩ ⟨".b"⟩
    joined = ⟨".a...b"⟩ ∧ joined.segments = ["a", "b"] ∧ tree.read joined = [.null, .bool true] := by
  decide

end Json

end Reshape
