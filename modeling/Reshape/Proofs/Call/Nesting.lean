/-
Module: Reshape.Proofs.Call.Nesting
Purpose: opening the arrays in a list to some depth is opening them once and again, and from the
  depth of their nesting on nothing but their leaves is left.
Main exports: Json.nestingOf, Json.arrayLeavesOf, Member.flattenDepth_eq_iterate,
  Member.flatten_composes
Trusted boundary: none
-/
import Mathlib.Data.List.Basic
import Mathlib.Logic.Function.Iterate
import Reshape.Call.Member.Items
import Reshape.Proofs.Tree.Identical

/-!
# Nested arrays

Flattening to a depth goes down into each item with one level less to open, while flattening once
goes over the whole list. The two meet because items are flattened each on its own: opening a
level of the list opens a level of every item. So each law is one of flattening once, carried
over by counting: a level of nesting is lost, as long as there is one, and no leaf is touched.
-/

namespace Reshape

namespace Json

mutual

/-- How many arrays stand inside one another in a value, itself counted. Objects are not looked
into. -/
def nesting : Json → Nat
  | .array items => nestingOf items + 1
  | _ => 0

/-- How many arrays stand inside one another in a list; zero when no item is an array. -/
def nestingOf : List Json → Nat
  | [] => 0
  | item :: rest => max item.nesting (nestingOf rest)

end

mutual

/-- What is no array itself and stands in a value through arrays only, from left to right. -/
def arrayLeaves : Json → List Json
  | .array items => arrayLeavesOf items
  | other => [other]

/-- What is no array itself and stands in a list through arrays only, from left to right. -/
def arrayLeavesOf : List Json → List Json
  | [] => []
  | item :: rest => item.arrayLeaves ++ arrayLeavesOf rest

end

/-- What flattening once leaves in the place of an item. -/
def opened : Json → List Json
  | .array inner => inner
  | other => [other]

/-! ### Flattening once -/

theorem flattenOnce_cons (item : Json) (rest : List Json) :
    flattenOnce (item :: rest) = item.opened ++ flattenOnce rest := by
  cases item <;> rfl

theorem flattenOnce_eq_flatMap (items : List Json) : flattenOnce items = items.flatMap opened := by
  induction items with
  | nil => rfl
  | cons item rest ih => rw [flattenOnce_cons, ih, List.flatMap_cons]

theorem nestingOf_append (items more : List Json) :
    nestingOf (items ++ more) = max (nestingOf items) (nestingOf more) := by
  induction items with
  | nil => simp [nestingOf]
  | cons item rest ih => rw [List.cons_append, nestingOf, nestingOf, ih, Nat.max_assoc]

theorem arrayLeavesOf_append (items more : List Json) :
    arrayLeavesOf (items ++ more) = arrayLeavesOf items ++ arrayLeavesOf more := by
  induction items with
  | nil => rfl
  | cons item rest ih =>
      rw [List.cons_append, arrayLeavesOf, arrayLeavesOf, ih, List.append_assoc]

theorem nestingOf_opened (item : Json) : nestingOf item.opened = item.nesting - 1 := by
  cases item <;> simp [opened, nestingOf, nesting]

theorem arrayLeavesOf_opened (item : Json) : arrayLeavesOf item.opened = item.arrayLeaves := by
  cases item <;> simp [opened, arrayLeavesOf, arrayLeaves]

/-- A level of nesting is lost, unless there is none. -/
theorem nestingOf_flattenOnce (items : List Json) :
    nestingOf (flattenOnce items) = nestingOf items - 1 := by
  induction items with
  | nil => rfl
  | cons item rest ih =>
      rw [flattenOnce_cons, nestingOf_append, nestingOf_opened, ih, nestingOf]
      omega

theorem arrayLeavesOf_flattenOnce (items : List Json) :
    arrayLeavesOf (flattenOnce items) = arrayLeavesOf items := by
  induction items with
  | nil => rfl
  | cons item rest ih =>
      rw [flattenOnce_cons, arrayLeavesOf_append, arrayLeavesOf_opened, ih, arrayLeavesOf]

/-! ### Flattening once and again -/

theorem nestingOf_iterate (depth : Nat) (items : List Json) :
    nestingOf (flattenOnce^[depth] items) = nestingOf items - depth := by
  induction depth generalizing items with
  | zero => rfl
  | succ depth ih =>
      rw [Function.iterate_succ_apply, ih, nestingOf_flattenOnce]
      omega

theorem arrayLeavesOf_iterate (depth : Nat) (items : List Json) :
    arrayLeavesOf (flattenOnce^[depth] items) = arrayLeavesOf items := by
  induction depth generalizing items with
  | zero => rfl
  | succ depth ih => rw [Function.iterate_succ_apply, ih, arrayLeavesOf_flattenOnce]

/-- Parts of a list that are put together are flattened each on its own. -/
theorem iterate_flattenOnce_flatMap (depth : Nat) (items : List Json) (parts : Json → List Json) :
    flattenOnce^[depth] (items.flatMap parts) =
      items.flatMap fun item => flattenOnce^[depth] (parts item) := by
  induction depth generalizing parts with
  | zero => rfl
  | succ depth ih =>
      simp only [Function.iterate_succ_apply]
      rw [flattenOnce_eq_flatMap, List.flatMap_assoc, ih]
      simp only [flattenOnce_eq_flatMap]

theorem iterate_flattenOnce_single {value : Json} (single : value.isArray = false) (depth : Nat) :
    flattenOnce^[depth] [value] = [value] := by
  refine Function.iterate_fixed ?_ depth
  cases value <;> first | rfl | cases single

/-! ### No arrays left -/

theorem nesting_eq_zero_iff {value : Json} : value.nesting = 0 ↔ value.isArray = false := by
  cases value <;> simp [nesting, isArray]

theorem nestingOf_eq_zero_iff {items : List Json} :
    nestingOf items = 0 ↔ ∀ item ∈ items, item.isArray = false := by
  induction items with
  | nil => simp [nestingOf]
  | cons item rest ih =>
      rw [nestingOf, Nat.max_eq_zero_iff, nesting_eq_zero_iff, ih, List.forall_mem_cons]

/-- A list without arrays is the list of its leaves. -/
theorem arrayLeavesOf_of_flat {items : List Json} (flat : ∀ item ∈ items, item.isArray = false) :
    arrayLeavesOf items = items := by
  induction items with
  | nil => rfl
  | cons item rest ih =>
      obtain ⟨here, later⟩ := List.forall_mem_cons.1 flat
      have leaf : item.arrayLeaves = [item] := by
        cases item <;> first | rfl | cases here
      rw [arrayLeavesOf, leaf, ih later, List.singleton_append]

end Json

namespace Member

/-- Going down into every item is going over the list once and again. -/
theorem flattenDepth_eq_iterate (depth : Nat) (items : List Json) :
    flattenDepth depth items = Json.flattenOnce^[depth] items := by
  induction depth generalizing items with
  | zero => rfl
  | succ depth ih =>
      rw [Function.iterate_succ_apply, Json.flattenOnce_eq_flatMap,
        Json.iterate_flattenOnce_flatMap, flattenDepth]
      refine List.flatMap_congr fun item _ => ?_
      cases item with
      | array inner => exact ih inner
      | _ => exact (Json.iterate_flattenOnce_single rfl depth).symm

/-- Flattening to one depth and then to another is flattening to both together, and depth one
is the flattening of arguments. Arrays are left exactly when the list is nested deeper than
the depth; when none are left, the items are the leaves of the list in their order. -/
theorem flatten_composes (items : List Json) (depth more : Nat) :
    flattenDepth more (flattenDepth depth items) = flattenDepth (depth + more) items ∧
      flattenDepth 1 items = Json.flattenOnce items ∧
      (Json.nestingOf items ≤ depth ↔
        ∀ item ∈ flattenDepth depth items, item.isArray = false) ∧
      (Json.nestingOf items ≤ depth → flattenDepth depth items = Json.arrayLeavesOf items) := by
  have flat : Json.nestingOf items ≤ depth ↔
      ∀ item ∈ flattenDepth depth items, item.isArray = false := by
    rw [← Json.nestingOf_eq_zero_iff, flattenDepth_eq_iterate, Json.nestingOf_iterate,
      Nat.sub_eq_zero_iff_le]
  refine ⟨?_, flattenDepth_eq_iterate 1 items, flat, fun deep => ?_⟩
  · rw [flattenDepth_eq_iterate, flattenDepth_eq_iterate, flattenDepth_eq_iterate,
      Nat.add_comm depth more, Function.iterate_add_apply]
  · calc flattenDepth depth items
        = Json.arrayLeavesOf (flattenDepth depth items) :=
          (Json.arrayLeavesOf_of_flat (flat.1 deep)).symm
      _ = Json.arrayLeavesOf items := by
          rw [flattenDepth_eq_iterate, Json.arrayLeavesOf_iterate]

/-- One item is nested three deep, one is an array in an object, and one array is empty. -/
theorem flatten_composes_uneven :
    let items : List Json := [.null, .array [.bool true, .array [.array [.string "a"]]],
      .array [], .object [("b", .array [.array []])]]
    Json.nestingOf items ≤ 3 ∧
      flattenDepth 1 (flattenDepth 2 items) = flattenDepth 3 items ∧
      flattenDepth 3 items =
        [.null, .bool true, .string "a", .object [("b", .array [.array []])]] := by
  intro items
  have deep : Json.nestingOf items ≤ 3 := by decide
  refine ⟨deep, (flatten_composes items 2 1).1, ?_⟩
  exact ((flatten_composes items 3 0).2.2.2 deep).trans (by decide)

end Member

end Reshape
