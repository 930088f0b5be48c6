/-
Module: Reshape.Proofs.Tree.Members
Purpose: what setting and erasing members does to the values and to the order of the keys.
Main exports: Members.get?_insertAll, Members.keys_insertAll, Members.insertAll_eq_append,
  Members.get?_erase_self, Members.keys_erase
Trusted boundary: none
-/
import Mathlib.Data.List.Nodup
import Reshape.Proofs.Tree.Lens

/-!
# Members in order

A key that is set keeps its place or goes to the end, and an erased key leaves the others
where they are. So the keys after several changes are those before, less the erased ones, and
behind them the new ones in the order in which they were set.
-/

namespace Reshape.Members

variable {key other : String} {value : Json} {members more : Members}

theorem get?_eq_none_iff : get? key members = none ↔ key ∉ keys members := by
  induction members with
  | nil => simp [get?, keys]
  | cons member members ih =>
      obtain ⟨name, held⟩ := member
      by_cases same : name = key
      · simp [get?, keys, same]
      · rw [get?, if_neg same, ih]
        simp [keys, Ne.symm same]

/-! ### Setting one member -/

/-- A key that is there keeps its place. -/
theorem keys_insert {value held : Json} {members : Members} (found : get? key members = some held) :
    keys (insert key value members) = keys members := by
  induction members with
  | nil => cases found
  | cons member members ih =>
      obtain ⟨name, old⟩ := member
      by_cases same : name = key
      · simp [insert, keys, same]
      · rw [get?, if_neg same] at found
        rw [insert, if_neg same]
        exact congrArg (name :: ·) (ih found)

/-- A new key goes to the end. -/
theorem insert_of_notMem {key : String} {members : Members} (new : key ∉ keys members)
    (value : Json) : insert key value members = members ++ [(key, value)] := by
  induction members with
  | nil => rfl
  | cons member rest ih =>
      obtain ⟨name, old⟩ := member
      obtain ⟨differ, new⟩ := not_or.1 (List.mem_cons.not.1 new)
      rw [insert, if_neg (Ne.symm differ), ih new, List.cons_append]

theorem keys_insert_of_notMem (new : key ∉ keys members) (value : Json) :
    keys (insert key value members) = keys members ++ [key] := by
  rw [insert_of_notMem new, keys, List.map_append]
  rfl

/-- The keys that are there stay in front. -/
theorem keys_prefix_insert (key : String) (value : Json) (members : Members) :
    keys members <+: keys (insert key value members) := by
  cases held : get? key members with
  | some old => exact ⟨[], by rw [List.append_nil, keys_insert held]⟩
  | none =>
      rw [keys_insert_of_notMem (get?_eq_none_iff.1 held)]
      exact List.prefix_append _ _

/-! ### Erasing a member -/

theorem keys_erase (key : String) (members : Members) :
    keys (erase key members) = (keys members).erase key := by
  induction members with
  | nil => rfl
  | cons member members ih =>
      obtain ⟨name, held⟩ := member
      by_cases same : name = key
      · simp [erase, keys, same]
      · rw [erase, if_neg same]
        simpa [keys, List.erase_cons, same] using ih

theorem get?_erase_self (distinct : (keys members).Nodup) :
    get? key (erase key members) = none := by
  rw [get?_eq_none_iff, keys_erase]
  exact distinct.not_mem_erase

theorem get?_erase_of_ne (differ : key ≠ other) (members : Members) :
    get? other (erase key members) = get? other members := by
  induction members with
  | nil => rfl
  | cons member members ih =>
      obtain ⟨name, held⟩ := member
      by_cases same : name = key
      · simp [erase, get?, same, differ]
      · rw [erase, if_neg same, get?, get?, ih]

/-! ### Setting many members -/

theorem get?_insertAll_of_notMem (absent : key ∉ keys more) (members : Members) :
    get? key (insertAll members more) = get? key members := by
  induction more generalizing members with
  | nil => rfl
  | cons member more ih =>
      obtain ⟨name, held⟩ := member
      obtain ⟨differ, absent⟩ := not_or.1 (List.mem_cons.not.1 absent)
      exact (ih absent _).trans (get?_insert_of_ne (Ne.symm differ) held members)

/-- A key that is set holds what it is set to. -/
theorem get?_insertAll (distinct : (keys more).Nodup) (set : get? key more = some value)
    (members : Members) : get? key (insertAll members more) = some value := by
  induction more generalizing members with
  | nil => cases set
  | cons member more ih =>
      obtain ⟨name, held⟩ := member
      obtain ⟨first, distinct⟩ := List.nodup_cons.1 distinct
      by_cases same : name = key
      · subst same
        rw [get?, if_pos rfl, Option.some.injEq] at set
        subst set
        exact (get?_insertAll_of_notMem first _).trans (get?_insert_self name held members)
      · rw [get?, if_neg same] at set
        exact ih distinct set _

theorem notMem_of_nodup (distinct : (keys (members ++ (key, value) :: more)).Nodup) :
    key ∉ keys members := by
  rw [keys, List.map_append, List.map_cons, List.nodup_middle, List.nodup_cons] at distinct
  exact fun old => distinct.1 (List.mem_append_left _ old)

/-- Members with keys of their own are added in their order. -/
theorem insertAll_eq_append {members more : Members} (distinct : (keys (members ++ more)).Nodup) :
    insertAll members more = members ++ more := by
  induction more generalizing members with
  | nil => simp [insertAll]
  | cons member more ih =>
      obtain ⟨key, value⟩ := member
      have further : insertAll (members ++ [(key, value)]) more = members ++ [(key, value)] ++ more :=
        ih (by simpa using distinct)
      rw [insertAll, List.foldl_cons, insert_of_notMem (notMem_of_nodup distinct), ← insertAll,
        further]
      simp

/-- The keys that are new go to the end, in the order in which they are set. -/
theorem keys_insertAll (distinct : (keys more).Nodup) (members : Members) :
    keys (insertAll members more) =
      keys members ++ (keys more).filter (· ∉ keys members) := by
  induction more generalizing members with
  | nil => simp [insertAll, keys]
  | cons member more ih =>
      obtain ⟨name, held⟩ := member
      obtain ⟨first, distinct⟩ := List.nodup_cons.1 distinct
      have later : keys (insertAll members ((name, held) :: more)) =
          keys (insert name held members) ++
            (keys more).filter (· ∉ keys (insert name held members)) :=
        ih distinct (insert name held members)
      rw [later]
      cases found : get? name members with
      | some old =>
          have inside : name ∈ keys members := by
            by_contra absent
            rw [get?_eq_none_iff.2 absent] at found
            cases found
          rw [keys_insert found]
          exact congrArg _ (List.filter_cons_of_neg (by simpa using inside)).symm
      | none =>
          have new := get?_eq_none_iff.1 found
          have front : (keys ((name, held) :: more)).filter (· ∉ keys members) =
              name :: (keys more).filter (· ∉ keys members) :=
            List.filter_cons_of_pos (by simpa using new)
          rw [keys_insert_of_notMem new, front, List.append_assoc, List.singleton_append]
          congr 2
          -- the key itself is not set again
          refine List.filter_congr fun later inside => ?_
          have differ : later ≠ name := fun same => first (same ▸ inside)
          simp [differ]

end Reshape.Members
