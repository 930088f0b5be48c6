/-
Module: Reshape.Proofs.Call.Equality
Purpose: which integers the functions that compare values tell apart.
Main exports: Json.SameDouble, Builtin.integers_compared_by_double
Trusted boundary: none
-/
import Reshape.Call.Builtin.Catalog
import Reshape.Pattern.Reader
import Reshape.Proofs.Call.Splitting
import Reshape.Proofs.Decimal.Nearest

/-!
# Comparing integers

Numbers are compared by their doubles. Two integers below `2 ^ 53` have the same double only when
they are the same; above, neighbours share one, and no function that compares can tell these apart.
-/

namespace Reshape

open Double (nearestInt)

namespace Json

/-- Two integers round to the same double. -/
def SameDouble (a b : Integer) : Prop :=
  nearestInt a.1 = nearestInt b.1

instance (a b : Integer) : Decidable (SameDouble a b) :=
  inferInstanceAs (Decidable (nearestInt a.1 = nearestInt b.1))

theorem agrees_ofInteger (a b : Integer) :
    (ofInteger a).agrees (ofInteger b) = decide (SameDouble a b) :=
  Number.beq_doubleOfInt a.natAbs_lt b.natAbs_lt

/-- Two identifiers that are taken for each other. -/
theorem not_agrees_exact :
    ¬ ∀ a b : Integer, (ofInteger a).agrees (ofInteger b) = true ↔ a = b := by
  intro exact
  have confused := (exact ⟨2 ^ 53 + 1, by decide⟩ ⟨2 ^ 53, by decide⟩).1 (by decide +kernel)
  exact absurd confused (by decide)

/-- Integers that are taken for each other do not fit 53 bits. -/
theorem SameDouble.eq_or_le {a b : Integer} (same : SameDouble a b) :
    a = b ∨ 2 ^ 53 ≤ a.1.natAbs ∧ 2 ^ 53 ≤ b.1.natAbs :=
  (Double.eq_or_le_of_nearestInt_eq same).imp_left Subtype.ext

end Json

open Json (Integer ofInteger SameDouble)

/-! ### Switches -/

namespace Builtin

variable {test : Test} {value : Json}

/-- A switch over pairs takes the result of the first one whose test passes, then the argument
that is left over, then the value. -/
theorem switch_pairs (test : Test) (value : Json) (pairs : List (Json × Json))
    (fallback : Option Json) :
    switch test value (pairs.flatMap (fun pair => [pair.1, pair.2]) ++ fallback.toList) =
      ((pairs.find? fun pair => test value pair.1).map Prod.snd).getD (fallback.getD value) := by
  induction pairs with
  | nil => cases fallback <;> rfl
  | cons pair pairs ih =>
      rw [List.find?_cons]
      change (if test value pair.1 then _ else _) = _
      cases test value pair.1 with
      | true => rfl
      | false => exact ih

/-- The arguments of a switch over integers. -/
def switchArgs (pairs : List (Integer × Json)) (fallback : Option Json) : List Json :=
  pairs.flatMap (fun pair => [ofInteger pair.1, pair.2]) ++ fallback.toList

theorem conditional_switchArgs {pairs : List (Integer × Json)} (some_pair : pairs ≠ [])
    (fallback : Option Json) :
    conditional test value (switchArgs pairs fallback) =
      ((pairs.find? fun pair => test value (ofInteger pair.1)).map Prod.snd).getD
        (fallback.getD value) := by
  obtain ⟨pair, rest, rfl⟩ := List.exists_cons_of_ne_nil some_pair
  have switched := switch_pairs test value
    ((pair :: rest).map fun pair => (ofInteger pair.1, pair.2)) fallback
  rw [List.flatMap_map, List.find?_map, Option.map_map] at switched
  exact switched

/-! ### Among lists -/

theorem any_agrees_ofInteger (a : Integer) (bs : List Integer) :
    ((bs.map ofInteger).any fun candidate => (ofInteger a).agrees candidate) =
      decide (∃ b ∈ bs, SameDouble a b) := by
  simp [Json.agrees_ofInteger, List.any_eq]

theorem containsAny_ofInteger {args : List Json} {as bs : List Integer}
    (items : value.toItems = as.map ofInteger)
    (candidates : Json.flattenOnce args = bs.map ofInteger) :
    containsAny value args = decide (∃ a ∈ as, ∃ b ∈ bs, SameDouble a b) := by
  rw [containsAny, items, candidates, List.any_map]
  simp only [Function.comp_def, any_agrees_ofInteger]
  simp only [List.any_eq, decide_eq_true_eq]

/-- The position of the first integer with the same double as `b`, or -1 when there is none. -/
def IsPositionOf (b : Integer) (as : List Integer) (position : Int) : Prop :=
  position = -1 ∧ (∀ a ∈ as, ¬ SameDouble a b) ∨
    ∃ before a after, as = before ++ a :: after ∧ position = before.length ∧
      SameDouble a b ∧ ∀ c ∈ before, ¬ SameDouble c b

theorem indexOfItem_ofInteger (as : List Integer) (b : Integer) :
    ∃ position : Int,
      Member.indexOfItem (as.map ofInteger) [ofInteger b] = .ofInt position ∧
      IsPositionOf b as position := by
  have found : (as.map ofInteger).findIdx? (fun item => item.agrees (ofInteger b)) =
      as.findIdx? fun a => decide (SameDouble a b) := by
    simp [List.findIdx?_map, Function.comp_def, Json.agrees_ofInteger]
  rw [Member.indexOfItem, List.getElem?_cons_zero, Option.getD_some, found]
  cases first : as.findIdx? fun a => decide (SameDouble a b) with
  | none =>
      rw [List.findIdx?_eq_none_iff] at first
      exact ⟨-1, rfl, .inl ⟨rfl, by simpa using first⟩⟩
  | some position =>
      obtain ⟨bounded, agrees, earlier⟩ := List.findIdx?_eq_some_iff_getElem.1 first
      have parted : as = as.take position ++ as[position] :: as.drop (position + 1) := by
        rw [← List.drop_eq_getElem_cons bounded, List.take_append_drop]
      refine ⟨position, rfl, .inr ⟨_, _, _, parted, ?_, by simpa using agrees, ?_⟩⟩
      · rw [List.length_take, Nat.min_eq_left (by omega)]
      · intro c before
        obtain ⟨j, short, rfl⟩ := List.mem_take_iff_getElem.1 before
        simpa using earlier j (by omega)

/-- The functions that compare take two integers for each other exactly when they round to the
same double, which below `2 ^ 53` no two integers do. -/
theorem integers_compared_by_double [Pattern.Library] (a b : Integer) (as bs : List Integer) :
    (((ofInteger a).agrees (ofInteger b) = true ↔ SameDouble a b) ∧
      (SameDouble a b → a = b ∨ 2 ^ 53 ≤ a.1.natAbs ∧ 2 ^ 53 ≤ b.1.natAbs)) ∧
    (Registry.builtin.call "eq" (ofInteger a) [ofInteger b] = .ok (.bool (SameDouble a b)) ∧
      Registry.builtin.call "ne" (ofInteger a) [ofInteger b] = .ok (.bool (¬ SameDouble a b))) ∧
    (∀ (pairs : List (Integer × Json)) (fallback : Option Json), pairs ≠ [] →
      Registry.builtin.call "eq" (ofInteger a) (switchArgs pairs fallback) =
        .ok (((pairs.find? fun pair => SameDouble a pair.1).map Prod.snd).getD
          (fallback.getD (ofInteger a))) ∧
      Registry.builtin.call "ne" (ofInteger a) (switchArgs pairs fallback) =
        .ok (((pairs.find? fun pair => ¬ SameDouble a pair.1).map Prod.snd).getD
          (fallback.getD (ofInteger a)))) ∧
    (∀ (value : Json) (args : List Json),
      value.toItems = as.map ofInteger → Json.flattenOnce args = bs.map ofInteger →
      Registry.builtin.call "in" value args =
        .ok (.bool (∃ a ∈ as, ∃ b ∈ bs, SameDouble a b)) ∧
      Registry.builtin.call "nin" value args =
        .ok (.bool (¬ ∃ a ∈ as, ∃ b ∈ bs, SameDouble a b))) ∧
    Member.Gives (.array (as.map ofInteger)) "includes" [ofInteger b]
      (.bool (∃ a ∈ as, SameDouble a b)) ∧
    ∃ position : Int,
      Member.Gives (.array (as.map ofInteger)) "indexOf" [ofInteger b] (.ofInt position) ∧
      IsPositionOf b as position := by
  refine ⟨⟨?agreement, Json.SameDouble.eq_or_le⟩, ⟨?eq, ?ne⟩,
    fun pairs fallback some_pair => ⟨?eqSwitch, ?neSwitch⟩,
    fun value args items candidates => ⟨?isIn, ?isNotIn⟩, ?includes, ?indexOf⟩
  case agreement => rw [Json.agrees_ofInteger, decide_eq_true_eq]
  case eq =>
    change Except.ok (Json.bool ((ofInteger a).agrees (ofInteger b))) = _
    rw [Json.agrees_ofInteger]
  case ne =>
    change Except.ok (Json.bool (!(ofInteger a).agrees (ofInteger b))) = _
    rw [Json.agrees_ofInteger, decide_not]
  case eqSwitch =>
    change Except.ok (conditional Json.agrees _ _) = _
    rw [conditional_switchArgs some_pair]
    simp only [Json.agrees_ofInteger]
  case neSwitch =>
    change Except.ok (conditional (fun a b => !a.agrees b) _ _) = _
    rw [conditional_switchArgs some_pair]
    simp only [Json.agrees_ofInteger, decide_not]
  case isIn =>
    change Except.ok (Json.bool (containsAny value args)) = _
    rw [containsAny_ofInteger items candidates]
  case isNotIn =>
    change Except.ok (Json.bool (!containsAny value args)) = _
    rw [containsAny_ofInteger items candidates, decide_not]
  case includes =>
    simp [Member.Gives, Member.find?, Member.ofItems?, Json.agrees_ofInteger, List.any_eq]
  case indexOf =>
    obtain ⟨position, index, described⟩ := indexOfItem_ofInteger as b
    refine ⟨position, ?_, described⟩
    simp [Member.Gives, Member.find?, Member.ofItems?, index]

/-- Two neighbours that share a double. -/
theorem integers_compared_by_double_neighbours :
    ∃ a b : Integer, a ≠ b ∧
      Registry.builtin.call "in" (ofInteger a) [.array [ofInteger b]] = .ok (.bool true) ∧
      Registry.builtin.call "eq" (ofInteger a) [ofInteger b, .string "same"] =
        .ok (.string "same") := by
  let a : Integer := ⟨2 ^ 53 + 1, by decide⟩
  let b : Integer := ⟨2 ^ 53, by decide⟩
  have same : SameDouble a b := by decide +kernel
  obtain ⟨-, -, switches, lists, -⟩ := integers_compared_by_double a b [a] [b]
  have among := (lists (ofInteger a) [.array [ofInteger b]] rfl rfl).1
  have switched := (switches [(b, .string "same")] none (List.cons_ne_nil _ _)).1
  refine ⟨a, b, by decide, ?_, ?_⟩
  · simpa [same] using among
  · simpa [same, switchArgs] using switched

end Builtin

end Reshape
