/-
Module: Reshape.Proofs.Call.Switching
Purpose: that a comparison with several arguments takes the result of the first pair whose test the
  value passes.
Main exports: Builtin.Passes, Builtin.Decides, Builtin.conditional_first_match
Trusted boundary: none
-/
import Mathlib.Data.Nat.Find
import Mathlib.Order.Nat
import Reshape.Call.Builtin.Catalog
import Reshape.Pattern.Reader

/-!
# Switches

The arguments of a switch are counted in pairs, a test at every even position and its result behind
it. A switch goes through the pairs from the front, so what it gives is told by the position of the
first pair whose test the value passes; without one it is told by what is left behind the pairs.
-/

namespace Reshape.Builtin

variable {test other : Test} {value candidate result : Json} {args rest : List Json}
  {position : Nat}

/-- The arguments have a pair at a position, and the value passes its test. -/
def Passes (test : Test) (value : Json) (args : List Json) (position : Nat) : Prop :=
  2 * position + 1 < args.length ∧ args[2 * position]?.any (test value) = true

instance : Decidable (Passes test value args position) :=
  inferInstanceAs (Decidable (_ ∧ _))

/-- The first pair whose test the value passes. -/
structure Decides (test : Test) (value : Json) (args : List Json) (position : Nat) : Prop where
  passes : Passes test value args position
  first : ∀ earlier < position, ¬ Passes test value args earlier

instance : Decidable (Decides test value args position) :=
  decidable_of_iff
    (Passes test value args position ∧ ∀ earlier < position, ¬ Passes test value args earlier)
    ⟨fun ⟨passes, first⟩ => ⟨passes, first⟩, fun ⟨passes, first⟩ => ⟨passes, first⟩⟩

/-! ### Pair by pair -/

theorem not_passes_of_length_le (short : args.length ≤ 1) : ¬ Passes test value args position := by
  rintro ⟨bounded, -⟩
  omega

theorem passes_zero_iff :
    Passes test value (candidate :: result :: rest) 0 ↔ test value candidate = true := by
  simp [Passes]

theorem passes_succ_iff :
    Passes test value (candidate :: result :: rest) (position + 1) ↔
      Passes test value rest position := by
  rw [Passes, Passes, Nat.mul_add_one, List.getElem?_cons_succ, List.getElem?_cons_succ,
    List.length_cons, List.length_cons]
  simp only [and_congr_left_iff]
  omega

theorem Decides.tail (decides : Decides test value (candidate :: result :: rest) (position + 1)) :
    Decides test value rest position :=
  ⟨passes_succ_iff.1 decides.passes, fun earlier before passes =>
    decides.first (earlier + 1) (by omega) (passes_succ_iff.2 passes)⟩

/-- Where some test is passed, there is a first one. -/
theorem exists_decides (passes : ∃ position, Passes test value args position) :
    ∃ first, Decides test value args first := by
  exact ⟨Nat.find passes, Nat.find_spec passes, fun earlier before => Nat.find_min passes before⟩

theorem Decides.unique {first : Nat} (one : Decides test value args position)
    (other : Decides test value args first) : position = first :=
  Nat.le_antisymm (Nat.le_of_not_lt fun before => one.first first before other.passes)
    (Nat.le_of_not_lt fun before => other.first position before one.passes)

/-- Whether a test is passed is told by the arguments up to its result. -/
theorem passes_take_append_iff {first : Nat} (bounded : 2 * first + 1 < args.length)
    (within : position ≤ first) (later : List Json) :
    Passes test value (args.take (2 * first + 2) ++ later) position ↔
      Passes test value args position := by
  have taken : (args.take (2 * first + 2)).length = 2 * first + 2 := by
    rw [List.length_take]
    omega
  rw [Passes, Passes, List.getElem?_append_left (by omega), List.getElem?_take_of_lt (by omega),
    List.length_append, taken]
  simp only [and_congr_left_iff]
  omega

theorem Decides.take_append (decides : Decides test value args position) (later : List Json) :
    Decides test value (args.take (2 * position + 2) ++ later) position := by
  have bounded := decides.passes.1
  exact ⟨(passes_take_append_iff bounded le_rfl later).2 decides.passes,
    fun earlier before passes =>
      decides.first earlier before ((passes_take_append_iff bounded before.le later).1 passes)⟩

/-! ### What a switch gives -/

/-- The first pair whose test is passed gives its result. -/
theorem switch_of_decides (decides : Decides test value args position) :
    args[2 * position + 1]? = some (switch test value args) := by
  induction args using switch.induct test value generalizing position with
  | case1 => exact absurd decides.passes (not_passes_of_length_le (by simp))
  | case2 fallback => exact absurd decides.passes (not_passes_of_length_le (by simp))
  | case3 candidate result rest passed =>
      cases position with
      | zero => simp [switch, passed]
      | succ position => exact absurd (passes_zero_iff.2 passed) (decides.first 0 (by omega))
  | case4 candidate result rest failed ih =>
      cases position with
      | zero => exact absurd (passes_zero_iff.1 decides.passes) failed
      | succ position =>
          rw [switch, if_neg failed, Nat.mul_add_one, List.getElem?_cons_succ,
            List.getElem?_cons_succ]
          exact ih decides.tail

/-- Without such a pair, what is left behind the pairs is given, else the value. -/
theorem switch_of_not_passes (fails : ∀ position, ¬ Passes test value args position) :
    (args.length % 2 = 1 → args.getLast? = some (switch test value args)) ∧
      (args.length % 2 = 0 → switch test value args = value) := by
  induction args using switch.induct test value with
  | case1 => simp [switch]
  | case2 fallback => simp [switch]
  | case3 candidate result rest passed => exact absurd (passes_zero_iff.2 passed) (fails 0)
  | case4 candidate result rest failed ih =>
      obtain ⟨odd, even⟩ := ih fun position passes => fails (position + 1) (passes_succ_iff.2 passes)
      rw [switch, if_neg failed, List.length_cons, List.length_cons]
      refine ⟨fun isOdd => ?_, fun isEven => even (by omega)⟩
      have last := odd (by omega)
      cases rest with
      | nil => simp at isOdd
      | cons next more => rwa [List.getLast?_cons_cons, List.getLast?_cons_cons]

/-- A switch asks the test of the first arguments of pairs alone. -/
theorem switch_congr
    (agree : ∀ position candidate, 2 * position + 1 < args.length →
      args[2 * position]? = some candidate → other value candidate = test value candidate) :
    switch other value args = switch test value args := by
  induction args using switch.induct test value with
  | case1 => rfl
  | case2 fallback => rfl
  | case3 candidate result rest passed =>
      have here := agree 0 candidate (by simp) rfl
      rw [switch, switch, here]
      simp [passed]
  | case4 candidate result rest failed ih =>
      have here := agree 0 candidate (by simp) rfl
      rw [switch, switch, here, if_neg failed, if_neg failed]
      refine ih fun position candidate bounded given => agree (position + 1) candidate ?_ ?_
      · rw [List.length_cons, List.length_cons]
        omega
      · rw [Nat.mul_add_one, List.getElem?_cons_succ, List.getElem?_cons_succ, given]

/-- The result of a pair whose test fails has no influence. -/
theorem switch_set (fails : ¬ Passes test value args position) :
    switch test value (args.set (2 * position + 1) result) = switch test value args := by
  induction args using switch.induct test value generalizing position with
  | case1 => rfl
  | case2 fallback => rfl
  | case3 candidate old rest passed =>
      cases position with
      | zero => exact absurd (passes_zero_iff.2 passed) fails
      | succ position =>
          rw [Nat.mul_add_one, List.set_cons_succ, List.set_cons_succ, switch, switch,
            if_pos passed, if_pos passed]
  | case4 candidate old rest failed ih =>
      cases position with
      | zero =>
          rw [Nat.mul_zero, Nat.zero_add, List.set_cons_succ, List.set_cons_zero, switch, switch,
            if_neg failed, if_neg failed]
      | succ position =>
          rw [Nat.mul_add_one, List.set_cons_succ, List.set_cons_succ, switch, switch,
            if_neg failed, if_neg failed]
          exact ih fun passes => fails (passes_succ_iff.2 passes)

/-! ### A single argument -/

/-- Only a single argument is no switch. -/
theorem conditional_of_length_ne_one (several : args.length ≠ 1) :
    conditional test value args = switch test value args := by
  rw [conditional.eq_def]
  split
  · simp at several
  · rfl

theorem Passes.length_ne_one (passes : Passes test value args position) : args.length ≠ 1 := by
  have bounded := passes.1
  omega

/-- The result of the pair that decides is given; a single argument is no pair. -/
theorem conditional_of_decides (decides : Decides test value args position) :
    args[2 * position + 1]? = some (conditional test value args) := by
  rw [conditional_of_length_ne_one decides.passes.length_ne_one]
  exact switch_of_decides decides

/-- What follows the pair that decides has no influence. -/
theorem conditional_take_append (decides : Decides test value args position) (later : List Json) :
    conditional test value (args.take (2 * position + 2) ++ later) =
      conditional test value args := by
  have bounded := decides.passes.1
  have there := conditional_of_decides (decides.take_append later)
  rw [List.getElem?_append_left (by rw [List.length_take]; omega),
    List.getElem?_take_of_lt (by omega), conditional_of_decides decides] at there
  exact (Option.some.inj there).symm

/-- The result of a pair whose test fails has no influence; a single argument is no pair. -/
theorem conditional_set (fails : ¬ Passes test value args position) :
    conditional test value (args.set (2 * position + 1) result) = conditional test value args := by
  by_cases single : args.length = 1
  · obtain ⟨candidate, rfl⟩ := List.length_eq_one_iff.1 single
    rw [List.set_cons_succ, List.set_nil]
  · rw [conditional_of_length_ne_one single,
      conditional_of_length_ne_one (by rwa [List.length_set]), switch_set fails]

/-- The functions that compare, by name. -/
def family : List (String × Test) := [
  ("eq", Json.agrees),
  ("ne", fun a b => !a.agrees b),
  ("gt", isGreater),
  ("gte", isGreaterOrEqual),
  ("lt", isLess),
  ("lte", isLessOrEqual)]

theorem call_family [Pattern.Library] {name : String} (inside : (name, test) ∈ family) (value : Json)
    (args : List Json) :
    Registry.builtin.call name value args = .ok (conditional test value args) := by
  simp only [family, List.mem_cons, Prod.mk.injEq, List.not_mem_nil, or_false] at inside
  rcases inside with ⟨rfl, rfl⟩ | ⟨rfl, rfl⟩ | ⟨rfl, rfl⟩ | ⟨rfl, rfl⟩ | ⟨rfl, rfl⟩ | ⟨rfl, rfl⟩ <;> rfl

/-- A comparison with one argument tells whether the value passes it. Otherwise the first pair of
arguments whose test is passed gives its result, whatever follows it; without such a pair an argument
left over is given, and the value when there is none. So an argument left over is never asked as a
test, and the result of a pair whose test fails, the first one too, is never given. -/
theorem conditional_first_match [Pattern.Library] (test : Test) (value : Json) (args : List Json) :
    (∀ name, (name, test) ∈ family →
      Registry.builtin.call name value args = .ok (conditional test value args)) ∧
    (∀ candidate, args = [candidate] →
      conditional test value args = .bool (test value candidate)) ∧
    ((∃ position, Passes test value args position) → ∃ first, Decides test value args first ∧
      args[2 * first + 1]? = some (conditional test value args) ∧
      ∀ later, conditional test value (args.take (2 * first + 2) ++ later) =
        conditional test value args) ∧
    (args.length ≠ 1 → (∀ position, ¬ Passes test value args position) →
      (args.length % 2 = 1 → args.getLast? = some (conditional test value args)) ∧
      (args.length % 2 = 0 → conditional test value args = value)) ∧
    (args.length ≠ 1 → ∀ other : Test,
      (∀ position candidate, 2 * position + 1 < args.length →
        args[2 * position]? = some candidate → other value candidate = test value candidate) →
      conditional other value args = conditional test value args) ∧
    ∀ position result, ¬ Passes test value args position →
      conditional test value (args.set (2 * position + 1) result) =
        conditional test value args := by
  refine ⟨fun name inside => call_family inside value args, ?single, ?decided, ?default, ?asked,
    fun position result fails => conditional_set fails⟩
  case single =>
    rintro candidate rfl
    rfl
  case decided =>
    intro passes
    obtain ⟨first, decides⟩ := exists_decides passes
    exact ⟨first, decides, conditional_of_decides decides, conditional_take_append decides⟩
  case default =>
    intro several fails
    rw [conditional_of_length_ne_one several]
    exact switch_of_not_passes fails
  case asked =>
    intro several other agree
    rw [conditional_of_length_ne_one several, conditional_of_length_ne_one several]
    exact switch_congr agree

/-- A pair in the middle that decides, and an argument left over that is given. -/
theorem conditional_first_match_middle :
    let args : List Json := [.string "a", .bool false, .string "b", .bool true, .string "c"]
    (Decides Json.agrees (.string "b") args 1 ∧
      Registry.builtin.call "eq" (.string "b") args = .ok (.bool true)) ∧
    (args.length ≠ 1 ∧ ∀ position, ¬ Passes Json.agrees (.string "c") args position) ∧
      Registry.builtin.call "eq" (.string "c") args = .ok (.string "c") := by
  intro args
  have decides : Decides Json.agrees (.string "b") args 1 := by decide
  have fails : ∀ position, ¬ Passes Json.agrees (.string "c") args position := by
    intro position passes
    have bounded : position < 2 := by
      have bounded := passes.1
      simp only [args, List.length_cons, List.length_nil] at bounded
      omega
    have none : ∀ position < 2, ¬ Passes Json.agrees (.string "c") args position := by decide
    exact none position bounded passes
  obtain ⟨call, -, decided, -⟩ := conditional_first_match Json.agrees (.string "b") args
  obtain ⟨first, found, here, -⟩ := decided ⟨1, decides.passes⟩
  obtain ⟨fallsBack, -, -, default, -⟩ := conditional_first_match Json.agrees (.string "c") args
  obtain rfl : 1 = first := decides.unique found
  refine ⟨⟨decides, ?_⟩, ⟨by decide, fails⟩, ?_⟩
  · rw [call "eq" (by simp [family]), ← Option.some.inj here]
  · have last := (default (by decide) fails).1 (by decide)
    rw [fallsBack "eq" (by simp [family]), ← Option.some.inj last]
    rfl

end Reshape.Builtin
