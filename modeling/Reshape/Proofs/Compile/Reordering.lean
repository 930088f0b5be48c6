/-
Module: Reshape.Proofs.Compile.Reordering
Purpose: what the order of the definitions of a document decides.
Main exports: Query.Document.fragments, Compile.compileDocument_congr,
  Compile.compileDocument_reordered
Trusted boundary: none
-/
import Reshape.Proofs.Compile.Acceptance

/-!
# The order of definitions

Operations and fragments are collected apart, so it does not matter how they alternate. The
order of the fragments decides whether a fragment may be spread in another one, and nothing
else: the rules of a fragment are what its slots stand for in the table of all fragments,
wherever in the table these are.
-/

namespace Reshape

open Query

/-- The fragments of a document. -/
def Query.Document.fragments (document : Document) : Document :=
  document.filter (!·.isOperation)

namespace Compile

open Slot (allRules)

variable {options : Options} {document other : Document}

/-! ### Operations and fragments apart -/

theorem flatMap_programSlots_congr (operations : document.operations = other.operations) :
    document.flatMap (programSlots options) = other.flatMap (programSlots options) := by
  rw [flatMap_programSlots, flatMap_programSlots, operations]

theorem filterMap_fragmentSlots_congr (fragments : document.fragments = other.fragments) :
    document.filterMap (fragmentSlots options) = other.filterMap (fragmentSlots options) := by
  have apart (document : Document) : document.filterMap (fragmentSlots options) =
      document.fragments.filterMap (fragmentSlots options) := by
    rw [Document.fragments, List.filterMap_filter]
    refine List.filterMap_congr fun definition _ => ?_
    cases definition <;> rfl
  rw [apart document, apart other, fragments]

/-- Only the operations among themselves and the fragments among themselves are in order. -/
theorem collect_congr (operations : document.operations = other.operations)
    (fragments : document.fragments = other.fragments) :
    collect options document = collect options other := by
  have sameProgram : document.flatMap (programSlots options) = _ :=
    flatMap_programSlots_congr operations
  have sameFragments : document.filterMap (fragmentSlots options) = _ :=
    filterMap_fragmentSlots_congr fragments
  cases collected : collect options document with
  | ok collection =>
      rw [collect_eq_ok, sameProgram, sameFragments] at collected
      exact (collect_eq_ok.2 collected).symm
  | error e =>
      rw [collect_eq_error, ← map_fst_fragmentSlots options, sameFragments,
        map_fst_fragmentSlots] at collected
      exact (collect_eq_error.2 collected).symm

theorem compileDocument_congr (collected : collect options document = collect options other) :
    (compileDocument options document).map (fun compilation =>
        (compilation.program, compilation.fragments)) =
      (compileDocument options other).map fun compilation =>
        (compilation.program, compilation.fragments) := by
  rw [compileDocument, compileDocument, collected]
  cases (collect options other).bind Collection.finish <;> rfl

/-! ### Fragments in another order -/

/-- Documents with the same definitions fill their fragments with the same rules. -/
theorem lookup_fragments_of_perm {compilation otherCompilation : Compilation}
    (same : document.Perm other) (compiles : compileDocument options document = .ok compilation)
    (otherCompiles : compileDocument options other = .ok otherCompilation) (name : String) :
    compilation.fragments.lookup name = otherCompilation.fragments.lookup name := by
  obtain ⟨-, filled, -⟩ := compileDocument_eq_ok.1 compiles
  by_cases known : (compilation.fragments.lookup name).isSome
  · refine Collection.fillFragments_induction
      (motive := fun name => compilation.fragments.lookup name =
        otherCompilation.fragments.lookup name) filled (by simp) ?_ name known
    intro name slots inside spreads
    obtain ⟨definition, declared, own⟩ := List.mem_filterMap.1 inside
    cases definition with
    | operation header selections => cases own
    | fragment name condition directives selections =>
        cases own
        rw [tabulates_fragments compiles declared,
          tabulates_fragments otherCompiles (same.mem_iff.1 declared), Slot.allRules_congr spreads]
  · have unknown : ¬ (otherCompilation.fragments.lookup name).isSome := by
      rw [Collection.isSome_lookup_iff, map_fst_fragments compiles,
        ((same.filterMap _).map _).mem_iff, ← map_fst_fragments otherCompiles,
        ← Collection.isSome_lookup_iff] at known
      exact known
    rw [Option.not_isSome_iff_eq_none.1 known, Option.not_isSome_iff_eq_none.1 unknown]

/-- Of two documents with the same definitions and their operations in the same order, the
programs are the same when both compile, and every fragment has the same rules. When the
fragments are in the same order as well, the documents compile to the same program and the
same fragments, or neither does, for the same reason. -/
theorem compileDocument_reordered (same : document.Perm other)
    (operations : document.operations = other.operations) :
    (∀ compilation otherCompilation, compileDocument options document = .ok compilation →
      compileDocument options other = .ok otherCompilation →
        compilation.program = otherCompilation.program ∧
          ∀ name, compilation.fragments.lookup name = otherCompilation.fragments.lookup name) ∧
    (document.fragments = other.fragments →
      (compileDocument options document).map (fun compilation =>
          (compilation.program, compilation.fragments)) =
        (compileDocument options other).map fun compilation =>
          (compilation.program, compilation.fragments)) := by
  refine ⟨fun compilation otherCompilation compiles otherCompiles => ?_,
    fun fragments => compileDocument_congr (collect_congr operations fragments)⟩
  have lookups := lookup_fragments_of_perm same compiles otherCompiles
  obtain ⟨-, -, -, program⟩ := compileDocument_eq_ok.1 compiles
  obtain ⟨-, -, -, otherProgram⟩ := compileDocument_eq_ok.1 otherCompiles
  refine ⟨?_, lookups⟩
  rw [program, otherProgram, flatMap_programSlots_congr operations]
  exact congrArg List.reverse (Slot.allRules_congr fun _ fragment _ => lookups fragment)

/-- A fragment is moved before those that it has nothing to do with, and an operation before a
fragment that spreads itself. -/
theorem compileDocument_reordered_moved :
    let shape : Directive := ⟨"shape", []⟩
    let inner : Definition := .fragment "inner" "T" [] [.field none "x" [] [shape] []]
    let outer : Definition := .fragment "outer" "T" [shape]
      [.field none "y" [] [] [.spread "inner" []]]
    let lone : Definition := .fragment "lone" "T" [] [.field none "z" [] [shape] []]
    let query : Definition := .operation none
      [.field none "a" [] [] [.spread "outer" [], .spread "lone" [shape], .spread "inner" []]]
    let cyclic : Definition := .fragment "cyclic" "T" [] [.spread "cyclic" []]
    let rules := ["a.x", "a.z", "a", "a.y.x", "a"].map fun address => Rule.mk ⟨address⟩ []
    (∃ compilation otherCompilation,
      compileDocument .standard [inner, outer, query, lone] = .ok compilation ∧
        compileDocument .standard [query, lone, inner, outer] = .ok otherCompilation ∧
        otherCompilation.program = rules ∧ compilation.program = otherCompilation.program ∧
        ∀ name, compilation.fragments.lookup name = otherCompilation.fragments.lookup name) ∧
      (compileDocument .standard [cyclic, query]).map (fun compilation =>
          (compilation.program, compilation.fragments)) =
        (compileDocument .standard [query, cyclic]).map fun compilation =>
          (compilation.program, compilation.fragments) := by
  intro shape inner outer lone query cyclic rules
  have moved : ([inner, outer] ++ [query, lone]).Perm ([query, lone] ++ [inner, outer]) :=
    List.perm_append_comm
  have compiles : compileDocument .standard [inner, outer, query, lone] = .ok ⟨_, rules, _⟩ := rfl
  have otherCompiles : compileDocument .standard [query, lone, inner, outer] =
    .ok ⟨_, rules, _⟩ := rfl
  refine ⟨⟨_, _, compiles, otherCompiles, rfl, ?_⟩, ?_⟩
  · exact (compileDocument_reordered moved rfl).1 _ _ compiles otherCompiles
  · exact (compileDocument_reordered (.swap query cyclic []) rfl).2 rfl

end Compile

end Reshape
