/-
Module: Reshape.Proofs.Replay.Chain
Purpose: what of its surroundings a chain of operations depends on, and when it asks
  for edits.
Main exports: Operation.navigates, Operation.isStructural, Replay.runChain_congr,
  Replay.runChain_edits
Trusted boundary: none
-/
import Reshape.Proofs.Except
import Reshape.Replay.Chain

/-!
# What a chain looks at

A chain sees of its surroundings only what its operations navigate to, at any depth of
`each`. Only hoisting and renaming at the top of a chain ask for edits.
-/

namespace Reshape

namespace Operation

mutual

/-- Whether an operation navigates in the given scope, itself or in a chain of `each`. -/
def navigates (scope : Scope) : Operation → Bool
  | .navigate other _ => other == scope
  | .each operations => navigatesAny scope operations
  | .hoist _ | .rename _ | .assign _ | .call _ _ => false

def navigatesAny (scope : Scope) : List Operation → Bool
  | [] => false
  | operation :: rest => navigates scope operation || navigatesAny scope rest

end

/-- The operations that ask for edits of the enclosing object. -/
def isStructural : Operation → Bool
  | .hoist _ | .rename _ => true
  | .navigate _ _ | .each _ | .assign _ | .call _ _ => false

end Operation

namespace Replay

open Operation (navigates navigatesAny)

variable {first second : Setting}

mutual

/-- Two settings that agree on what a chain navigates to are the same for the chain. -/
theorem runChain_congr (calls : first.dispatcher = second.dispatcher) :
    ∀ (operations : List Operation)
      (_root : first.sight.root = second.sight.root ∨ navigatesAny .root operations = false)
      (_parent : first.sight.parent? = second.sight.parent? ∨
        navigatesAny .parent operations = false)
      (trace : Trace) (value : Json),
      runChain first operations trace value = runChain second operations trace value
  | [], _, _, _, _ => by simp only [runChain]
  | operation :: rest, root, parent, trace, value => by
      simp only [navigatesAny, Bool.or_eq_false_iff] at root parent
      have here := runOperation_congr calls operation (root.imp_right And.left)
        (parent.imp_right And.left) trace value
      have later := runChain_congr calls rest (root.imp_right And.right)
        (parent.imp_right And.right)
      simp only [runChain, here, later]

theorem runOperation_congr (calls : first.dispatcher = second.dispatcher) :
    ∀ (operation : Operation)
      (_root : first.sight.root = second.sight.root ∨ navigates .root operation = false)
      (_parent : first.sight.parent? = second.sight.parent? ∨ navigates .parent operation = false)
      (trace : Trace) (value : Json),
      runOperation first operation trace value = runOperation second operation trace value
  | .navigate .current path, _, _, trace, value => by simp only [runOperation, calls]
  | .navigate .parent path, _, parent, trace, value => by
      have same : first.sight.parent? = second.sight.parent? :=
        parent.resolve_right (by simp [navigates])
      simp only [runOperation, calls, same]
  | .navigate .root path, root, _, trace, value => by
      have same : first.sight.root = second.sight.root := root.resolve_right (by simp [navigates])
      simp only [runOperation, calls, same]
  | .each operations, root, parent, trace, value => by
      simp only [navigates] at root parent
      have inside := runChain_congr calls operations root parent
      simp only [runOperation, calls, inside]
  | .hoist keep, _, _, trace, value => by simp only [runOperation, calls]
  | .rename key, _, _, trace, value => by simp only [runOperation, calls]
  | .assign args, _, _, trace, value => by simp only [runOperation, calls]
  | .call name args, _, _, trace, value => by simp only [runOperation, calls]

end

/-! ### Edits -/

theorem runOperation_edits {setting : Setting} {operation : Operation} {trace : Trace}
    {value next : Json} {edits : List Edit} (plain : operation.isStructural = false)
    (runs : runOperation setting operation trace value = .ok (next, edits)) : edits = [] := by
  have unedited {result : Except CallError Json}
      (given : result.map (·, []) = .ok (next, edits)) : edits = [] := by
    obtain ⟨value, -, same⟩ := map_eq_ok.1 given
    cases same
    rfl
  unfold runOperation at runs
  split at runs
  · cases runs
    rfl
  · cases operation with
    | navigate scope path =>
        cases scope with
        | current => exact unedited runs
        | parent =>
            cases around : setting.sight.parent? with
            | none =>
                rw [around] at runs
                cases runs
                rfl
            | some parent =>
                rw [around] at runs
                exact unedited runs
        | root => exact unedited runs
    | each operations =>
        cases value with
        | array items =>
            obtain ⟨results, -, same⟩ := bind_eq_ok.1 runs
            cases same
            rfl
        | _ =>
            obtain ⟨⟨result, dropped⟩, -, same⟩ := bind_eq_ok.1 runs
            cases same
            rfl
    | hoist keep => cases plain
    | rename key => cases plain
    | assign args =>
        cases runs
        rfl
    | call name args => exact unedited runs

/-- A chain without hoisting and renaming at its top asks for no edits. -/
theorem runChain_edits {setting : Setting} {operations : List Operation}
    (plain : ∀ operation ∈ operations, operation.isStructural = false) {trace : Trace}
    {value last : Json} {edits : List Edit}
    (runs : runChain setting operations trace value = .ok (last, edits)) : edits = [] := by
  induction operations generalizing trace value edits with
  | nil =>
      simp only [runChain, Except.ok.injEq, Prod.mk.injEq] at runs
      exact runs.2.symm
  | cons operation rest ih =>
      rw [runChain] at runs
      obtain ⟨⟨next, own⟩, here, runs⟩ := bind_eq_ok.1 runs
      obtain ⟨⟨_, more⟩, later, same⟩ := bind_eq_ok.1 runs
      cases same
      rw [runOperation_edits (plain operation (by simp)) here,
        ih (fun other inside => plain other (by simp [inside])) later, List.append_nil]

end Replay

end Reshape
