/-
Module: Reshape.Proofs.Replay.NullPassing
Purpose: rules whose operations do not ask for null pass over every match that is null, and
  over every null item inside `each`.
Main exports: Operation.Within, Operation.AsksForNull, Replay.runChain_null, Rule.null_passes
Trusted boundary: none
-/
import Reshape.Proofs.Replay.References
import Reshape.Proofs.Tree.Stopping
import Reshape.Replay.Run

/-!
# Passing over null

Whether an operation runs on null is decided by its kind, and for a call by what is
registered under its name. A chain of operations that do not ask for null has no way to leave
it: each one hands it on, so the next one finds it again. What the operations say is not even
looked at, and no edit is asked for. A chain inside `each` starts on every item anew.
-/

namespace Reshape

namespace Operation

/-- An operation stands in a chain, at any depth of `each`. -/
inductive Within : Operation → List Operation → Prop where
  | here {operation : Operation} {operations : List Operation}
      (listed : operation ∈ operations) : Within operation operations
  | deeper {operation : Operation} {inner operations : List Operation}
      (listed : .each inner ∈ operations) (within : Within operation inner) :
      Within operation operations

/-- What stands in the chain of an `each` stands in the chain that this one stands in. -/
theorem Within.of_each {operation : Operation} {inner operations : List Operation}
    (outer : Within (.each inner) operations) (listed : operation ∈ inner) :
    Within operation operations := by
  generalize same : Operation.each inner = each at outer
  induction outer with
  | here outer => exact .deeper (same ▸ outer) (.here listed)
  | deeper outer _ ih => exact .deeper outer ih

@[simp] theorem not_within_nil (operation : Operation) : ¬ operation.Within [] := by
  rintro (⟨⟨⟩⟩ | ⟨⟨⟩, -⟩)

/-- What stands in a chain is its first operation, stands in the chain of that one, or stands
in the rest. -/
@[simp] theorem within_cons {operation first : Operation} {rest : List Operation} :
    operation.Within (first :: rest) ↔ operation = first ∨
      (∃ inner, first = .each inner ∧ operation.Within inner) ∨ operation.Within rest := by
  constructor
  · rintro (listed | ⟨listed, within⟩)
    · exact (List.mem_cons.1 listed).imp id fun listed => .inr (.here listed)
    · rcases List.mem_cons.1 listed with same | listed
      · exact .inr (.inl ⟨_, same.symm, within⟩)
      · exact .inr (.inr (.deeper listed within))
  · rintro (rfl | ⟨inner, rfl, within⟩ | listed | ⟨listed, within⟩)
    · exact .here List.mem_cons_self
    · exact .deeper List.mem_cons_self within
    · exact .here (List.mem_cons_of_mem _ listed)
    · exact .deeper (List.mem_cons_of_mem _ listed) within

/-- An operation that runs on null: an assignment, one that navigates away from the value, or
the call of a function that is registered as safe on null. -/
inductive AsksForNull (dispatcher : Dispatcher) : Operation → Prop where
  | assign (args : List Json) : AsksForNull dispatcher (.assign args)
  | parent (path : String) : AsksForNull dispatcher (.navigate .parent path)
  | root (path : String) : AsksForNull dispatcher (.navigate .root path)
  | call {name : String} {entry : Registered} (args : List Json)
      (registered : dispatcher.registry.find? name = some entry)
      (safe : entry.nullSafe = true) : AsksForNull dispatcher (.call name args)

end Operation

namespace Replay

open Operation (AsksForNull)

theorem runsOnNull_iff {dispatcher : Dispatcher} {operation : Operation} :
    runsOnNull dispatcher operation = true ↔ operation.AsksForNull dispatcher := by
  constructor
  · intro runs
    match operation with
    | .navigate .parent path => exact .parent path
    | .navigate .root path => exact .root path
    | .assign args => exact .assign args
    | .call name args =>
        simp only [runsOnNull, Dispatcher.isNullSafe, Registry.isNullSafe] at runs
        cases registered : dispatcher.registry.find? name with
        | none => simp [registered] at runs
        | some entry => exact .call args registered (by simpa [registered] using runs)
    | .navigate .current path => exact absurd runs (by simp [runsOnNull])
    | .each _ | .hoist _ | .rename _ => exact absurd runs (by simp [runsOnNull])
  · rintro (_ | _ | _ | ⟨_, registered, safe⟩)
    · rfl
    · rfl
    · rfl
    · simp [runsOnNull, Dispatcher.isNullSafe, Registry.isNullSafe, registered, safe]

variable {setting : Setting} {operation : Operation} {operations : List Operation}

/-- An operation that does not ask for null hands it on and asks for no edits. -/
theorem runOperation_null (passes : ¬ operation.AsksForNull setting.dispatcher) (trace : Trace) :
    runOperation setting operation trace .null = .ok (.null, []) := by
  have skips : runsOnNull setting.dispatcher operation = false :=
    Bool.eq_false_iff.2 fun runs => passes (runsOnNull_iff.1 runs)
  unfold runOperation
  rw [skips]
  rfl

/-- So does a chain of such operations, whatever they say. -/
theorem runChain_null
    (pass : ∀ operation ∈ operations, ¬ operation.AsksForNull setting.dispatcher)
    (trace : Trace) : runChain setting operations trace .null = .ok (.null, []) := by
  induction operations generalizing trace with
  | nil => rw [runChain]
  | cons operation rest ih =>
      obtain ⟨here, later⟩ := List.forall_mem_cons.1 pass
      rw [runChain]
      exact bind_eq_ok.2 ⟨_, runOperation_null here trace, bind_eq_ok.2 ⟨_, ih later _, rfl⟩⟩

/-- An `each` that succeeds on a list gives a list of the same length with null at every place
that held it. -/
theorem each_keeps_null
    (pass : ∀ operation ∈ operations, ¬ operation.AsksForNull setting.dispatcher)
    {trace : Trace} {items : List Json} {last : Json} {edits : List Edit}
    (runs : runOperation setting (.each operations) trace (.array items) = .ok (last, edits)) :
    ∃ results, last = .array results ∧ results.length = items.length ∧
      ∀ position : Nat, items[position]? = some Json.null →
        results[position]? = some Json.null := by
  obtain ⟨pairs, ran, rfl, -⟩ := runOperation_each_array.1 runs
  refine ⟨_, rfl, by rw [List.length_map, ran.length_eq], fun position held => ?_⟩
  obtain ⟨inside, null⟩ := List.getElem?_eq_some_iff.1 held
  have inside' : position < pairs.length := ran.length_eq ▸ inside
  have here := ran.get inside inside'
  simp only [List.get_eq_getElem, null, runChain_null pass] at here
  rw [List.getElem?_map, List.getElem?_eq_getElem inside', ← Except.ok.inj here]
  rfl

end Replay

namespace Rule

open Operation (Within AsksForNull)

variable {dispatcher : Dispatcher} {rule : Rule} {tree : Json}

/-- The visit of a match that is null succeeds with null and without edits. -/
theorem visit_null (pass : ∀ operation ∈ rule.operations, ¬ operation.AsksForNull dispatcher)
    (sight : Sight) :
    Replay.visit dispatcher rule.operations () .null sight = .ok ((), .null, []) :=
  map_eq_ok.2 ⟨_, Replay.runChain_null pass _, rfl⟩

/-- A match that is null is still null after the rule, and what encloses it is as it was. -/
theorem untouched_null (pass : ∀ operation ∈ rule.operations, ¬ operation.AsksForNull dispatcher)
    {place : Location} (isMatch : place ∈ tree.find rule.address)
    (held : tree.at? place = some .null) :
    let after := (rule.apply dispatcher tree).tree
    after.at? place = some .null ∧ after.enclosing? place = tree.enclosing? place := by
  obtain ⟨earlier, later, split⟩ := List.append_of_mem isMatch
  have apart := Json.pairwise_locate tree rule.address.segments
  rw [← Json.find, split, List.pairwise_append, List.pairwise_cons] at apart
  obtain ⟨-, ⟨behind, -⟩, before⟩ := apart
  rw [Rule.apply, Json.revise, split, Json.reviseEach_append]
  -- The other matches are visited in objects that fork from the one around this match.
  have untouched (tree : Json) {locations : List Location}
      (forks : ∀ location ∈ locations, Location.Forks location.dropLast place.dropLast)
      (count : Nat) :
      let after := (Json.reviseEach (Replay.visit dispatcher rule.operations) tree () count
        locations).tree
      after.at? place = tree.at? place ∧ after.enclosing? place = tree.enclosing? place :=
    Json.untouched_reviseEach forks () count
  obtain ⟨present, around⟩ := untouched tree
    (fun location inside => before location inside place List.mem_cons_self) 0
  cases ran : Json.reviseEach (Replay.visit dispatcher rule.operations) tree () 0 earlier with
  | mk reached state count failure =>
      rw [ran] at present around
      cases failure with
      | some e => exact ⟨present.trans held, around⟩
      | none =>
          have found : reached.at? place = some .null := present.trans held
          have unchanged : reached.afterVisit place .null [] = reached := by
            rw [Json.afterVisit, Json.set?_of_at? found, Option.getD_some, Json.editAround_nil]
          obtain ⟨remains, encloses⟩ := untouched reached
            (fun location inside => (behind location inside).symm) (count + 1)
          dsimp only
          rw [Json.reviseEach_cons found, visit_null pass]
          dsimp only
          rw [unchanged]
          exact ⟨remains.trans found, encloses.trans around⟩

/-- A rule that fails does so at a match that is not null. -/
theorem failing_match_ne_null
    (pass : ∀ operation ∈ rule.operations, ¬ operation.AsksForNull dispatcher) {e : CallError}
    (fails : (rule.apply dispatcher tree).failure = some e) :
    ∃ place value, (tree.find rule.address)[(rule.apply dispatcher tree).written]? = some place ∧
      tree.at? place = some value ∧ value ≠ .null := by
  obtain ⟨place, value, listed, held, refused⟩ := (Json.stopped_of_failure
    (Replay.visit dispatcher rule.operations) tree rule.address () fails).failing
  refine ⟨place, value, listed, held, ?_⟩
  rintro rfl
  rw [visit_null pass] at refused
  cases refused

/-- Take a rule in which no operation, at any depth of `each`, is an assignment, navigates to
the enclosing container or the root, or calls a function that is safe on null. Whatever its
operations say, the visit of a match that is null succeeds, gives null and asks for no edits:
the rule never fails there, and after it the match is null and what encloses it is as it was.
Every `each` in the rule that succeeds on a list gives a list of the same length, with null
wherever the list had it. -/
theorem null_passes (dispatcher : Dispatcher) (rule : Rule)
    (pass : ∀ operation : Operation, operation.Within rule.operations → ¬ operation.AsksForNull dispatcher) :
    (∀ sight, Replay.visit dispatcher rule.operations () .null sight = .ok ((), .null, [])) ∧
    (∀ (tree : Json), ∀ place ∈ tree.find rule.address, tree.at? place = some .null →
      let left := rule.apply dispatcher tree
      (∀ e, left.failure = some e → (tree.find rule.address)[left.written]? ≠ some place) ∧
        left.tree.at? place = some .null ∧
        left.tree.enclosing? place = tree.enclosing? place) ∧
    ∀ inner, Within (.each inner) rule.operations →
      ∀ (sight : Sight) (trace : Trace) (items : List Json) (last : Json) (edits : List Edit),
        Replay.runOperation ⟨dispatcher, sight⟩ (.each inner) trace (.array items) =
          .ok (last, edits) →
        ∃ results, last = .array results ∧ results.length = items.length ∧
          ∀ position : Nat, items[position]? = some Json.null →
        results[position]? = some Json.null := by
  have top : ∀ operation ∈ rule.operations, ¬ operation.AsksForNull dispatcher :=
    fun operation listed => pass operation (.here listed)
  refine ⟨visit_null top, fun tree place isMatch held => ⟨fun e fails listed => ?_,
    untouched_null top isMatch held⟩, fun inner outer sight trace items last edits runs =>
    Replay.each_keeps_null (fun operation listed => pass operation (outer.of_each listed)) runs⟩
  obtain ⟨stopped, value, here, filled, differs⟩ := failing_match_ne_null top fails
  rw [here, Option.some.injEq] at listed
  subst listed
  rw [held, Option.some.injEq] at filled
  exact differs filled.symm

/-- The second match is null and is passed over by a path that is none, a function that fails
and edits; the third one fails at the function. The null item of the inner list stays. -/
theorem null_passes_items :
    let calls : Dispatcher := ⟨.builtin, ⟨0, 0⟩⟩
    let inner : List Operation := [.call "nothing" [], .rename "none"]
    let rule : Rule := ⟨⟨"items.v"⟩, [.each [.each inner, .hoist true],
      .call "repeat" [.ofInt (-1)], .navigate .current "$[?(", .hoist false]⟩
    let item (value : Json) : Json := .object [("v", value), ("w", .bool true)]
    let tree : Json :=
      .object [("items", .array [item (.bool true), item .null, item (.string "x")])]
    let left := rule.apply calls tree
    let place : Location := [.key "items", .index 1, .key "v"]
    (∀ operation : Operation, operation.Within rule.operations →
        ¬ operation.AsksForNull calls) ∧
      left.failure.map CallError.kind = some .invalidArgs ∧ left.written = 2 ∧
      left.tree.at? place = some .null ∧ left.tree.enclosing? place = some (item .null) ∧
      ∃ results, Replay.runOperation ⟨calls, ⟨tree, place⟩⟩ (.each inner) (.start .null)
          (.array [.null, .string "y"]) = .ok (.array results, []) ∧ results.length = 2 ∧
        results[0]? = some .null := by
  intro calls inner rule item tree left place
  have pass : ∀ operation : Operation, operation.Within rule.operations →
      ¬ operation.AsksForNull calls := by
    intro operation within
    have skips : Replay.runsOnNull calls operation = false := by
      simp only [rule, inner, Operation.within_cons, Operation.not_within_nil] at within
      simp [or_assoc] at within
      rcases within with rfl | rfl | rfl | rfl | rfl | rfl | rfl | rfl <;> decide +kernel
    rw [← Replay.runsOnNull_iff, skips]
    exact Bool.false_ne_true
  obtain ⟨-, passed, each⟩ := null_passes calls rule pass
  have held : tree.at? place = some .null := by decide +kernel
  obtain ⟨-, null, around⟩ := passed tree place (by decide +kernel) held
  have runs : Replay.runOperation ⟨calls, ⟨tree, place⟩⟩ (.each inner) (.start .null)
      (.array [.null, .string "y"]) = .ok (.array [.null, .string "y"], []) := by rfl
  obtain ⟨results, ⟨⟩, length, kept⟩ := each inner (by simp [rule]) _ _ _ _ _ runs
  exact ⟨pass, by decide +kernel, by decide +kernel, null, around, _, runs, length, kept 0 rfl⟩

end Rule

end Reshape
