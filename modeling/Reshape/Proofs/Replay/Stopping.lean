/-
Module: Reshape.Proofs.Replay.Stopping
Purpose: what a chain, a rule and a program leave when an operation fails.
Main exports: Program.exists_failing_rule, Program.stops_cleanly
Trusted boundary: none
-/
import Reshape.Proofs.Replay.Relocation
import Reshape.Proofs.Replay.Runs
import Reshape.Proofs.Tree.Identical
import Reshape.Proofs.Tree.Stopping

/-!
# Programs that are stopped

A program stops at the first operation that fails. The rules before have been applied, the
rule it belongs to has revised the matches before the present one, and the operations that
come before it in the chain have only asked for edits, which are not made.
-/

namespace Reshape

open Replay (runChain runOperation visit)

namespace Rule

variable {dispatcher : Dispatcher} {rule : Rule} {tree : Json}

/-- A rule fails at an operation of its chain, at the first match that it has not revised. The
operations before that one succeed there and may have asked for edits, but the match and what
encloses it are left as they were. -/
inductive Stopped (dispatcher : Dispatcher) (rule : Rule) (tree : Json) (e : CallError)
    (left : Revision Unit CallError) : Prop where
  | intro {place : Location} {value middle : Json} {front back : List Operation}
      {operation : Operation} {asked : List Edit}
      (listed : (tree.find rule.address)[left.written]? = some place)
      (held : tree.at? place = some value)
      (chain : rule.operations = front ++ operation :: back)
      (asks : runChain ⟨dispatcher, left.tree, place⟩ front (.start value) value =
        .ok (middle, asked))
      (failing : runChain ⟨dispatcher, left.tree, place⟩ (front ++ [operation]) (.start value)
        value = .error e)
      (unchanged : left.tree.at? place = tree.at? place)
      (around : left.tree.enclosing? place = tree.enclosing? place) :
      Stopped dispatcher rule tree e left

theorem stopped_of_failure {e : CallError} (fails : (rule.apply dispatcher tree).failure = some e) :
    rule.Stopped dispatcher tree e (rule.apply dispatcher tree) := by
  have stopped :=
    Json.stopped_of_failure (visit dispatcher rule.operations) tree rule.address () fails
  obtain ⟨place, value, listed, held, called⟩ := stopped.failing
  have remains : place ∈ (tree.find rule.address).drop (rule.apply dispatcher tree).written :=
    List.mem_iff_getElem?.2 ⟨0, by rw [List.getElem?_drop]; exact listed⟩
  obtain ⟨unchanged, around⟩ := stopped.untouched place remains
  obtain ⟨front, operation, back, passed, middle, asked, chain, ran, failing⟩ :=
    Replay.exists_failing_operation (map_eq_error.1 called)
  exact .intro listed held chain (Replay.runChain_eq_ok.2 ⟨passed, ran⟩)
    (Replay.runChain_concat_eq_error ran failing) unchanged around

end Rule

namespace Program

variable {dispatcher : Dispatcher}

/-- A program that fails does so in one rule, after rules that succeed. -/
theorem exists_failing_rule {program : Program} {tree : Json} {e : CallError}
    (fails : (replay dispatcher program tree).failure = some e) :
    ∃ front rule back reached, program = front ++ rule :: back ∧
      run dispatcher front tree = .ok reached ∧
      (rule.apply dispatcher reached).failure = some e ∧
      (replay dispatcher program tree).tree = (rule.apply dispatcher reached).tree := by
  induction program generalizing tree with
  | nil => cases fails
  | cons rule rest ih =>
      cases here : (rule.apply dispatcher tree).failure with
      | some refused =>
          have stops : replay dispatcher (rule :: rest) tree =
              ⟨(rule.apply dispatcher tree).tree, some refused⟩ := by
            rw [replay]
            split
            · next applied => simp [applied] at here
            · next applied => simpa [applied] using here
          rw [stops] at fails ⊢
          cases fails
          exact ⟨[], rule, rest, tree, rfl, rfl, here, rfl⟩
      | none =>
          rw [replay_cons here] at fails ⊢
          obtain ⟨front, failing, back, reached, rfl, ran, stopped⟩ := ih fails
          refine ⟨rule :: front, failing, back, reached, rfl, ?_, stopped⟩
          obtain ⟨succeeds, leads⟩ := run_eq_ok.1 ran
          exact run_eq_ok.2 (by rw [replay_cons here]; exact ⟨succeeds, leads⟩)

/-- A visitor that fails leaves what the visits before have made, which is also what it would
leave if it changed nothing from there on. A rule fails at an operation of its chain; whatever
edits the operations before it have asked for, the match and what encloses it stay as they
were. A program that fails leaves what its failing rule makes of the result of the rules
before. -/
theorem stops_cleanly :
    (∀ {σ ε : Type} (visit : Visitor σ ε) (tree : Json) (address : Address) (state : σ) (e : ε),
      (tree.revise visit address state).failure = some e →
        Revision.Stopped visit tree address state e (tree.revise visit address state)) ∧
    (∀ (dispatcher : Dispatcher) (rule : Rule) (tree : Json) (e : CallError),
      (rule.apply dispatcher tree).failure = some e →
        rule.Stopped dispatcher tree e (rule.apply dispatcher tree)) ∧
    ∀ (dispatcher : Dispatcher) (program : Program) (tree : Json) (e : CallError),
      (replay dispatcher program tree).failure = some e →
        ∃ front rule back reached, program = front ++ rule :: back ∧
          run dispatcher front tree = .ok reached ∧
          (rule.apply dispatcher reached).failure = some e ∧
          (replay dispatcher program tree).tree = (rule.apply dispatcher reached).tree :=
  ⟨fun visit tree address state _ fails => Json.stopped_of_failure visit tree address state fails,
    fun _ _ _ _ fails => Rule.stopped_of_failure fails,
    fun _ _ _ _ fails => exists_failing_rule fails⟩

/-- The second of three rules renames and hoists the member of one item and fails at that of
the next one, which it has asked to rename before. -/
theorem stops_cleanly_items :
    let calls : Dispatcher := ⟨[], ⟨0, 0⟩⟩
    let wrapped : Rule :=
      ⟨⟨"items.wrapper"⟩, [.rename "box", .hoist false, .call "repeat" [.ofInt (-1)]]⟩
    let program : Program := [⟨⟨"count"⟩, [.assign []]⟩, wrapped, ⟨⟨""⟩, [.assign []]⟩]
    let tree (first count : Json) : Json := .object [("items", .array
      [first, .object [("wrapper", .string "y"), ("id", .null)]]), ("count", count)]
    let before := tree (.object [("wrapper", .object [("a", .null)])]) (.bool true)
    let reached := tree (.object [("wrapper", .object [("a", .null)])]) .null
    let left := wrapped.apply calls reached
    left.tree = tree (.object [("box", .object [("a", .null)]), ("a", .null)]) .null ∧
      ∃ e, left.failure = some e ∧ (replay calls program before).failure = some e ∧
        Revision.Stopped (visit calls wrapped.operations) reached wrapped.address () e left ∧
        wrapped.Stopped calls reached e left ∧
        ∃ front rule back middle, program = front ++ rule :: back ∧
          run calls front before = .ok middle ∧ (rule.apply calls middle).failure = some e ∧
          (replay calls program before).tree = (rule.apply calls middle).tree := by
  intro calls wrapped program tree before reached left
  obtain ⟨visitors, rules, programs⟩ := stops_cleanly
  obtain ⟨e, fails⟩ : ∃ e, left.failure = some e :=
    Option.isSome_iff_exists.1 (by decide +kernel)
  have same : (replay calls program before).failure = left.failure := by decide +kernel
  exact ⟨by decide +kernel, e, fails, same.trans fails,
    visitors (visit calls wrapped.operations) reached wrapped.address () e fails,
    rules calls wrapped reached e fails, programs calls program before e (same.trans fails)⟩

end Program

end Reshape
