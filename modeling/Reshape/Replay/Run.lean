/-
Module: Reshape.Replay.Run
Purpose: running rules and programs on a response.
Main exports: Rule.apply, Program.replay, Program.run
Trusted boundary: the clock, taken to stand still while a program runs
-/
import Reshape.Replay.Chain

/-!
# Running programs

A rule runs its chain at every match of its address. A program runs its rules in
order, up to the first one that fails; a failing rule leaves the matches before the
failing one revised.
-/

namespace Reshape

namespace Replay

/-- The visit of a match: run the chain on its value. -/
def visit (dispatcher : Dispatcher) (operations : List Operation) : Visitor Unit CallError :=
  fun _ value sight =>
    (runChain ⟨dispatcher, sight⟩ operations (.start value) value).map fun (last, edits) =>
      ((), last, edits)

/-- What running a program leaves behind. -/
structure Outcome where
  tree : Json
  failure : Option CallError

end Replay

/-- Run a rule at every match of its address. -/
def Rule.apply (dispatcher : Dispatcher) (rule : Rule) (tree : Json) : Revision Unit CallError :=
  tree.revise (Replay.visit dispatcher rule.operations) rule.address ()

namespace Program

/-- Run the rules of a program up to the first failure. -/
def replay (dispatcher : Dispatcher) : Program → Json → Replay.Outcome
  | [], tree => ⟨tree, none⟩
  | rule :: rest, tree =>
      match rule.apply dispatcher tree with
      | ⟨changed, _, _, none⟩ => replay dispatcher rest changed
      | ⟨changed, _, _, some e⟩ => ⟨changed, some e⟩

/-- The response after a program. -/
def run (dispatcher : Dispatcher) (program : Program) (tree : Json) : Except CallError Json :=
  match replay dispatcher program tree with
  | ⟨changed, none⟩ => .ok changed
  | ⟨_, some e⟩ => .error e

end Program

end Reshape
