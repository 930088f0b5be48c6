/-
Module: Reshape.Proofs.Replay.Commutation
Purpose: rules at addresses that part can be applied in either order.
Main exports: Rule.SelfContained, Rule.apply_eq_graft, Rule.apply_comm,
  Program.run_pair_comm
Trusted boundary: none
-/
import Reshape.Proofs.Replay.Relocation
import Reshape.Proofs.Tree.Apart
import Reshape.Proofs.Tree.Identical

/-!
# Independent rules

A rule that looks at nothing but the values of its matches, and edits nothing around
them, puts a value in the place of each. When the address of another such rule parts from
its own, it changes neither where that rule matches nor what it finds there. The two can
then be applied in either order, and each of them matches as often as it does alone.
-/

namespace Reshape

open Location (Forks)

/-- A rule whose chain depends on the value of a match alone and asks for no edits: it
navigates neither to the enclosing container nor to the root, at any depth of `each`, and
neither hoists nor renames at the top of its chain. -/
structure Rule.SelfContained (rule : Rule) : Prop where
  noRoot : Operation.navigatesAny .root rule.operations = false
  noParent : Operation.navigatesAny .parent rule.operations = false
  noEdits : ∀ operation ∈ rule.operations, operation.isStructural = false

namespace Replay

/-- What a chain makes of a value that nothing encloses. -/
def rewrite (dispatcher : Dispatcher) (operations : List Operation) (value : Json) :
    Except CallError Json :=
  (runChain ⟨dispatcher, value, []⟩ operations (.start value) value).map Prod.fst

/-- A self-contained rule visits a match by rewriting its value. -/
theorem visit_eq_rewriting {rule : Rule} (contained : rule.SelfContained)
    (dispatcher : Dispatcher) :
    visit dispatcher rule.operations = Visitor.rewriting (rewrite dispatcher rule.operations) := by
  funext _ value sight
  have alone : runChain ⟨dispatcher, sight⟩ rule.operations (.start value) value =
      runChain ⟨dispatcher, value, []⟩ rule.operations (.start value) value :=
    runChain_congr (by rfl) rule.operations (.inr contained.noRoot) (.inr contained.noParent) _ _
  rw [visit, alone, Visitor.rewriting, rewrite]
  cases runs : runChain ⟨dispatcher, value, []⟩ rule.operations (.start value) value with
  | error e => rfl
  | ok result =>
      obtain ⟨last, edits⟩ := result
      cases runChain_edits contained.noEdits runs
      rfl

end Replay

open Replay (rewrite)

/-- What a tree holds at a location. -/
def Json.held (tree : Json) (location : Location) : Json :=
  (tree.at? location).getD .null

theorem Json.at?_of_mem_find {tree : Json} {address : Address} {location : Location}
    (found : location ∈ tree.find address) : tree.at? location = some (tree.held location) := by
  obtain ⟨value, held⟩ := (Json.mem_locate.1 found).exists_at?
  rw [Json.held, held, Option.getD_some]

namespace Rule

variable {dispatcher : Dispatcher} {rule first second : Rule} {tree : Json}

/-- A self-contained rule succeeds when its chain does on the value of every match. -/
theorem failure_apply (contained : rule.SelfContained) :
    (rule.apply dispatcher tree).failure = none ↔
      ∀ location ∈ tree.find rule.address,
        ∃ given, rewrite dispatcher rule.operations (tree.held location) = .ok given := by
  rw [apply, Json.revise, Replay.visit_eq_rewriting contained]
  exact Json.failure_reviseEach_rewriting (Json.pairwise_find tree rule.address)
    (fun _ found => Json.at?_of_mem_find found) 0

/-- What a self-contained rule leaves is the tree with a value put at each of its matches. -/
theorem apply_eq_graft (contained : rule.SelfContained) {results : Location → Json}
    (rewritten : ∀ location ∈ tree.find rule.address,
      rewrite dispatcher rule.operations (tree.held location) = .ok (results location)) :
    ∃ changed, tree.graft (tree.find rule.address) results = some changed ∧
      rule.apply dispatcher tree = ⟨changed, (), (tree.find rule.address).length, none⟩ := by
  have runs := Json.reviseEach_rewriting (Json.pairwise_find tree rule.address)
    (fun _ found => Json.at?_of_mem_find found) rewritten 0
  rwa [Nat.zero_add, ← Replay.visit_eq_rewriting contained] at runs

/-- The matches of a rule, and what they hold, are not changed by values put at matches of
an address that parts from its own. -/
theorem matches_of_graft (apart : first.address.Apart second.address)
    {results : Location → Json} {changed : Json}
    (grafted : tree.graft (tree.find first.address) results = some changed) :
    changed.find second.address = tree.find second.address ∧
      ∀ location ∈ tree.find second.address, changed.held location = tree.held location := by
  refine ⟨Json.locate_graft_of_apart (fun _ found => found) apart.notAbove apart.notBelow grafted,
    fun location found => ?_⟩
  have forks : ∀ other ∈ tree.find first.address, Forks other location := fun other otherFound =>
    Json.forks_of_matches (Json.mem_locate.1 otherFound) (Json.mem_locate.1 found)
      apart.notAbove apart.notBelow
  rw [Json.held, Json.at?_graft_of_forks forks grafted, Json.held]

/-- A self-contained rule succeeds after another one, at an address that parts from its own,
when it does without it. -/
theorem failure_apply_after (apart : first.address.Apart second.address)
    (contained : first.SelfContained) (otherContained : second.SelfContained)
    (succeeds : (first.apply dispatcher tree).failure = none) :
    (second.apply dispatcher (first.apply dispatcher tree).tree).failure = none ↔
      (second.apply dispatcher tree).failure = none := by
  choose! results rewritten using (failure_apply contained).1 succeeds
  obtain ⟨changed, grafted, applied⟩ := apply_eq_graft contained rewritten
  obtain ⟨kept, held⟩ := matches_of_graft apart grafted
  rw [applied, failure_apply otherContained, failure_apply otherContained, kept]
  exact forall₂_congr fun location found => by rw [held location found]

/-- When both of two self-contained rules at addresses that part succeed on a tree, either
of them succeeds after the other one, with the same result and as many matches as alone. -/
theorem apply_comm (apart : first.address.Apart second.address) (contained : first.SelfContained)
    (otherContained : second.SelfContained)
    (succeeds : (first.apply dispatcher tree).failure = none)
    (otherSucceeds : (second.apply dispatcher tree).failure = none) :
    ∃ result,
      second.apply dispatcher (first.apply dispatcher tree).tree =
        ⟨result, (), (second.apply dispatcher tree).written, none⟩ ∧
      first.apply dispatcher (second.apply dispatcher tree).tree =
        ⟨result, (), (first.apply dispatcher tree).written, none⟩ := by
  choose! results rewritten using (failure_apply contained).1 succeeds
  choose! otherResults otherRewritten using (failure_apply otherContained).1 otherSucceeds
  obtain ⟨changed, grafted, applied⟩ := apply_eq_graft contained rewritten
  obtain ⟨otherChanged, otherGrafted, otherApplied⟩ := apply_eq_graft otherContained otherRewritten
  obtain ⟨kept, held⟩ := matches_of_graft apart grafted
  obtain ⟨otherKept, otherHeld⟩ := matches_of_graft apart.symm otherGrafted
  have rewrittenLater : ∀ location ∈ changed.find second.address,
      rewrite dispatcher second.operations (changed.held location) =
        .ok (otherResults location) := by
    rw [kept]
    intro location found
    rw [held location found]
    exact otherRewritten location found
  have otherRewrittenLater : ∀ location ∈ otherChanged.find first.address,
      rewrite dispatcher first.operations (otherChanged.held location) =
        .ok (results location) := by
    rw [otherKept]
    intro location found
    rw [otherHeld location found]
    exact rewritten location found
  obtain ⟨result, graftedLater, appliedLater⟩ := apply_eq_graft otherContained rewrittenLater
  obtain ⟨otherResult, otherGraftedLater, otherAppliedLater⟩ :=
    apply_eq_graft contained otherRewrittenLater
  have swapped : some result = some otherResult := by
    rw [← graftedLater, ← otherGraftedLater, kept, otherKept]
    refine Json.graft_comm (fun location found other otherFound => ?_) grafted otherGrafted
    exact Json.forks_of_matches (Json.mem_locate.1 found) (Json.mem_locate.1 otherFound)
      apart.notAbove apart.notBelow
  cases swapped
  rw [applied, otherApplied]
  exact ⟨result, by rw [appliedLater, kept], by rw [otherAppliedLater, otherKept]⟩

end Rule

namespace Program

variable {dispatcher : Dispatcher}

/-- A program of two rules succeeds when the first one does, and the second one after it. -/
theorem run_pair_eq_ok {first second : Rule} {tree result : Json} :
    run dispatcher [first, second] tree = .ok result ↔
      (first.apply dispatcher tree).failure = none ∧
        (second.apply dispatcher (first.apply dispatcher tree).tree).failure = none ∧
        (second.apply dispatcher (first.apply dispatcher tree).tree).tree = result := by
  rw [run_eq_ok]
  constructor
  · rintro ⟨ran, rfl⟩
    have here := apply_of_replay_cons ran
    rw [replay_cons here] at ran ⊢
    have later := apply_of_replay_cons ran
    rw [replay_cons later]
    exact ⟨here, later, rfl⟩
  · rintro ⟨here, later, rfl⟩
    rw [replay_cons here, replay_cons later]
    exact ⟨rfl, rfl⟩

/-- A run of two self-contained rules at addresses that part can be made in the other
order, and the rules match as often as they do alone. -/
theorem run_pair_swap {first second : Rule} {tree result : Json}
    (apart : first.address.Apart second.address) (contained : first.SelfContained)
    (otherContained : second.SelfContained)
    (succeeds : run dispatcher [first, second] tree = .ok result) :
    run dispatcher [second, first] tree = .ok result ∧
      (first.apply dispatcher (second.apply dispatcher tree).tree).written =
          (first.apply dispatcher tree).written ∧
        (second.apply dispatcher (first.apply dispatcher tree).tree).written =
          (second.apply dispatcher tree).written := by
  obtain ⟨here, later, rfl⟩ := run_pair_eq_ok.1 succeeds
  have there := (Rule.failure_apply_after apart contained otherContained here).1 later
  obtain ⟨_, applied, otherApplied⟩ := Rule.apply_comm apart contained otherContained here there
  rw [run_pair_eq_ok, applied, otherApplied]
  exact ⟨⟨there, rfl, rfl⟩, rfl, rfl⟩

/-- Two self-contained rules at addresses of which neither begins with the other one
succeed in one order exactly when they do in the other one. Both orders give the same tree,
and each rule has as many matches in the one as in the other. All of the runs are made while
the clock stands at one instant. -/
theorem run_pair_comm [Pattern.Library] (registry : Registry) (instant : Calendar.Moment)
    (first second : Rule) (tree : Json) (apart : first.address.Apart second.address)
    (contained : first.SelfContained) (otherContained : second.SelfContained) :
    let dispatcher := Dispatcher.frozenAt instant registry
    (∀ result, run dispatcher [first, second] tree = .ok result ↔
      run dispatcher [second, first] tree = .ok result) ∧
    ∀ result, run dispatcher [first, second] tree = .ok result →
      (first.apply dispatcher (second.apply dispatcher tree).tree).written =
          (first.apply dispatcher tree).written ∧
        (second.apply dispatcher (first.apply dispatcher tree).tree).written =
          (second.apply dispatcher tree).written := by
  intro dispatcher
  refine ⟨fun result => ⟨fun succeeds => ?_, fun succeeds => ?_⟩, fun result succeeds => ?_⟩
  · exact (run_pair_swap apart contained otherContained succeeds).1
  · exact (run_pair_swap apart.symm otherContained contained succeeds).1
  · exact (run_pair_swap apart contained otherContained succeeds).2

/-- Two members of the items of a list are rewritten, one of them item by item. -/
theorem run_pair_comm_items :
    let first : Rule := ⟨⟨"items.a"⟩, [.each [.hoist false, .assign [.string "$0!"]]]⟩
    let second : Rule := ⟨⟨".items.b.c"⟩, [.assign [.null, .string "$0"]]⟩
    let tree (a c other : Json) : Json := .object [("items", .array
      [.object [("a", .array [a]), ("b", .object [("c", c)])],
        .object [("b", .array [.object [("c", other)]])]])]
    let before := tree (.bool true) (.bool false) (.string "x")
    let after := tree (.string "true!") (.array [.null, .bool false]) (.array [.null, .string "x"])
    let dispatcher := Dispatcher.frozenAt ⟨0, 0⟩ []
    run dispatcher [second, first] before = .ok after ∧
      (second.apply dispatcher (first.apply dispatcher before).tree).written = 2 := by
  intro first second tree before after dispatcher
  have apart : first.address.Apart second.address := by constructor <;> decide
  have contained : first.SelfContained := by constructor <;> decide
  have otherContained : second.SelfContained := by constructor <;> decide
  have succeeds : run dispatcher [first, second] before = .ok after := by decide +kernel
  obtain ⟨sameResult, sameCounts⟩ :=
    run_pair_comm [] ⟨0, 0⟩ first second before apart contained otherContained
  exact ⟨(sameResult after).1 succeeds, (sameCounts after succeeds).2.trans (by decide +kernel)⟩

end Program

end Reshape
