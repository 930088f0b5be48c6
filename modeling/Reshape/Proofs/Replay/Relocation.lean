/-
Module: Reshape.Proofs.Replay.Relocation
Purpose: rules placed under an address do to every match of the address what they do to
  its value alone.
Main exports: Rule.Relocatable, Program.replay_cons, Program.run_under
Trusted boundary: none
-/
import Mathlib.Data.List.Permutation
import Reshape.Pattern.Reader
import Reshape.Proofs.Replay.Chain
import Reshape.Proofs.Tree.Within
import Reshape.Replay.Run

/-!
# Relocation of rules

The rules of a fragment are addressed from the fragment and placed under every spread of
it. A rule that looks no further than the value it is placed in does there what it does
to that value alone. The matches of the base address are kept by every such rule, since
it only replaces what they hold, so this carries over from rules to programs.
-/

namespace Reshape

/-- A rule that depends on nothing outside the value it is run on: it does not navigate to
the root, and where it applies to the value itself, which alone has no enclosing object, it
neither edits nor navigates to that object. -/
structure Rule.Relocatable (rule : Rule) : Prop where
  noRoot : Operation.navigatesAny .root rule.operations = false
  noParent : rule.address.segments = [] → Operation.navigatesAny .parent rule.operations = false
  noEdits : rule.address.segments = [] →
    ∀ operation ∈ rule.operations, operation.isStructural = false

namespace Replay

/-- The container around a member is the same seen from further out. -/
theorem parent?_append {root inner : Json} {front parent : Location} {step : Step}
    (found : root.at? front = some inner) :
    (Sight.mk root (front ++ (parent ++ [step]))).parent? =
      (Sight.mk inner (parent ++ [step])).parent? := by
  rw [← List.append_assoc]
  simp only [Sight.parent?, Json.enclosing?, Location.parent?, Location.split?_concat,
    Option.map_some, Option.bind_some, Json.at?_append, found]

/-- The visitor of a relocatable rule can be relocated at all matches of the rule. -/
theorem visit_relocatable {rule : Rule} (relocatable : rule.Relocatable)
    (dispatcher : Dispatcher) {tree : Json} {rest : Location}
    (isMatch : rest ∈ tree.locate rule.address.segments) :
    (visit dispatcher rule.operations).Relocatable rest := by
  have place := Json.mem_locate.1 isMatch
  constructor
  · intro front root inner found _ value
    have parent : (Sight.mk root (front ++ rest)).parent? = (Sight.mk inner rest).parent? ∨
        Operation.navigatesAny .parent rule.operations = false := by
      by_cases keyed : rule.address.segments = []
      · exact .inr (relocatable.noParent keyed)
      · obtain ⟨parent, key, members, rfl, -⟩ := place.enclosed keyed
        exact .inl (parent?_append found)
    have same : ∀ trace value,
        runChain ⟨dispatcher, root, front ++ rest⟩ rule.operations trace value =
          runChain ⟨dispatcher, inner, rest⟩ rule.operations trace value :=
      runChain_congr (by rfl) rule.operations (.inr relocatable.noRoot) parent
    simp only [visit, same]
  · intro atRoot _ _ value given sight edits called
    have unkeyed : rule.address.segments = [] := by
      by_contra keyed
      exact place.ne_nil keyed atRoot
    obtain ⟨⟨last, asked⟩, runs, same⟩ := map_eq_ok.1 called
    cases same
    exact runChain_edits (relocatable.noEdits unkeyed) runs

end Replay

namespace Program

variable {dispatcher : Dispatcher}

/-- A program that succeeds applies its first rule with success and goes on from there. -/
theorem replay_cons {rule : Rule} {rest : Program} {tree : Json}
    (succeeds : (rule.apply dispatcher tree).failure = none) :
    replay dispatcher (rule :: rest) tree =
      replay dispatcher rest (rule.apply dispatcher tree).tree := by
  rw [replay]
  split
  · next applied => rw [applied]
  · next applied => simp [applied] at succeeds

theorem apply_of_replay_cons {rule : Rule} {rest : Program} {tree : Json}
    (succeeds : (replay dispatcher (rule :: rest) tree).failure = none) :
    (rule.apply dispatcher tree).failure = none := by
  rw [replay] at succeeds
  split at succeeds
  · next applied => rw [applied]
  · cases succeeds

theorem run_eq_ok {program : Program} {tree result : Json} :
    run dispatcher program tree = .ok result ↔
      (replay dispatcher program tree).failure = none ∧
        (replay dispatcher program tree).tree = result := by
  unfold run
  split
  · next outcome => simp [outcome]
  · next outcome => simp [outcome]

/-- One rule under a base address is the rule on the value of every match of the base. -/
theorem apply_under {base : Address} {rule : Rule} (relocatable : rule.Relocatable) {tree : Json}
    {values : Location → Json}
    (found : ∀ location ∈ tree.find base, tree.at? location = some (values location))
    (succeeds : ((rule.under base).apply dispatcher tree).failure = none) :
    (∀ location ∈ tree.find base, (rule.apply dispatcher (values location)).failure = none) ∧
    tree.graft (tree.find base) (fun location => (rule.apply dispatcher (values location)).tree) =
      some ((rule.under base).apply dispatcher tree).tree := by
  have places : tree.find (base.join rule.address) = (tree.find base).flatMap fun location =>
      ((values location).locate rule.address.segments).map (location ++ ·) := by
    rw [Json.find_join]
    refine List.flatMap_congr fun location inside => ?_
    rw [Json.locateFrom, found location inside, Option.elim_some]
  have applied : (rule.under base).apply dispatcher tree =
      Json.reviseEach (Replay.visit dispatcher rule.operations) tree () 0
        ((tree.find base).flatMap fun location =>
          ((values location).locate rule.address.segments).map (location ++ ·)) := by
    rw [← places]
    rfl
  rw [applied] at succeeds ⊢
  exact Json.reviseEach_graft (Json.pairwise_find tree base) found
    (fun _ _ _ isMatch => Replay.visit_relocatable relocatable dispatcher isMatch) 0 succeeds

/-- A program under a base address is the program on the value of every match of the base. -/
theorem replay_under {base : Address} {rules : Program}
    (relocatable : ∀ rule ∈ rules, rule.Relocatable) {tree : Json} {values : Location → Json}
    (found : ∀ location ∈ tree.find base, tree.at? location = some (values location))
    (succeeds : (replay dispatcher (rules.map (Rule.under base)) tree).failure = none) :
    (∀ location ∈ tree.find base, (replay dispatcher rules (values location)).failure = none) ∧
    tree.graft (tree.find base) (fun location => (replay dispatcher rules (values location)).tree) =
      some (replay dispatcher (rules.map (Rule.under base)) tree).tree := by
  induction rules generalizing tree values with
  | nil => exact ⟨fun _ _ => rfl, Json.graft_self found⟩
  | cons rule rules ih =>
      have here := apply_of_replay_cons succeeds
      obtain ⟨each, grafted⟩ := apply_under (relocatable rule (by simp)) found here
      rw [List.map_cons, replay_cons here] at succeeds ⊢
      have apart := Json.pairwise_find tree base
      have kept : Json.find _ base = tree.find base :=
        Json.locate_graft (fun _ inside => inside) grafted
      obtain ⟨eachRest, regrafted⟩ := ih (fun other inside => relocatable other (by simp [inside]))
        (fun location inside => Json.at?_graft apart grafted (kept ▸ inside)) succeeds
      rw [kept] at eachRest regrafted
      constructor
      · intro location inside
        rw [replay_cons (each location inside)]
        exact eachRest location inside
      · rw [← regrafted, Json.graft_graft apart grafted]
        exact Json.graft_congr fun location inside => by rw [replay_cons (each location inside)]

/-- What a program under a base address makes of a tree, when it succeeds, is the tree with
the value of every match of the base replaced by what the program alone makes of it. All of
the runs are made while the clock stands at one instant. -/
theorem run_under [Pattern.Library] (registry : Registry) (instant : Calendar.Moment)
    (base : Address) (rules : Program) (tree result : Json)
    (relocatable : ∀ rule ∈ rules, rule.Relocatable)
    (succeeds :
      run (.frozenAt instant registry) (rules.map (Rule.under base)) tree = .ok result) :
    ∃ results : Location → Json,
      (∀ location ∈ tree.find base, ∃ inner, tree.at? location = some inner ∧
        run (.frozenAt instant registry) rules inner = .ok (results location)) ∧
      tree.graft (tree.find base) results = some result := by
  obtain ⟨ran, rfl⟩ := run_eq_ok.1 succeeds
  have found : ∀ location ∈ tree.find base,
      tree.at? location = some ((tree.at? location).getD .null) := by
    intro location inside
    obtain ⟨value, held⟩ := (Json.mem_locate.1 inside).exists_at?
    rw [held, Option.getD_some]
  obtain ⟨each, grafted⟩ := replay_under relocatable found ran
  refine ⟨_, fun location inside => ⟨_, found location inside, ?_⟩, grafted⟩
  exact run_eq_ok.2 ⟨each location inside, rfl⟩

/-- A member of every item of two lists is dissolved into its own member and renamed. -/
theorem run_under_items :
    let rules : Program :=
      [⟨⟨"b.c"⟩, [.hoist false]⟩, ⟨⟨"b"⟩, [.rename "d"]⟩, ⟨⟨""⟩, [.each [.hoist true]]⟩]
    let item (n : Bool) : Json :=
      .object [("b", .array [.object [("c", .object [("n", .bool n)])]])]
    let changed (n : Bool) : Json := .object [("d", .array [.object [("n", .bool n)]])]
    let tree (first second : Json) : Json :=
      .array [.object [("a", .object [("items", .array [first, second])])],
        .object [("a", .array [.object [("items", second)]])]]
    let before := tree (item true) (item false)
    ∃ results : Location → Json,
      (∀ location ∈ before.find ⟨"a.items"⟩, ∃ inner, before.at? location = some inner ∧
        run (.frozenAt ⟨0, 0⟩ []) rules inner = .ok (results location)) ∧
      before.graft (before.find ⟨"a.items"⟩) results =
        some (tree (changed true) (changed false)) := by
  intro rules item changed tree before
  have relocatable : ∀ rule ∈ rules, rule.Relocatable := by
    intro rule inside
    simp only [rules, List.mem_cons, List.not_mem_nil, or_false] at inside
    rcases inside with rfl | rfl | rfl <;> constructor <;> decide
  exact run_under [] ⟨0, 0⟩ ⟨"a.items"⟩ rules before _ relocatable (by cbv)

end Program

end Reshape
