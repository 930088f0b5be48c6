/-
Module: Reshape.Proofs.Replay.Frame
Purpose: what a rule can change in a response, whether it succeeds or fails.
Main exports: Replay.mem_edits_of_runChain, Rule.HoistSees, Rule.Touches,
  Rule.apply_confined
Trusted boundary: none
-/
import Mathlib.Data.List.Pairwise
import Reshape.Pattern.Reader
import Reshape.Proofs.Replay.Chain
import Reshape.Proofs.Tree.Address
import Reshape.Proofs.Tree.Frame
import Reshape.Replay.Run

/-!
# The reach of a rule

A chain gives one value and asks for edits, each of which comes from one hoist or rename
at its top and touches the key of the match, the key it names, or the keys of the object
that a hoist has seen. A rule revises each match within the object around it, so this
bounds what it changes in that object, and leaves everything else where it was.
-/

namespace Reshape

namespace Replay

/-! ### The edits of a chain -/

theorem mem_edits_of_runOperation {setting : Setting} {operation : Operation} {trace : Trace}
    {value next : Json} {edits : List Edit} {edit : Edit}
    (runs : runOperation setting operation trace value = .ok (next, edits))
    (asked : edit ∈ edits) :
    (∃ target, operation = .rename target ∧ edit = renameEdit target) ∨
      ∃ keep members, operation = .hoist keep ∧ value = .object members ∧
        edit = hoistEdit keep members := by
  cases structural : operation.isStructural with
  | false =>
      rw [runOperation_edits structural runs] at asked
      cases asked
  | true =>
      unfold runOperation at runs
      split at runs
      · cases runs
        cases asked
      · cases operation with
        | hoist keep =>
            cases value with
            | object members =>
                cases runs
                exact .inr ⟨keep, members, rfl, rfl, List.mem_singleton.1 asked⟩
            | _ =>
                cases runs
                cases asked
        | rename target =>
            cases runs
            exact .inl ⟨target, rfl, List.mem_singleton.1 asked⟩
        | _ => cases structural

/-- Every edit that a chain asks for comes from a rename of it, or from a hoist that the
operations before it have brought to an object. -/
theorem mem_edits_of_runChain {setting : Setting} {operations : List Operation} {trace : Trace}
    {value last : Json} {edits : List Edit} {edit : Edit}
    (runs : runChain setting operations trace value = .ok (last, edits)) (asked : edit ∈ edits) :
    (∃ target, .rename target ∈ operations ∧ edit = renameEdit target) ∨
      ∃ front keep back members own, operations = front ++ .hoist keep :: back ∧
        runChain setting front trace value = .ok (.object members, own) ∧
        edit = hoistEdit keep members := by
  induction operations generalizing trace value edits with
  | nil =>
      rw [runChain, Except.ok.injEq, Prod.mk.injEq] at runs
      rw [← runs.2] at asked
      cases asked
  | cons operation rest ih =>
      rw [runChain] at runs
      obtain ⟨⟨next, own⟩, here, runs⟩ := bind_eq_ok.1 runs
      obtain ⟨⟨_, more⟩, later, same⟩ := bind_eq_ok.1 runs
      cases same
      rcases List.mem_append.1 asked with inside | inside
      · rcases mem_edits_of_runOperation here inside with
          ⟨target, rfl, same⟩ | ⟨keep, members, rfl, rfl, same⟩
        · exact .inl ⟨target, List.mem_cons_self, same⟩
        · exact .inr ⟨[], keep, rest, members, [], rfl, by rw [runChain], same⟩
      · rcases ih later inside with
          ⟨target, listed, same⟩ | ⟨front, keep, back, members, before, rfl, reaches, same⟩
        · exact .inl ⟨target, List.mem_cons_of_mem _ listed, same⟩
        · refine .inr ⟨operation :: front, keep, back, members, own ++ before, rfl, ?_, same⟩
          rw [runChain, here]
          exact bind_eq_ok.2 ⟨_, rfl, bind_eq_ok.2 ⟨_, reaches, rfl⟩⟩

variable {spared : String → Bool} {own : String}

theorem spares_renameEdit {target : String} (ownKey : spared own = false)
    (named : spared target = false) : (renameEdit target).Spares spared own := by
  intro members
  unfold renameEdit
  split
  · rw [Members.restrict_insert named, Members.restrict_erase ownKey]
  · rfl

theorem spares_hoistEdit {keep : Bool} {hoisted : Members} (ownKey : spared own = false)
    (named : ∀ key ∈ Members.keys hoisted, spared key = false) :
    (hoistEdit keep hoisted).Spares spared own := by
  intro members
  rw [hoistEdit, Members.restrict_insertAll named]
  cases keep with
  | true => rfl
  | false => exact Members.restrict_erase ownKey members

end Replay

namespace Rule

open Replay

variable {dispatcher : Dispatcher} {rule : Rule} {tree : Json}

/-! ### The keys a rule touches -/

/-- A hoist at the top of the rule sees an object at a match: the visits of all earlier
matches succeed, and the operations before the hoist bring the value of the match to it. -/
inductive HoistSees (dispatcher : Dispatcher) (rule : Rule) (tree : Json) (place : Location)
    (hoisted : Members) : Prop where
  | intro {earlier later : List Location} {reached value : Json} {count : Nat}
      {front back : List Operation} {keep : Bool} {edits : List Edit}
      (listed : tree.find rule.address = earlier ++ place :: later)
      (visited : tree.reviseEach (visit dispatcher rule.operations) () 0 earlier =
        ⟨reached, (), count, none⟩)
      (held : reached.at? place = some value)
      (hoist : rule.operations = front ++ .hoist keep :: back)
      (brings : runChain ⟨dispatcher, reached, place⟩ front (.start value) value =
        .ok (.object hoisted, edits)) : HoistSees dispatcher rule tree place hoisted

/-- The keys that a rule may change in the object around a match: the one of the match, those
that its renames name, and those of the objects that its hoists see there. -/
inductive Touches (dispatcher : Dispatcher) (rule : Rule) (tree : Json) (place : Location) :
    String → Prop where
  | own {key : String} (last : place.last? = some (.key key)) :
      Touches dispatcher rule tree place key
  | renamed {key : String} (listed : .rename key ∈ rule.operations) :
      Touches dispatcher rule tree place key
  | hoisted {key : String} {members : Members} (sees : rule.HoistSees dispatcher tree place members)
      (inside : key ∈ Members.keys members) : Touches dispatcher rule tree place key

/-- The object around a match keeps, in their order, all members with other keys than those
that the rule touches. -/
theorem restrict_apply (dispatcher : Dispatcher) {place : Location}
    (isMatch : place ∈ tree.find rule.address) (keyed : rule.address.segments ≠ []) :
    ∃ members changed, tree.at? place.dropLast = some (.object members) ∧
      (rule.apply dispatcher tree).tree.at? place.dropLast = some (.object changed) ∧
      ∀ spared : String → Bool,
        (∀ key, rule.Touches dispatcher tree place key → spared key = false) →
          Members.restrict spared changed = Members.restrict spared members := by
  have matched := Json.mem_locate.1 isMatch
  obtain ⟨parent, own, members, rfl, around⟩ := matched.enclosed keyed
  obtain ⟨current, found⟩ := matched.exists_at?
  obtain ⟨earlier, later, split⟩ := List.append_of_mem isMatch
  have apart := Json.pairwise_locate tree rule.address.segments
  rw [← Json.find, split] at apart
  have last : (parent ++ [Step.key own]).last? = some (.key own) := by
    simp [Location.last?, Location.split?_concat]
  rw [List.dropLast_concat, Rule.apply, Json.revise, split]
  rcases Json.enclosing_reviseEach apart around found () 0 with
    ⟨same, -⟩ | ⟨reached, ⟨⟩, count, ⟨⟩, given, edits, before, present, called, changed⟩
  · exact ⟨members, members, around, same, fun _ _ => rfl⟩
  · -- The match was visited: its new value has its own key, and each edit touches named keys.
    refine ⟨members, _, around, changed, fun spared untouched => ?_⟩
    have ownKey := untouched own (.own last)
    obtain ⟨⟨_, asked⟩, runs, same⟩ := map_eq_ok.1 called
    cases same
    rw [Edit.restrict_foldl, Members.restrict_insert ownKey]
    intro edit inside
    rcases mem_edits_of_runChain runs inside with
      ⟨target, listed, rfl⟩ | ⟨front, keep, back, hoisted, more, hoist, brings, rfl⟩
    · exact spares_renameEdit ownKey (untouched target (.renamed listed))
    · have sees : rule.HoistSees dispatcher tree (parent ++ [.key own]) hoisted :=
        .intro split before present hoist brings
      exact spares_hoistEdit ownKey fun key held => untouched key (.hoisted sees held)

/-! ### What a rule leaves alone -/

theorem forks_of_mem_find {place other : Location} (isMatch : place ∈ tree.find rule.address)
    (isOther : other ∈ tree.find rule.address) (differ : place ≠ other) :
    Location.Forks place.dropLast other.dropLast :=
  have : Std.Symm fun location other : Location =>
      Location.Forks location.dropLast other.dropLast := ⟨fun _ _ forks => forks.symm⟩
  (Json.pairwise_locate tree rule.address.segments).forall isMatch isOther differ

/-- A location that leads to no match and lies at or below no entry that the rule touches holds
after the rule what it held before. -/
theorem at?_apply_of_untouched (keyed : rule.address.segments ≠ []) {location : Location}
    {value : Json} (found : tree.at? location = some value)
    (outside : ∀ place ∈ tree.find rule.address, ¬ location <+: place.dropLast ∧
      ∀ key, rule.Touches dispatcher tree place key →
        ¬ place.dropLast ++ [.key key] <+: location) :
    (rule.apply dispatcher tree).tree.at? location = some value := by
  by_cases forks : ∀ place ∈ tree.find rule.address, Location.Forks place.dropLast location
  · exact (Json.at?_reviseEach_of_forks forks () 0).trans found
  · -- The location lies below the object around a match, in a member that is not touched.
    push Not at forks
    obtain ⟨place, isMatch, notForks⟩ := forks
    obtain ⟨notAbove, untouched⟩ := outside place isMatch
    obtain ⟨below, rfl⟩ :=
      (Location.prefix_or_forks place.dropLast location).resolve_right
        (not_or.2 ⟨notAbove, notForks⟩)
    cases below with
    | nil => exact absurd (by simp) notAbove
    | cons step below =>
        obtain ⟨members, changed, before, after, kept⟩ := restrict_apply dispatcher isMatch keyed
        rw [Json.at?_append, before, Option.bind_some, Json.at?_cons] at found
        rw [Json.at?_append, after, Option.bind_some, Json.at?_cons, ← found]
        cases step with
        | index position => simp [Json.child?] at found
        | key key =>
            have spares : ∀ other, rule.Touches dispatcher tree place other →
                (other == key) = false := by
              intro other touched
              refine beq_false_of_ne ?_
              rintro rfl
              exact untouched other touched (by simp)
            have same : Members.get? key changed = Members.get? key members :=
              Members.get?_of_restrict (by simp) (kept (· == key) spares)
            rw [Json.child?, Json.child?, same]

theorem steps_apply_of_further {place outer : Location} (isMatch : place ∈ tree.find rule.address)
    (further : outer <+: place.dropLast) (differ : outer ≠ place.dropLast) :
    ((rule.apply dispatcher tree).tree.at? outer).map Json.steps =
      (tree.at? outer).map Json.steps := by
  refine Json.steps_reviseEach (fun other isOther => ?_) () 0
  by_cases same : place = other
  · subst same
    exact .inr ⟨further, differ⟩
  · have forks := forks_of_mem_find isMatch isOther same
    rcases Location.prefix_or_forks other.dropLast outer with inside | above | apart
    · exact absurd (inside.trans further) forks.symm.not_prefix
    · refine .inr ⟨above, ?_⟩
      rintro rfl
      exact forks.symm.not_prefix further
    · exact .inl apart

/-- A rule with a key in its address, whether it succeeds or fails, changes only entries of
objects that directly enclose a match: the one of the match, those that its renames name, and
those that its hoists see. All other entries of such an object keep their values and their
order. Each location that leads to no match and lies at or below none of these entries holds
what it held, and each container on the way to such an object keeps the steps into it. -/
theorem apply_confined (dispatcher : Dispatcher) (rule : Rule) (tree : Json)
    (keyed : rule.address.segments ≠ []) :
    let after := (rule.apply dispatcher tree).tree
    (∀ place ∈ tree.find rule.address,
      ∃ members changed, tree.at? place.dropLast = some (.object members) ∧
        after.at? place.dropLast = some (.object changed) ∧
        ∀ spared : String → Bool,
          (∀ key, rule.Touches dispatcher tree place key → spared key = false) →
            Members.restrict spared changed = Members.restrict spared members) ∧
    (∀ location value, tree.at? location = some value →
      (∀ place ∈ tree.find rule.address, ¬ location <+: place.dropLast ∧
        ∀ key, rule.Touches dispatcher tree place key →
          ¬ place.dropLast ++ [.key key] <+: location) →
      after.at? location = some value) ∧
    ∀ place ∈ tree.find rule.address, ∀ outer : Location,
      outer <+: place.dropLast → outer ≠ place.dropLast →
        ∃ container kept, tree.at? outer = some container ∧ after.at? outer = some kept ∧
          kept.steps = container.steps := by
  intro after
  refine ⟨fun place isMatch => restrict_apply dispatcher isMatch keyed,
    fun location value found outside => at?_apply_of_untouched keyed found outside,
    fun place isMatch outer further differ => ?_⟩
  have same : (after.at? outer).map Json.steps = (tree.at? outer).map Json.steps :=
    steps_apply_of_further isMatch further differ
  obtain ⟨members, -, around, -⟩ := restrict_apply dispatcher isMatch keyed
  obtain ⟨rest, whole⟩ := further
  rw [← whole, Json.at?_append, Option.bind_eq_some_iff] at around
  obtain ⟨container, found, -⟩ := around
  rw [found, Option.map_some, Option.map_eq_some_iff] at same
  obtain ⟨kept, held, steps⟩ := same
  exact ⟨container, kept, found, held, steps⟩

/-- The wrapper of the first item is hoisted; the rule then fails at the second item. -/
theorem apply_confined_items :
    let rule : Rule :=
      ⟨⟨"items.wrapper"⟩, [.hoist false, .rename "box", .call "repeat" [.ofInt (-1)]]⟩
    let tree : Json := .object [("items", .array
      [.object [("id", .ofInt 1), ("wrapper", .object [("a", .string "x")])],
        .object [("wrapper", .string "y")]]), ("count", .ofInt 2)]
    let revision := rule.apply ⟨[], ⟨0, 0⟩⟩ tree
    rule.address.segments ≠ [] ∧ revision.written = 1 ∧
      revision.failure.map CallError.kind = some .invalidArgs ∧
      revision.tree.at? [.key "items", .index 0, .key "id"] = some (.ofInt 1) ∧
      ∃ kept, revision.tree.at? [.key "items"] = some kept ∧ kept.steps = [.index 0, .index 1] := by
  intro rule tree revision
  have keyed : rule.address.segments ≠ [] := by decide
  obtain ⟨-, alone, further⟩ := apply_confined ⟨[], ⟨0, 0⟩⟩ rule tree keyed
  have places : tree.find rule.address =
      [[.key "items", .index 0, .key "wrapper"], [.key "items", .index 1, .key "wrapper"]] := by
    decide +kernel
  rw [places] at alone further
  refine ⟨keyed, by decide +kernel, by decide +kernel, ?_, ?_⟩
  · refine alone [.key "items", .index 0, .key "id"] (.ofInt 1) (by rfl) ?_
    rintro place (_ | ⟨_, _ | ⟨_, ⟨⟩⟩⟩)
    · refine ⟨by decide, fun key touched within => ?_⟩
      obtain rfl : key = "id" := by simpa using within
      cases touched with
      | own last => exact absurd last (by decide)
      | renamed listed => exact absurd listed (by simp [rule])
      | hoisted sees inside =>
          obtain @⟨earlier, later, _, _, _, front, back, _, _, listed, visited, held, hoist,
            brings⟩ := sees
          obtain rfl : earlier = [] := by
            rw [places] at listed
            rcases earlier with _ | ⟨_, _ | ⟨_, _⟩⟩ <;> simp_all
          obtain rfl : front = [] := by
            rcases front with _ | ⟨_, _ | ⟨_, _ | ⟨_, _⟩⟩⟩ <;> simp_all [rule]
          cases visited
          cases held
          cases brings
          exact absurd inside (by decide)
    · refine ⟨by decide, fun key touched within => ?_⟩
      simp at within
  · obtain ⟨container, kept, found, held, steps⟩ := further
      [.key "items", .index 0, .key "wrapper"] (by simp) [.key "items"] (by decide) (by decide)
    cases found
    exact ⟨kept, held, steps⟩

end Rule

end Reshape
