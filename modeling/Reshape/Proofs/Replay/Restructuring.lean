/-
Module: Reshape.Proofs.Replay.Restructuring
Purpose: what a hoist and a rename at the top of a chain make of the object around a match.
Main exports: Members.Hoisted, Members.Renamed, Rule.Revises, Rule.apply_hoist,
  Rule.apply_rename
Trusted boundary: none
-/
import Reshape.Proofs.Replay.Frame
import Reshape.Proofs.Replay.Runs
import Reshape.Proofs.Tree.Identical

/-!
# Hoisting and renaming

A hoist or a rename passes its value on and asks for one edit. The edit is made when the
chain is done and its final value is stored under the key of the match: a hoist sets the
members that the value had when it came to the hoist, a rename moves what is stored by then.
The object is that of the response at the start, as no earlier match is revised in it.
-/

namespace Reshape

open Replay (hoistEdit renameEdit runChain runOperation visit)

/-! ### The edited object -/

namespace Members

variable {keep : Bool} {own target : String} {final old : Json} {hoisted around after : Members}

/-- What hoisting makes of the object `around` a match with the key `own`. -/
structure Hoisted (keep : Bool) (own : String) (final : Json) (hoisted around after : Members) :
    Prop where
  /-- Every hoisted member is there. -/
  fields : ∀ key value, get? key hoisted = some value → get? key after = some value
  /-- All other members hold what they held. -/
  others : ∀ key, key ≠ own → key ∉ keys hoisted → get? key after = get? key around
  /-- Unless a hoisted member has its key, the match is kept with the final value, or is gone. -/
  itself : own ∉ keys hoisted → get? own after = if keep then some final else none
  /-- The members keep their places, and those that are new follow in their order. -/
  order :
    let kept := if keep then keys around else (keys around).erase own
    keys after = kept ++ (keys hoisted).filter (· ∉ kept)

/-- What renaming makes of the object `around` a match with the key `own`. -/
structure Renamed (own target : String) (final : Json) (around after : Members) : Prop where
  /-- The final value is under the new key. -/
  moved : get? target after = some final
  /-- The old key is gone, unless it is the new one as well. -/
  lost : own ≠ target → own ∉ keys after
  /-- All other members hold what they held. -/
  others : ∀ key, key ≠ own → key ≠ target → get? key after = get? key around
  /-- The members keep their places; the new key goes to the end unless it has a place there. -/
  order :
    let kept := (keys around).erase own
    keys after = kept ++ if target ∈ kept then [] else [target]

/-- A hoist is made to the object with the final value in it. -/
theorem hoisted_hoistEdit (held : get? own around = some old) (distinct : (keys around).Nodup)
    (distinctHoisted : (keys hoisted).Nodup) :
    Hoisted keep own final hoisted around
      (hoistEdit keep hoisted own (insert own final around)) := by
  have stored : keys (insert own final around) = keys around := keys_insert held
  have keptKeys : keys (if keep then insert own final around
      else erase own (insert own final around)) =
        if keep then keys around else (keys around).erase own := by
    cases keep with
    | true => exact stored
    | false =>
        rw [← stored]
        exact keys_erase own _
  refine ⟨fun key value set => get?_insertAll distinctHoisted set _, fun key differ absent => ?_,
    fun absent => ?_, ?_⟩
  · rw [hoistEdit, get?_insertAll_of_notMem absent,
      ← get?_insert_of_ne (Ne.symm differ) final around]
    cases keep with
    | true => rfl
    | false => exact get?_erase_of_ne (Ne.symm differ) _
  · rw [hoistEdit, get?_insertAll_of_notMem absent]
    cases keep with
    | true => exact get?_insert_self own final around
    | false => exact get?_erase_self (stored ▸ distinct)
  · rw [hoistEdit, keys_insertAll distinctHoisted, keptKeys]

/-- A rename moves the final value. -/
theorem renamed_renameEdit (held : get? own around = some old) (distinct : (keys around).Nodup) :
    Renamed own target final around (renameEdit target own (insert own final around)) := by
  have stored : keys (insert own final around) = keys around := keys_insert held
  have erased : keys (erase own (insert own final around)) = (keys around).erase own := by
    rw [keys_erase, stored]
  have edited : renameEdit target own (insert own final around) =
      insert target final (erase own (insert own final around)) := by
    rw [renameEdit, get?_insert_self]
  have order : keys (insert target final (erase own (insert own final around))) =
      (keys around).erase own ++ if target ∈ (keys around).erase own then [] else [target] := by
    rw [← erased]
    split
    · next inside =>
        obtain ⟨value, found⟩ :=
          Option.ne_none_iff_exists'.1 (mt get?_eq_none_iff.1 (not_not.2 inside))
        rw [keys_insert found, List.append_nil]
    · next new => exact keys_insert_of_notMem new final
  rw [edited]
  refine ⟨get?_insert_self target final _, fun differ => ?_, fun key notOwn notTarget => ?_, order⟩
  · rw [← get?_eq_none_iff, get?_insert_of_ne (Ne.symm differ)]
    exact get?_erase_self (stored ▸ distinct)
  · rw [get?_insert_of_ne (Ne.symm notTarget), get?_erase_of_ne (Ne.symm notOwn),
      get?_insert_of_ne (Ne.symm notOwn)]

end Members

/-! ### A chain with one structural operation -/

/-- The edits that an operation asks for when a value comes to it at the top of a chain. -/
def Operation.editsOn : Operation → Json → List Edit
  | .hoist keep, .object members => [hoistEdit keep members]
  | .rename target, value => if value.isNull then [] else [renameEdit target]
  | _, _ => []

namespace Replay

variable {setting : Setting} {operation : Operation} {front back : List Operation}

/-- A structural operation always succeeds and passes its value on. -/
theorem runOperation_structural (structural : operation.isStructural = true) (trace : Trace)
    (value : Json) :
    runOperation setting operation trace value = .ok (value, operation.editsOn value) := by
  cases operation with
  | hoist keep => cases value <;> rfl
  | rename target => cases value <;> rfl
  | _ => cases structural

/-- A chain with one structural operation asks for the edits that this one asks for on the
value that the operations before it give. -/
theorem edits_of_single (structural : operation.isStructural = true)
    (alone : ∀ other ∈ front ++ back, other.isStructural = false) {value final : Json}
    {edits : List Edit}
    (runs : runChain setting (front ++ operation :: back) (.start value) value =
      .ok (final, edits)) :
    ∃ brought, runChain setting front (.start value) value = .ok (brought, []) ∧
      edits = operation.editsOn brought := by
  obtain ⟨reached, runs⟩ := runChain_eq_ok.1 runs
  obtain ⟨passed, brought, own, more, first, second, rfl⟩ := runs_append.1 runs
  obtain _ | ⟨here, later⟩ := second
  rw [runOperation_structural structural] at here
  cases here
  have before := runChain_eq_ok.2 ⟨_, first⟩
  have behind := runChain_eq_ok.2 ⟨_, later⟩
  cases runChain_edits (fun other inside => alone other (List.mem_append_left back inside)) before
  cases runChain_edits (fun other inside => alone other (List.mem_append_right front inside)) behind
  exact ⟨brought, before, by simp⟩

end Replay

/-! ### The object around a match -/

namespace Rule

variable {dispatcher : Dispatcher} {rule : Rule} {tree : Json}

/-- What a rule does at the match under the key `own` of the object `around`: on the tree that
the visits of the earlier matches leave, the operations `front` bring the value of the match to
`brought`, and the chain ends with `final`. When the rule is done, the object is `after`. -/
inductive Revises (dispatcher : Dispatcher) (rule : Rule) (tree : Json) (front : List Operation)
    (parent : Location) (own : String) (around after : Members) (brought final : Json) : Prop where
  | intro {earlier later : List Location} {seen value : Json} {count : Nat}
      {asked edits : List Edit}
      (listed : tree.find rule.address = earlier ++ (parent ++ [.key own]) :: later)
      (enclosing : tree.at? parent = some (.object around))
      (held : tree.at? (parent ++ [.key own]) = some value)
      (visited : tree.reviseEach (visit dispatcher rule.operations) () 0 earlier =
        ⟨seen, (), count, none⟩)
      (brings : runChain ⟨dispatcher, seen, parent ++ [.key own]⟩ front (.start value) value =
        .ok (brought, asked))
      (ends : runChain ⟨dispatcher, seen, parent ++ [.key own]⟩ rule.operations (.start value)
        value = .ok (final, edits))
      (leaves : (rule.apply dispatcher tree).tree.at? parent = some (.object after)) :
      Revises dispatcher rule tree front parent own around after brought final

/-- A rule with one structural operation stores the final value of each match and then makes
the edits that this operation asks for. -/
theorem revises_of_single {front back : List Operation} {operation : Operation}
    (chain : rule.operations = front ++ operation :: back)
    (structural : operation.isStructural = true)
    (alone : ∀ other ∈ front ++ back, other.isStructural = false)
    (keyed : rule.address.segments ≠ []) (succeeds : (rule.apply dispatcher tree).failure = none)
    {place : Location} (isMatch : place ∈ tree.find rule.address) :
    ∃ parent own around brought final, place = parent ++ [.key own] ∧
      (∃ old, Members.get? own around = some old) ∧
      rule.Revises dispatcher tree front parent own around
        ((operation.editsOn brought).foldl (fun acc edit => edit own acc)
          (Members.insert own final around)) brought final := by
  have matched := Json.mem_locate.1 isMatch
  obtain ⟨parent, own, around, rfl, enclosing⟩ := matched.enclosed keyed
  obtain ⟨value, held⟩ := matched.exists_at?
  obtain ⟨earlier, later, listed⟩ := List.append_of_mem isMatch
  have apart := Json.pairwise_locate tree rule.address.segments
  rw [← Json.find, listed] at apart
  have run : rule.apply dispatcher tree =
      Json.reviseEach (visit dispatcher rule.operations) tree () 0
        (earlier ++ (parent ++ [.key own]) :: later) := by
    rw [Rule.apply, Json.revise, listed]
  rw [run] at succeeds
  rcases Json.enclosing_reviseEach apart enclosing held () 0 with
    ⟨-, fails⟩ | ⟨seen, ⟨⟩, count, ⟨⟩, final, edits, visited, present, called, leaves⟩
  · exact absurd succeeds fails
  · obtain ⟨⟨_, asked⟩, ends, same⟩ := map_eq_ok.1 called
    cases same
    have whole := ends
    rw [chain] at whole
    obtain ⟨brought, brings, rfl⟩ := Replay.edits_of_single structural alone whole
    have member : Members.get? own around = some value := by
      rwa [Json.at?_concat, enclosing, Option.bind_some] at held
    exact ⟨parent, own, around, brought, final, rfl, ⟨value, member⟩,
      .intro listed enclosing held visited brings ends (run ▸ leaves)⟩

/-- A rule with one hoist, and no rename, at the top of its chain loses no member of the object
around a match, nor of an object that comes to the hoist: each of these members is set there,
behind the others if it is new, and only the match itself goes away, unless it is kept or its
key is set as well. Any other value is replaced by the final one, and nothing else changes. -/
theorem apply_hoist (dispatcher : Dispatcher) (rule : Rule) (tree : Json)
    {front back : List Operation} {keep : Bool}
    (chain : rule.operations = front ++ .hoist keep :: back)
    (alone : ∀ operation ∈ front ++ back, operation.isStructural = false)
    (keyed : rule.address.segments ≠ []) (succeeds : (rule.apply dispatcher tree).failure = none) :
    ∀ place ∈ tree.find rule.address, ∃ parent own around after brought final,
      place = parent ++ [.key own] ∧
      rule.Revises dispatcher tree front parent own around after brought final ∧
      (∀ hoisted, brought = .object hoisted → (Members.keys around).Nodup →
        (Members.keys hoisted).Nodup → Members.Hoisted keep own final hoisted around after) ∧
      (brought.isObject = false → after = Members.insert own final around) := by
  intro place isMatch
  obtain ⟨parent, own, around, brought, final, split, ⟨old, held⟩, revises⟩ :=
    revises_of_single chain rfl alone keyed succeeds isMatch
  refine ⟨parent, own, around, _, brought, final, split, revises, ?_, ?_⟩
  · rintro hoisted rfl distinct distinctHoisted
    exact Members.hoisted_hoistEdit held distinct distinctHoisted
  · intro other
    cases brought with
    | object hoisted => cases other
    | _ => rfl

/-- The first of two items is hoisted: one of its members takes the place of the match, one
overwrites another member and one is new. The second item is a text. -/
theorem apply_hoist_items :
    let front : List Operation := [.each []]
    let back : List Operation := [.assign [.bool true]]
    let rule : Rule := ⟨⟨"list.wrap"⟩, front ++ .hoist true :: back⟩
    let hoisted : Members := [("a", .null), ("wrap", .string "w"), ("id", .string "i")]
    let around : Members := [("id", .ofInt 1), ("wrap", .object hoisted), ("z", .null)]
    let tree : Json := .object [("list", .array
      [.object around, .object [("wrap", .string "text")]])]
    let revision := rule.apply ⟨[], ⟨0, 0⟩⟩ tree
    (∀ operation ∈ front ++ back, operation.isStructural = false) ∧
      rule.address.segments ≠ [] ∧ revision.failure = none ∧
      ∃ after, revision.tree.at? [.key "list", .index 0] = some (.object after) ∧
        Members.Hoisted true "wrap" (.bool true) hoisted around after := by
  intro front back rule hoisted around tree revision
  have alone : ∀ operation ∈ front ++ back, operation.isStructural = false := by decide
  have keyed : rule.address.segments ≠ [] := by decide
  have succeeds : revision.failure = none := by decide +kernel
  refine ⟨alone, keyed, succeeds, ?_⟩
  have listed : [.key "list", .index 0] ++ [.key "wrap"] ∈ tree.find rule.address := by
    decide +kernel
  obtain ⟨parent, own, _, after, brought, final, split, revises, whole, -⟩ :=
    apply_hoist ⟨[], ⟨0, 0⟩⟩ rule tree rfl alone keyed succeeds _ listed
  obtain ⟨rfl, last⟩ := List.append_inj' split rfl
  cases last
  obtain ⟨-, enclosing, held, -, brings, ends, leaves⟩ := revises
  cases enclosing
  cases held
  cases brings
  cases ends
  exact ⟨after, leaves, whole hoisted rfl (by decide) (by decide)⟩

/-- A rule with one rename, and no hoist, at the top of its chain moves the final value of the
chain to the new key, when the value that comes to the rename is not null. It overwrites a
member that has this key, in its place, and goes to the end if there is none. Null is not
renamed: the final value replaces it, and nothing else changes. -/
theorem apply_rename (dispatcher : Dispatcher) (rule : Rule) (tree : Json)
    {front back : List Operation} {target : String}
    (chain : rule.operations = front ++ .rename target :: back)
    (alone : ∀ operation ∈ front ++ back, operation.isStructural = false)
    (keyed : rule.address.segments ≠ []) (succeeds : (rule.apply dispatcher tree).failure = none) :
    ∀ place ∈ tree.find rule.address, ∃ parent own around after brought final,
      place = parent ++ [.key own] ∧
      rule.Revises dispatcher tree front parent own around after brought final ∧
      (brought ≠ .null → (Members.keys around).Nodup →
        Members.Renamed own target final around after) ∧
      (brought = .null → after = Members.insert own final around) := by
  intro place isMatch
  obtain ⟨parent, own, around, brought, final, split, ⟨old, held⟩, revises⟩ :=
    revises_of_single chain rfl alone keyed succeeds isMatch
  refine ⟨parent, own, around, _, brought, final, split, revises, ?_, ?_⟩
  · intro filled distinct
    have asks : Operation.editsOn (.rename target) brought = [renameEdit target] := by
      cases brought with
      | null => exact absurd rfl filled
      | _ => rfl
    rw [asks]
    exact Members.renamed_renameEdit held distinct
  · rintro rfl
    rfl

/-- The first of two items has a member with the new key, which is overwritten; in the second
one null comes to the rename. -/
theorem apply_rename_items :
    let front : List Operation := [.each []]
    let back : List Operation := [.assign [.bool true]]
    let rule : Rule := ⟨⟨"list.old"⟩, front ++ .rename "new" :: back⟩
    let around : Members := [("id", .ofInt 1), ("old", .array []), ("new", .null), ("z", .null)]
    let other : Members := [("old", .null), ("z", .null)]
    let tree : Json := .object [("list", .array [.object around, .object other])]
    let revision := rule.apply ⟨[], ⟨0, 0⟩⟩ tree
    (∀ operation ∈ front ++ back, operation.isStructural = false) ∧
      rule.address.segments ≠ [] ∧ revision.failure = none ∧
      (∃ after, revision.tree.at? [.key "list", .index 0] = some (.object after) ∧
        Members.Renamed "old" "new" (.bool true) around after) ∧
      revision.tree.at? [.key "list", .index 1] =
        some (.object (Members.insert "old" (.bool true) other)) := by
  intro front back rule around other tree revision
  have alone : ∀ operation ∈ front ++ back, operation.isStructural = false := by decide
  have keyed : rule.address.segments ≠ [] := by decide
  have succeeds : revision.failure = none := by decide +kernel
  have renames := apply_rename ⟨[], ⟨0, 0⟩⟩ rule tree rfl alone keyed succeeds
  refine ⟨alone, keyed, succeeds, ?_, ?_⟩
  · have listed : [.key "list", .index 0] ++ [.key "old"] ∈ tree.find rule.address := by
      decide +kernel
    obtain ⟨parent, own, _, after, brought, final, split, revises, moves, -⟩ := renames _ listed
    obtain ⟨rfl, last⟩ := List.append_inj' split rfl
    cases last
    obtain ⟨-, enclosing, held, -, brings, ends, leaves⟩ := revises
    cases enclosing
    cases held
    cases brings
    cases ends
    exact ⟨after, leaves, moves (by decide) (by decide)⟩
  · have listed : [.key "list", .index 1] ++ [.key "old"] ∈ tree.find rule.address := by
      decide +kernel
    obtain ⟨parent, own, _, after, brought, final, split, revises, -, stays⟩ := renames _ listed
    obtain ⟨rfl, last⟩ := List.append_inj' split rfl
    cases last
    obtain ⟨-, enclosing, held, -, brings, ends, leaves⟩ := revises
    cases enclosing
    cases held
    cases brings
    cases ends
    rw [leaves, stays rfl]
    rfl

end Rule

end Reshape
