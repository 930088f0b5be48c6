/-
Module: Reshape.Proofs.Tree.Apart
Purpose: matches of addresses that part, and visitors that look at nothing but the value
  of a match.
Main exports: Address.Apart, Json.forks_of_matches, Json.locate_graft_of_apart,
  Json.graft_comm, Visitor.rewriting, Json.reviseEach_rewriting
Trusted boundary: none
-/
import Reshape.Proofs.Tree.Within

/-!
# Addresses that part

When neither of two lists of response keys begins with the other one, their matches part
at a key or at an index before it: no match of the one lies at, above or below a match of
the other. So what is put at the matches of one address neither moves nor changes the
matches of the other one, and both can be rewritten in either order.
-/

namespace Reshape

/-- Neither address leads through the place of the other one. -/
structure Address.Apart (first second : Address) : Prop where
  notAbove : ¬ first.segments <+: second.segments
  notBelow : ¬ second.segments <+: first.segments

theorem Address.Apart.symm {first second : Address} (apart : first.Apart second) :
    second.Apart first :=
  ⟨apart.notBelow, apart.notAbove⟩

namespace Json

open Location (Forks)

variable {tree changed value : Json} {names others : List String} {location other : Location}

/-! ### Matches -/

/-- The matches of keys that part are locations that fork. -/
theorem forks_of_matches (isMatch : Matches tree names location)
    (isOther : Matches tree others other) (notAbove : ¬ names <+: others)
    (notBelow : ¬ others <+: names) : Forks location other := by
  induction isMatch generalizing others other with
  | here => exact absurd List.nil_prefix notAbove
  | @item items position inner name names rest held below ih =>
      cases isOther with
      | here => exact absurd List.nil_prefix notBelow
      | @item _ otherPosition _ _ _ _ otherHeld otherBelow =>
          by_cases same : position = otherPosition
          · subst same
            cases held.symm.trans otherHeld
            exact .later (ih otherBelow notAbove notBelow)
          · exact .here (by simpa using same)
  | @member members name inner names rest held below ih =>
      cases isOther with
      | here => exact absurd List.nil_prefix notBelow
      | @member _ otherName _ _ _ otherHeld otherBelow =>
          by_cases same : name = otherName
          · subst same
            cases held.symm.trans otherHeld
            simp only [List.cons_prefix_cons, true_and] at notAbove notBelow
            exact .later (ih otherBelow notAbove notBelow)
          · exact .here (by simpa using same)

/-- Whatever replaces a match, the matches of keys that part from its keys stay. -/
theorem locate_of_set?_of_apart (isMatch : Matches tree names location)
    (replaced : tree.set? value location = some changed) (notAbove : ¬ names <+: others)
    (notBelow : ¬ others <+: names) : changed.locate others = tree.locate others := by
  induction isMatch generalizing changed others with
  | here => exact absurd List.nil_prefix notAbove
  | item held _ ih =>
      simp only [set?_cons, child?, held, Option.bind_some, Option.map_eq_some_iff] at replaced
      obtain ⟨changedInner, replacedInner, rfl⟩ := replaced
      obtain ⟨bound, rfl⟩ := List.getElem?_eq_some_iff.1 held
      cases others with
      | nil => exact absurd List.nil_prefix notBelow
      | cons other others =>
          simp only [setChild, locate_array, List.map_set, ih replacedInner notAbove notBelow]
          rw [← List.map_set, List.set_getElem_self]
  | @member members name inner names rest held _ ih =>
      simp only [set?_cons, child?, held, Option.bind_some, Option.map_eq_some_iff] at replaced
      obtain ⟨changedInner, replacedInner, rfl⟩ := replaced
      cases others with
      | nil => exact absurd List.nil_prefix notBelow
      | cons other others =>
          by_cases same : name = other
          · subst same
            simp only [List.cons_prefix_cons, true_and] at notAbove notBelow
            simp [setChild, locate_object, held, Members.get?_insert_self,
              ih replacedInner notAbove notBelow]
          · simp [setChild, locate_object, Members.get?_insert_of_ne same]

/-! ### Grafting at matches -/

variable {locations places : List Location} {values placed : Location → Json}

/-- Grafting at matches keeps the matches of keys that part from theirs. -/
theorem locate_graft_of_apart (isMatch : ∀ location ∈ locations, location ∈ tree.locate names)
    (notAbove : ¬ names <+: others) (notBelow : ¬ others <+: names)
    (grafted : tree.graft locations values = some changed) :
    changed.locate others = tree.locate others := by
  induction locations generalizing tree with
  | nil =>
      cases grafted
      rfl
  | cons location locations ih =>
      obtain ⟨next, replaced, grafted⟩ := Option.bind_eq_some_iff.1 grafted
      have here := mem_locate.1 (isMatch location (by simp))
      have kept := locate_of_set? here replaced
      rw [ih (fun place inside => kept ▸ isMatch place (by simp [inside])) grafted]
      exact locate_of_set?_of_apart here replaced notAbove notBelow

/-- Grafts at locations that fork from one another can be made in either order. -/
theorem graft_comm {otherChanged : Json}
    (forks : ∀ location ∈ locations, ∀ place ∈ places, Forks location place)
    (grafted : tree.graft locations values = some changed)
    (otherGrafted : tree.graft places placed = some otherChanged) :
    changed.graft places placed = otherChanged.graft locations values := by
  induction locations generalizing tree otherChanged with
  | nil =>
      cases grafted
      exact otherGrafted
  | cons location locations ih =>
      rw [graft_cons, Option.bind_eq_some_iff] at grafted
      obtain ⟨next, replaced, grafted⟩ := grafted
      have here := forks location (by simp)
      have later := graft_of_set? here replaced otherGrafted
      -- the location is still there after the other graft, so it can be replaced then
      have held : (tree.at? location).isSome = true := by
        rw [← isSome_set? tree (values location) location, replaced, Option.isSome_some]
      obtain ⟨value, found⟩ := Option.isSome_iff_exists.1 held
      rw [← at?_graft_of_forks (fun place inside => (here place inside).symm) otherGrafted] at found
      obtain ⟨both, replacedLater⟩ := exists_set?_of_at? found (values location)
      rw [replacedLater] at later
      rw [graft_cons, replacedLater, Option.bind_some]
      exact ih (fun other inside => forks other (by simp [inside])) grafted later

end Json

/-! ### Visitors that rewrite values -/

/-- The visitor that rewrites the value of a match, and neither looks around it nor asks
for edits. -/
def Visitor.rewriting {ε : Type} (rewrite : Json → Except ε Json) : Visitor Unit ε :=
  fun _ value _ => (rewrite value).map fun given => ((), given, [])

namespace Json

open Location (Forks)

variable {ε : Type} {rewrite : Json → Except ε Json} {tree : Json} {locations : List Location}
  {values results : Location → Json}

/-- Rewriting succeeds at locations that fork when it does for each of their values. -/
theorem failure_reviseEach_rewriting (apart : locations.Pairwise Forks)
    (found : ∀ location ∈ locations, tree.at? location = some (values location)) (written : Nat) :
    (reviseEach (Visitor.rewriting rewrite) tree () written locations).failure = none ↔
      ∀ location ∈ locations, ∃ given, rewrite (values location) = .ok given := by
  induction locations generalizing tree written with
  | nil => simp [reviseEach]
  | cons location locations ih =>
      obtain ⟨forks, apart⟩ := List.pairwise_cons.1 apart
      have here := found location (by simp)
      rw [reviseEach_cons here, List.forall_mem_cons]
      cases rewritten : rewrite (values location) with
      | error e => simp [Visitor.rewriting, rewritten, Except.map]
      | ok given =>
          have later : ∀ other ∈ locations,
              (tree.afterVisit location given []).at? other = some (values other) := by
            intro other inside
            obtain ⟨stored, store⟩ := exists_set?_of_at? here given
            rw [afterVisit, store, Option.getD_some, editAround_nil,
              at?_set?_of_forks (forks other inside) store, found other (by simp [inside])]
          simp [Visitor.rewriting, rewritten, Except.map, ih apart later]

/-- What rewriting leaves are the rewritten values, each at the location of the old one. -/
theorem reviseEach_rewriting (apart : locations.Pairwise Forks)
    (found : ∀ location ∈ locations, tree.at? location = some (values location))
    (rewritten : ∀ location ∈ locations, rewrite (values location) = .ok (results location))
    (written : Nat) :
    ∃ changed, tree.graft locations results = some changed ∧
      reviseEach (Visitor.rewriting rewrite) tree () written locations =
        ⟨changed, (), written + locations.length, none⟩ := by
  induction locations generalizing tree written with
  | nil => exact ⟨tree, rfl, rfl⟩
  | cons location locations ih =>
      obtain ⟨forks, apart⟩ := List.pairwise_cons.1 apart
      have here := found location (by simp)
      obtain ⟨stored, store⟩ := exists_set?_of_at? here (results location)
      have visited : tree.afterVisit location (results location) [] = stored := by
        rw [afterVisit, store, Option.getD_some, editAround_nil]
      obtain ⟨changed, grafted, runs⟩ := ih apart
        (fun other inside => by
          rw [at?_set?_of_forks (forks other inside) store, found other (by simp [inside])])
        (fun other inside => rewritten other (by simp [inside])) (written + 1)
      refine ⟨changed, ?_, ?_⟩
      · rw [graft_cons, store, Option.bind_some, grafted]
      · rw [reviseEach_cons here]
        simp [Visitor.rewriting, rewritten location (by simp), Except.map, visited, runs,
          Nat.add_assoc, Nat.add_comm 1]

end Json

end Reshape
