/-
Module: Reshape.Proofs.Tree.Visits
Purpose: a revision that succeeds visits every match of its address exactly once, with
  the value that the match had at the start.
Main exports: Visit, Visitor.recorded, Visits, Json.revise_visits_every_match
Trusted boundary: none
-/
import Reshape.Proofs.Tree.Revision

/-!
# The visits of a revision

The matches are listed once, at the start, while the tree changes between the visits. A
visit reaches no further than the object around its match, and the enclosing containers
of two matches fork: so the later matches are still where they were, hold what they
held, and are still members of an object that can take their edits.

A visitor may carry any state, so its calls can be written down by a visitor that calls
it and keeps a record of each call.
-/

namespace Reshape

/-- A call of a visitor: the match, the tree around it and its value, and the new value
and the edits that the visitor gave. -/
structure Visit where
  location : Location
  around : Json
  value : Json
  given : Json
  edits : List Edit

namespace Visit

/-- The tree that a visit leaves: the given value is stored, and then all edits are made
to the object that encloses the match. Only the root is enclosed by nothing. -/
inductive Leaves (visit : Visit) : Json → Prop where
  | root (atRoot : visit.location = []) : Leaves visit visit.given
  | member {parent : Location} {key : String} {stored after : Json} {members : Members}
      (isMember : visit.location = parent ++ [.key key])
      (store : visit.around.set? visit.given visit.location = some stored)
      (enclosing : stored.at? parent = some (.object members))
      (edit : stored.set? (.object (visit.edits.foldl (fun acc edit => edit key acc) members))
        parent = some after) : Leaves visit after

end Visit

/-- The visitor that does what `visit` does and writes down every call that succeeds. -/
def Visitor.recorded {σ ε : Type} (visit : Visitor σ ε) : Visitor (σ × List Visit) ε :=
  fun (state, visits) value sight =>
    (visit state value sight).map fun (next, given, edits) =>
      ((next, visits ++ [⟨sight.location, sight.root, value, given, edits⟩]), given, edits)

/-- Visits that follow one another from one tree to another. -/
inductive Visits : Json → List Visit → Json → Prop where
  | done {tree : Json} : Visits tree [] tree
  | step {visit : Visit} {after last : Json} {rest : List Visit} (leaves : visit.Leaves after)
      (later : Visits after rest last) : Visits visit.around (visit :: rest) last

/-- In visits that follow one another every given value is stored. -/
theorem Visits.isSome_set? {tree last : Json} {visits : List Visit}
    (follow : Visits tree visits last) {made : Visit} (inside : made ∈ visits) :
    (made.around.set? made.given made.location).isSome := by
  induction follow with
  | done => cases inside
  | step leaves _ ih =>
      rcases List.mem_cons.1 inside with rfl | inside
      · cases leaves with
        | root atRoot => simp [atRoot]
        | member isMember store enclosing edit => simp [store]
      · exact ih inside

namespace Json

open Location (Forks)

variable {σ ε : Type} {visit : Visitor σ ε}

/-- A location that a visit can be made at: it exists, and unless it is the root it is a
member of an object. -/
def Visitable (tree : Json) (location : Location) : Prop :=
  (∃ value, tree.at? location = some value) ∧
    (location = [] ∨ ∃ parent key members, location = parent ++ [.key key] ∧
      tree.at? parent = some (.object members))

/-- The matches of an address can be visited. -/
theorem visitable_of_mem_locate {tree : Json} {names : List String} {location : Location}
    (found : location ∈ tree.locate names) : tree.Visitable location := by
  have isMatch := mem_locate.1 found
  refine ⟨isMatch.exists_at?, ?_⟩
  cases names with
  | nil =>
      cases isMatch
      exact .inl rfl
  | cons name names => exact .inr (isMatch.enclosed (by simp))

/-- What can be visited can still be visited after the visit of a location whose
enclosing container forks from its own. -/
theorem Visitable.afterVisit {tree : Json} {location other : Location}
    (visitable : tree.Visitable other) (forks : Forks location.dropLast other.dropLast)
    (given : Json) (edits : List Edit) :
    (tree.afterVisit location given edits).Visitable other := by
  obtain ⟨⟨value, found⟩, place⟩ := visitable
  refine ⟨⟨value, ?_⟩, ?_⟩
  · rw [at?_afterVisit_of_forks forks.of_dropLast_right, found]
  · rcases place with rfl | ⟨parent, key, members, rfl, around⟩
    · exact .inl rfl
    · rw [List.dropLast_concat] at forks
      refine .inr ⟨parent, key, members, rfl, ?_⟩
      rw [at?_afterVisit_of_forks forks, around]

/-- The visit of such a location leaves what a visit should leave. -/
theorem leaves_afterVisit {tree : Json} {location : Location}
    (visitable : tree.Visitable location) (value given : Json) (edits : List Edit) :
    Visit.Leaves ⟨location, tree, value, given, edits⟩ (tree.afterVisit location given edits) := by
  obtain ⟨⟨held, found⟩, place⟩ := visitable
  rcases place with rfl | ⟨parent, key, members, rfl, around⟩
  · exact .root rfl
  · obtain ⟨stored, store⟩ := exists_set?_of_at? found given
    -- storing the value sets a member of the enclosing object, which stays an object
    have enclosing := at?_set?_member around store
    refine .member rfl store enclosing ?_
    rw [editAround_member enclosing key edits, afterVisit, store, Option.getD_some]

/-- A run that succeeds over locations that fork is one visit of each of them in turn. -/
theorem reviseEach_visits {tree : Json} {locations : List Location}
    (apart : locations.Pairwise fun location other =>
      Forks location.dropLast other.dropLast)
    (visitable : ∀ location ∈ locations, tree.Visitable location)
    (state : σ) (written : Nat) (earlier : List Visit)
    (succeeds : (reviseEach visit tree state written locations).failure = none) :
    ∃ visits,
      reviseEach visit.recorded tree (state, earlier) written locations =
        ⟨(reviseEach visit tree state written locations).tree,
          ((reviseEach visit tree state written locations).state, earlier ++ visits),
          written + locations.length, none⟩ ∧
      (reviseEach visit tree state written locations).written = written + locations.length ∧
      Visits tree visits (reviseEach visit tree state written locations).tree ∧
      visits.map Visit.location = locations ∧
      ∀ made ∈ visits, tree.at? made.location = some made.value := by
  induction locations generalizing tree state written earlier with
  | nil => exact ⟨[], by simp [reviseEach, Visits.done]⟩
  | cons location locations ih =>
      obtain ⟨forks, apart⟩ := List.pairwise_cons.1 apart
      have here := visitable location (by simp)
      obtain ⟨current, found⟩ := here.1
      rw [reviseEach_cons found] at succeeds ⊢
      rw [reviseEach_cons found]
      cases called : visit state current ⟨tree, location⟩ with
      | error e => simp [called] at succeeds
      | ok result =>
          obtain ⟨next, given, edits⟩ := result
          simp only [called] at succeeds
          obtain ⟨visits, recorded, count, follow, places, values⟩ := ih apart
            (fun other inside =>
              (visitable other (by simp [inside])).afterVisit (forks other inside) given edits)
            next (written + 1) (earlier ++ [⟨location, tree, current, given, edits⟩]) succeeds
          refine ⟨⟨location, tree, current, given, edits⟩ :: visits, ?_, ?_, ?_, ?_, ?_⟩
          · simpa [Visitor.recorded, called, Except.map, Nat.add_assoc, Nat.add_comm 1]
              using recorded
          · simpa [Nat.add_assoc, Nat.add_comm 1] using count
          · exact .step (leaves_afterVisit here current given edits) follow
          · simp [places]
          · intro made inside
            rcases List.mem_cons.1 inside with rfl | inside
            · exact found
            · have listed : made.location ∈ locations := places ▸ List.mem_map_of_mem inside
              rw [← at?_afterVisit_of_forks (forks _ listed).of_dropLast_right tree given edits]
              exact values made inside

/-- A revision that succeeds makes one call of the visitor for each match that the tree had
at the start, in that order, and hands it the value that the match had then. Every value it
gives is stored and counted, and all edits are made to the object around the match, which
is missing only at the empty address. -/
theorem revise_visits_every_match (visit : Visitor σ ε) (tree : Json) (address : Address)
    (state : σ) (succeeds : (tree.revise visit address state).failure = none) :
    ∃ visits,
      tree.revise visit.recorded address (state, []) =
        ⟨(tree.revise visit address state).tree, ((tree.revise visit address state).state, visits),
          (tree.find address).length, none⟩ ∧
      (tree.revise visit address state).written = (tree.find address).length ∧
      Visits tree visits (tree.revise visit address state).tree ∧
      visits.map Visit.location = tree.find address ∧
      (∀ made ∈ visits, tree.at? made.location = some made.value) ∧
      (∀ made ∈ visits, (made.around.set? made.given made.location).isSome) ∧
      ∀ made ∈ visits, made.location = [] → address.segments = [] := by
  obtain ⟨visits, recorded, count, follow, places, values⟩ :=
    reviseEach_visits (pairwise_locate tree address.segments)
      (fun _ found => visitable_of_mem_locate found) state 0 [] succeeds
  rw [Nat.zero_add] at recorded count
  refine ⟨visits, recorded, count, follow, places, values, fun _ => follow.isSome_set?, ?_⟩
  intro made inside atRoot
  by_contra keyed
  have listed : made.location ∈ tree.locate address.segments :=
    places ▸ List.mem_map_of_mem inside
  exact (mem_locate.1 listed).ne_nil keyed atRoot

/-- A visitor that gives the number of its call and empties the enclosing object. -/
def countingAndClearing : Visitor Nat Unit :=
  fun calls _ _ => .ok (calls + 1, .ofInt calls, [fun _ _ => []])

/-- Three matches at different depths, in objects that are emptied one after the other. -/
theorem revise_visits_every_match_nested :
    let tree : Json := .array
      [.object [("a", .array [.object [("b", .null)], .object [("b", .null)]])],
        .object [("a", .object [("c", .null), ("b", .bool true)])]]
    let revision := tree.revise countingAndClearing ⟨"a.b"⟩ 0
    revision.failure = none ∧ revision.written = 3 ∧
      ∃ visits, Visits tree visits revision.tree ∧
        visits.map Visit.location =
          [[.index 0, .key "a", .index 0, .key "b"], [.index 0, .key "a", .index 1, .key "b"],
            [.index 1, .key "a", .key "b"]] := by
  intro tree revision
  have succeeds : revision.failure = none := rfl
  obtain ⟨visits, -, count, follow, places, -⟩ :=
    revise_visits_every_match countingAndClearing tree ⟨"a.b"⟩ 0 succeeds
  exact ⟨succeeds, count, visits, follow, places⟩

end Json

end Reshape
