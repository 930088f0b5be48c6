/-
Module: Reshape.Proofs.Tree.Stopping
Purpose: what a revision leaves when a visitor fails at one of the matches.
Main exports: Visitor.upTo, Revision.Stopped, Json.stopped_of_failure
Trusted boundary: none
-/
import Reshape.Proofs.Tree.Frame
import Reshape.Proofs.Tree.Visits

/-!
# Revisions that are stopped

A visitor that fails stops the revision. The visits before that one have stored their values
and made their edits, and the tree is as they leave it: what the failing visit would have
changed lies at its match or in the object around it, and both are as they were. So the
tree is also the one that a visitor leaves which goes through all matches, but from the
failing one on gives every value back.
-/

namespace Reshape

/-- The visitor that does what `visit` does in its first calls, up to the given number, and
from then on gives every value back and asks for no edits. Its state counts the calls. -/
def Visitor.upTo {σ ε : Type} (visit : Visitor σ ε) (limit : Nat) : Visitor (σ × Nat) ε :=
  fun (state, calls) value sight =>
    if calls < limit then
      (visit state value sight).map fun (next, given, edits) => ((next, calls + 1), given, edits)
    else .ok ((state, calls + 1), value, [])

/-- What a revision leaves that the visitor has stopped with the failure `e`. -/
structure Revision.Stopped {σ ε : Type} (visit : Visitor σ ε) (tree : Json) (address : Address)
    (state : σ) (e : ε) (left : Revision σ ε) : Prop where
  /-- The calls that succeed are visits of the first matches, each with the value that the
  match had at the start. Every value they give is stored and all their edits are made. -/
  visited : ∃ visits,
    tree.revise visit.recorded address (state, []) =
      ⟨left.tree, (left.state, visits), left.written, some e⟩ ∧
    visits.map Visit.location = (tree.find address).take left.written ∧
    Visits tree visits left.tree ∧ ∀ made ∈ visits, tree.at? made.location = some made.value
  /-- The call that fails is the visit of the next match. -/
  failing : ∃ place value, (tree.find address)[left.written]? = some place ∧
    tree.at? place = some value ∧ visit left.state value ⟨left.tree, place⟩ = .error e
  /-- A visitor that from there on changes nothing leaves the same tree. -/
  passive : tree.revise (visit.upTo left.written) address (state, 0) =
    ⟨left.tree, (left.state, (tree.find address).length), (tree.find address).length, none⟩
  /-- Neither that match nor a later one is changed, nor what encloses it. -/
  untouched : ∀ place ∈ (tree.find address).drop left.written,
    left.tree.at? place = tree.at? place ∧ left.tree.enclosing? place = tree.enclosing? place

namespace Json

open Location (Forks)

variable {σ ε : Type} {visit : Visitor σ ε} {tree : Json} {locations : List Location}

/-! ### The visit that fails -/

/-- A run that fails does so at the visit of one location, after visits that succeed. -/
theorem exists_failing_visit {state : σ} {written : Nat} {e : ε}
    (fails : (reviseEach visit tree state written locations).failure = some e) :
    ∃ earlier place later reached next count value,
      locations = earlier ++ place :: later ∧
      reviseEach visit tree state written earlier = ⟨reached, next, count, none⟩ ∧
      reached.at? place = some value ∧ visit next value ⟨reached, place⟩ = .error e := by
  induction locations generalizing tree state written with
  | nil => cases fails
  | cons location locations ih =>
      cases found : tree.at? location with
      | none =>
          rw [reviseEach, found] at fails
          obtain ⟨earlier, place, later, reached, next, count, value, rfl, ran, failing⟩ := ih fails
          refine ⟨location :: earlier, place, later, reached, next, count, value, rfl, ?_, failing⟩
          rw [reviseEach, found]
          exact ran
      | some current =>
          rw [reviseEach_cons found] at fails
          cases called : visit state current ⟨tree, location⟩ with
          | error refused =>
              rw [called] at fails
              cases fails
              exact ⟨[], location, locations, tree, state, written, current, rfl, rfl, found,
                called⟩
          | ok given =>
              rw [called] at fails
              obtain ⟨earlier, place, later, reached, next, count, value, rfl, ran, failing⟩ :=
                ih fails
              refine ⟨location :: earlier, place, later, reached, next, count, value, rfl, ?_,
                failing⟩
              rw [reviseEach_cons found, called]
              exact ran

/-! ### Going on without changes -/

/-- Up to its limit such a visitor does what the other one does. -/
theorem reviseEach_upTo {limit : Nat} (state : σ) (calls : Nat)
    (room : calls + locations.length ≤ limit) :
    reviseEach (visit.upTo limit) tree (state, calls) calls locations =
      let run := reviseEach visit tree state calls locations
      ⟨run.tree, (run.state, run.written), run.written, run.failure⟩ := by
  induction locations generalizing tree state calls with
  | nil => rfl
  | cons location locations ih =>
      rw [List.length_cons] at room
      cases found : tree.at? location with
      | none => simpa only [reviseEach, found] using ih state calls (by omega)
      | some current =>
          rw [reviseEach_cons found, reviseEach_cons found, Visitor.upTo, if_pos (by omega)]
          cases visit state current ⟨tree, location⟩ with
          | error e => rfl
          | ok given => exact ih _ (calls + 1) (by omega)

/-- Behind its limit it leaves a tree in which all locations exist as it is. -/
theorem reviseEach_upTo_of_le {limit : Nat} (state : σ) {calls : Nat} (behind : limit ≤ calls)
    (exist : ∀ location ∈ locations, (tree.at? location).isSome) :
    reviseEach (visit.upTo limit) tree (state, calls) calls locations =
      ⟨tree, (state, calls + locations.length), calls + locations.length, none⟩ := by
  induction locations generalizing calls with
  | nil => rfl
  | cons location locations ih =>
      obtain ⟨here, later⟩ := List.forall_mem_cons.1 exist
      obtain ⟨current, found⟩ := Option.isSome_iff_exists.1 here
      have unchanged : tree.afterVisit location current [] = tree := by
        rw [afterVisit, set?_of_at? found, Option.getD_some, editAround_nil]
      rw [reviseEach_cons found, Visitor.upTo, if_neg (by omega)]
      dsimp only
      rw [unchanged, ih (by omega) later, List.length_cons, Nat.add_assoc, Nat.add_comm 1]

/-! ### What is left -/

@[simp] theorem enclosing?_concat (tree : Json) (parent : Location) (last : Step) :
    tree.enclosing? (parent ++ [last]) = tree.at? parent := by
  simp [enclosing?, Location.parent?, Location.split?_concat]

/-- A run changes neither a location, nor what encloses it, when the containers of all that it
visits fork from its own. -/
theorem untouched_reviseEach {place : Location}
    (forks : ∀ location ∈ locations, Forks location.dropLast place.dropLast) (state : σ)
    (written : Nat) :
    let after := (reviseEach visit tree state written locations).tree
    after.at? place = tree.at? place ∧ after.enclosing? place = tree.enclosing? place := by
  refine ⟨at?_reviseEach_of_forks (fun location inside => (forks location inside).of_dropLast_right)
    state written, ?_⟩
  rcases place.eq_nil_or_concat' with rfl | ⟨parent, last, rfl⟩
  · rfl
  · rw [enclosing?_concat, enclosing?_concat]
    exact at?_reviseEach_of_forks (by simpa using forks) state written

/-- A visitor that fails at a match leaves the tree as the visits of the earlier matches have
left it: no trace of its own visit, and none of any later one. -/
theorem stopped_of_failure (visit : Visitor σ ε) (tree : Json) (address : Address) (state : σ)
    {e : ε} (fails : (tree.revise visit address state).failure = some e) :
    Revision.Stopped visit tree address state e (tree.revise visit address state) := by
  obtain ⟨earlier, place, later, reached, next, count, value, split, ran, present, failing⟩ :=
    exists_failing_visit fails
  have apart := pairwise_locate tree address.segments
  have visitable : ∀ location ∈ tree.find address, tree.Visitable location :=
    fun _ found => visitable_of_mem_locate found
  rw [← find, split, List.pairwise_append] at apart
  rw [split] at visitable
  obtain ⟨apart, -, before⟩ := apart
  obtain ⟨visits, recorded, counted, follow, places, values⟩ :=
    reviseEach_visits apart (fun location inside => visitable location (by simp [inside]))
      state 0 [] (by rw [ran])
  rw [ran, List.nil_append, Nat.zero_add] at recorded
  rw [ran, Nat.zero_add] at counted
  rw [ran] at follow
  dsimp only at recorded counted follow
  subst counted
  -- The run as a whole stops where the visits of the earlier matches have led.
  have stops : tree.revise visit address state = ⟨reached, next, earlier.length, some e⟩ := by
    rw [revise, split, reviseEach_append, ran]
    dsimp only
    rw [reviseEach_cons present, failing]
  have untouched : ∀ other ∈ place :: later, reached.at? other = tree.at? other ∧
      reached.enclosing? other = tree.enclosing? other := by
    intro other inside
    have forks : ∀ location ∈ earlier, Forks location.dropLast other.dropLast :=
      fun location listed => before location listed other inside
    have kept := @untouched_reviseEach _ _ visit tree earlier other forks state 0
    rwa [ran] at kept
  rw [stops]
  refine ⟨⟨visits, ?_, ?_, follow, values⟩, ⟨place, value, ?_, ?_, failing⟩, ?_, ?_⟩
  · rw [revise, split, reviseEach_append, recorded]
    dsimp only
    rw [reviseEach_cons present, Visitor.recorded, failing]
    rfl
  · rw [places, split, List.take_left' rfl]
  · rw [split, List.getElem?_append_right (Nat.le_refl _), Nat.sub_self]
    rfl
  · rw [← (untouched place List.mem_cons_self).1, present]
  · rw [revise, split, reviseEach_append, reviseEach_upTo state 0 (by simp), ran]
    dsimp only
    rw [reviseEach_upTo_of_le next (Nat.le_refl _), List.length_append]
    intro other inside
    obtain ⟨held, found⟩ := (visitable other (List.mem_append_right earlier inside)).1
    rw [(untouched other inside).1, found]
    rfl
  · rwa [split, List.drop_left' rfl]

end Json

end Reshape
