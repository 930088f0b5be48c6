/-
Module: Reshape.Proofs.Tree.Within
Purpose: revising within the value of a location, and replacing the values of several
  locations that fork.
Main exports: Json.graft, Json.graft_graft, Visitor.Relocatable, Json.reviseEach_within,
  Json.reviseEach_graft
Trusted boundary: none
-/
import Reshape.Proofs.Tree.Address
import Reshape.Proofs.Tree.Revision

/-!
# Revising within a value

A visitor that sees nothing outside the value of a location does the same there as it
does on the value alone. So revising below several locations that fork comes to the same
as revising each of their values and putting the results back.
-/

namespace Reshape

namespace Json

open Location (Forks)

/-! ### Putting values at locations -/

/-- The tree with a value put at each of some locations, all of which must exist. -/
def graft (tree : Json) (locations : List Location) (values : Location → Json) : Option Json :=
  locations.foldlM (fun acc location => acc.set? (values location) location) tree

variable {tree changed : Json} {locations : List Location} {values : Location → Json}

@[simp] theorem graft_nil (tree : Json) (values : Location → Json) :
    tree.graft [] values = some tree := rfl

theorem graft_cons (tree : Json) (location : Location) (locations : List Location)
    (values : Location → Json) :
    tree.graft (location :: locations) values =
      (tree.set? (values location) location).bind fun next => next.graft locations values := rfl

/-- Putting back what is there changes nothing. -/
theorem graft_self (found : ∀ location ∈ locations, tree.at? location = some (values location)) :
    tree.graft locations values = some tree := by
  induction locations with
  | nil => rfl
  | cons location locations ih =>
      rw [graft_cons, set?_of_at? (found location (by simp)), Option.bind_some]
      exact ih fun other inside => found other (by simp [inside])

/-- Only the values at the grafted locations count. -/
theorem graft_congr {others : Location → Json}
    (same : ∀ location ∈ locations, values location = others location) :
    tree.graft locations values = tree.graft locations others := by
  induction locations generalizing tree with
  | nil => rfl
  | cons location locations ih =>
      rw [graft_cons, graft_cons, same location (by simp)]
      exact congrArg _ (funext fun _ => ih fun other inside => same other (by simp [inside]))

/-- Grafting is not seen at a location that forks from all that are grafted. -/
theorem at?_graft_of_forks {other : Location}
    (forks : ∀ location ∈ locations, Forks location other)
    (grafted : tree.graft locations values = some changed) :
    changed.at? other = tree.at? other := by
  induction locations generalizing tree with
  | nil =>
      cases grafted
      rfl
  | cons location locations ih =>
      obtain ⟨next, replaced, grafted⟩ := Option.bind_eq_some_iff.1 grafted
      rw [ih (fun place inside => forks place (by simp [inside])) grafted]
      exact at?_set?_of_forks (forks location (by simp)) replaced

/-- Every grafted location holds its value afterwards. -/
theorem at?_graft (apart : locations.Pairwise Forks)
    (grafted : tree.graft locations values = some changed) {location : Location}
    (inside : location ∈ locations) : changed.at? location = some (values location) := by
  induction locations generalizing tree with
  | nil => cases inside
  | cons first locations ih =>
      obtain ⟨forks, apart⟩ := List.pairwise_cons.1 apart
      obtain ⟨next, replaced, regrafted⟩ := Option.bind_eq_some_iff.1 grafted
      rcases List.mem_cons.1 inside with rfl | inside
      · rw [at?_graft_of_forks (fun place later => (forks place later).symm) regrafted]
        exact at?_set?_self replaced
      · exact ih apart regrafted inside

/-- Replacing a location that forks from all grafted ones can be done before or after. -/
theorem graft_of_set? {location : Location} {value replacedTree : Json}
    (forks : ∀ other ∈ locations, Forks location other)
    (replaced : tree.set? value location = some replacedTree)
    (grafted : tree.graft locations values = some changed) :
    replacedTree.graft locations values = changed.set? value location := by
  induction locations generalizing tree replacedTree with
  | nil =>
      cases grafted
      exact replaced.symm
  | cons other locations ih =>
      obtain ⟨next, otherReplaced, grafted⟩ := Option.bind_eq_some_iff.1 grafted
      have swapped := set?_comm (forks other (by simp)) replaced otherReplaced
      obtain ⟨held, found⟩ := Option.isSome_iff_exists.1
        ((isSome_set? tree value location).symm.trans (by rw [replaced]; rfl))
      obtain ⟨both, first⟩ := exists_set?_of_at?
        ((at?_set?_of_forks (forks other (by simp)).symm otherReplaced).trans found) value
      rw [graft_cons, swapped, first, Option.bind_some]
      exact ih (fun place inside => forks place (by simp [inside])) first grafted

/-- Of two grafts at the same locations the second one stays. -/
theorem graft_graft (apart : locations.Pairwise Forks)
    (grafted : tree.graft locations values = some changed) (second : Location → Json) :
    changed.graft locations second = tree.graft locations second := by
  induction locations generalizing tree changed with
  | nil =>
      cases grafted
      rfl
  | cons location locations ih =>
      obtain ⟨forks, apart⟩ := List.pairwise_cons.1 apart
      obtain ⟨next, replaced, grafted⟩ := Option.bind_eq_some_iff.1 grafted
      obtain ⟨again, replacedAgain⟩ := exists_set?_of_at? (at?_set?_self replaced) (second location)
      have held : changed.at? location = some (values location) := by
        rw [at?_graft_of_forks (fun place inside => (forks place inside).symm) grafted]
        exact at?_set?_self replaced
      obtain ⟨last, replacedLast⟩ := exists_set?_of_at? held (second location)
      have regrafted := graft_of_set? forks replacedAgain grafted
      rw [replacedLast] at regrafted
      rw [graft_cons, graft_cons, replacedLast, ← set?_set? replaced, replacedAgain,
        Option.bind_some, Option.bind_some]
      exact ih apart regrafted

/-- Grafting at matches keeps all matches where they are. -/
theorem locate_graft {names : List String}
    (isMatch : ∀ location ∈ locations, location ∈ tree.locate names)
    (grafted : tree.graft locations values = some changed) :
    changed.locate names = tree.locate names := by
  induction locations generalizing tree with
  | nil =>
      cases grafted
      rfl
  | cons location locations ih =>
      obtain ⟨next, replaced, grafted⟩ := Option.bind_eq_some_iff.1 grafted
      have kept := locate_of_set? (mem_locate.1 (isMatch location (by simp))) replaced
      rw [ih (fun place inside => kept ▸ isMatch place (by simp [inside])) grafted, kept]

/-! ### Revising below a location -/

/-- Edits around a location below another one are edits within the value of that one. The
root of the value is the exception: alone it has no enclosing object. -/
theorem editAround_within {front rest : Location} {inner : Json}
    (found : tree.at? front = some inner) (edits : List Edit) (proper : rest = [] → edits = []) :
    tree.set? (inner.editAround rest edits) front =
      some (tree.editAround (front ++ rest) edits) := by
  rcases rest.eq_nil_or_concat' with rfl | ⟨parent, last, rfl⟩
  · rw [proper rfl, editAround_nil, editAround_nil, set?_of_at? found]
  · have around : tree.at? (front ++ parent) = inner.at? parent := by
      rw [at?_append, found, Option.bind_some]
    rw [← List.append_assoc]
    by_cases member : ∃ key members, last = .key key ∧ inner.at? parent = some (.object members)
    · obtain ⟨key, members, rfl, inside⟩ := member
      rw [← editAround_member (around.trans inside) key edits, set?_append, found,
        Option.bind_some, editAround_member inside key edits, Option.bind_some]
    · -- no object encloses the location, on either side
      have kept {whole : Json} {place : Location} (same : whole.at? place = inner.at? parent) :
          whole.editAround (place ++ [last]) edits = whole := by
        refine (editAround_cases whole (place ++ [last]) edits).resolve_right ?_
        rintro ⟨enclosing, key, members, split, inside⟩
        obtain ⟨rfl, lastIsKey⟩ := List.append_inj' split rfl
        cases lastIsKey
        exact member ⟨key, members, rfl, same ▸ inside⟩
      rw [kept rfl, kept around, set?_of_at? found]

/-- The visit of a location below another one is a visit within the value of that one. -/
theorem afterVisit_within {front rest : Location} {inner held : Json}
    (found : tree.at? front = some inner) (foundInner : inner.at? rest = some held)
    (given : Json) (edits : List Edit) (proper : rest = [] → edits = []) :
    tree.set? (inner.afterVisit rest given edits) front =
      some (tree.afterVisit (front ++ rest) given edits) := by
  obtain ⟨stored, storedInner⟩ := exists_set?_of_at? foundInner given
  obtain ⟨next, replaced⟩ := exists_set?_of_at? found stored
  have whole : tree.set? given (front ++ rest) = some next := by
    rw [set?_append, found, Option.bind_some, storedInner, Option.bind_some, replaced]
  rw [afterVisit, afterVisit, storedInner, whole, Option.getD_some, Option.getD_some,
    ← editAround_within (at?_set?_self replaced) edits proper, set?_set? replaced]

end Json

/-- A visitor does at a location below any other one what it does at the rest of the
location in the value alone. At the value itself, which has no enclosing object alone, it
gives no edits. -/
structure Visitor.Relocatable {σ ε : Type} (visit : Visitor σ ε) (rest : Location) : Prop where
  sight : ∀ {front : Location} {root inner : Json}, root.at? front = some inner →
    ∀ state value, visit state value ⟨root, front ++ rest⟩ = visit state value ⟨inner, rest⟩
  edits : rest = [] → ∀ {state next : σ} {value given : Json} {sight : Sight} {edits : List Edit},
    visit state value sight = .ok (next, given, edits) → edits = []

namespace Json

open Location (Forks)

variable {σ ε : Type} {visit : Visitor σ ε} {tree : Json}

/-- Revising below a location is revising its value and putting the result back. -/
theorem reviseEach_within {front : Location} {inner : Json}
    (found : tree.at? front = some inner) (state : σ) (written : Nat) {places : List Location}
    (relocatable : ∀ rest ∈ places, visit.Relocatable rest) :
    ∃ changed,
      tree.set? (reviseEach visit inner state written places).tree front = some changed ∧
      reviseEach visit tree state written (places.map (front ++ ·)) =
        { reviseEach visit inner state written places with tree := changed } := by
  induction places generalizing tree inner state written with
  | nil => exact ⟨tree, set?_of_at? found, rfl⟩
  | cons rest places ih =>
      have whole : tree.at? (front ++ rest) = inner.at? rest := by
        rw [at?_append, found, Option.bind_some]
      have later := fun other inside => relocatable other (List.mem_cons_of_mem rest inside)
      cases foundInner : inner.at? rest with
      | none =>
          rw [foundInner] at whole
          simp only [List.map_cons, reviseEach, whole, foundInner]
          exact ih found state written later
      | some current =>
          have alone := relocatable rest (by simp)
          rw [List.map_cons, reviseEach_cons (whole.trans foundInner), reviseEach_cons foundInner,
            alone.sight found]
          cases called : visit state current ⟨inner, rest⟩ with
          | error e => exact ⟨tree, set?_of_at? found, rfl⟩
          | ok result =>
              obtain ⟨next, given, edits⟩ := result
              have visited := afterVisit_within found foundInner given edits
                fun root => alone.edits root called
              obtain ⟨changed, replaced, runs⟩ :=
                ih (at?_set?_self visited) next (written + 1) later
              exact ⟨changed, set?_set? visited _ ▸ replaced, runs⟩

/-- Revising below several locations that fork is revising the value of each of them and
putting the results back; it succeeds only if each of these revisions does. -/
theorem reviseEach_graft {visit : Visitor Unit ε} {locations : List Location}
    {values : Location → Json} {places : Location → List Location}
    (apart : locations.Pairwise Forks)
    (found : ∀ location ∈ locations, tree.at? location = some (values location))
    (relocatable : ∀ location ∈ locations, ∀ rest ∈ places location, visit.Relocatable rest)
    (written : Nat)
    (succeeds : (reviseEach visit tree () written
      (locations.flatMap fun location => (places location).map (location ++ ·))).failure = none) :
    (∀ location ∈ locations,
      (reviseEach visit (values location) () 0 (places location)).failure = none) ∧
    tree.graft locations
        (fun location => (reviseEach visit (values location) () 0 (places location)).tree) =
      some (reviseEach visit tree () written
        (locations.flatMap fun location => (places location).map (location ++ ·))).tree := by
  induction locations generalizing tree written with
  | nil => simp [reviseEach]
  | cons location locations ih =>
      obtain ⟨forks, apart⟩ := List.pairwise_cons.1 apart
      obtain ⟨changed, replaced, runs⟩ := reviseEach_within (found location (by simp)) () written
        (relocatable location (by simp))
      rw [reviseEach_written (values location)] at replaced runs
      rw [List.flatMap_cons, reviseEach_append, runs] at succeeds ⊢
      cases failed : (reviseEach visit (values location) () 0 (places location)).failure with
      | some e => simp [failed] at succeeds
      | none =>
          simp only [failed] at succeeds ⊢
          obtain ⟨eachSucceeds, grafted⟩ := ih apart
            (fun other inside => by
              rw [at?_set?_of_forks (forks other inside) replaced, found other (by simp [inside])])
            (fun other inside => relocatable other (by simp [inside])) _ succeeds
          refine ⟨?_, ?_⟩
          · intro other inside
            rcases List.mem_cons.1 inside with rfl | inside
            · exact failed
            · exact eachSucceeds other inside
          · rw [graft_cons, replaced, Option.bind_some, grafted]

end Json

end Reshape
