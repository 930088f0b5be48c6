/-
Module: Reshape.Proofs.Tree.Frame
Purpose: what revising the matches of an address leaves as it was, whether it succeeds or
  fails.
Main exports: Members.restrict, Edit.Spares, Json.steps, Json.at?_reviseEach_of_forks,
  Json.steps_reviseEach, Json.enclosing_reviseEach
Trusted boundary: none
-/
import Reshape.Proofs.Tree.Members
import Reshape.Proofs.Tree.Revision

/-!
# What a revision leaves alone

A visit stores one value and edits one object, so a run over locations whose enclosing
containers fork changes each of these containers once, and nothing that forks from all of
them. A container further out only has one of its parts replaced, so it keeps the keys or
the indices that lead into it. A run that fails has visited the locations before the
failing one, and no others.
-/

namespace Reshape

/-! ### Members -/

namespace Members

/-- The members with some of the keys, in their order. -/
def restrict (spared : String → Bool) (members : Members) : Members :=
  members.filter fun member => spared member.1

variable {spared : String → Bool} {key : String}

theorem restrict_insert (changed : spared key = false) (value : Json) (members : Members) :
    restrict spared (insert key value members) = restrict spared members := by
  induction members with
  | nil => simp [insert, restrict, changed]
  | cons member members ih =>
      obtain ⟨name, old⟩ := member
      rw [insert]
      split
      · next same => simp [restrict, same, changed]
      · rw [restrict, List.filter_cons, restrict, List.filter_cons]
        exact congrArg (fun rest => if spared name then (name, old) :: rest else rest) ih

theorem restrict_erase (changed : spared key = false) (members : Members) :
    restrict spared (erase key members) = restrict spared members := by
  induction members with
  | nil => rfl
  | cons member members ih =>
      obtain ⟨name, old⟩ := member
      rw [erase]
      split
      · next same => simp [restrict, same, changed]
      · rw [restrict, List.filter_cons, restrict, List.filter_cons]
        exact congrArg (fun rest => if spared name then (name, old) :: rest else rest) ih

theorem restrict_insertAll {more : Members} (changed : ∀ key ∈ keys more, spared key = false)
    (members : Members) : restrict spared (insertAll members more) = restrict spared members := by
  induction more generalizing members with
  | nil => rfl
  | cons member more ih =>
      obtain ⟨first, rest⟩ := List.forall_mem_cons.1 changed
      exact (ih rest (insert member.1 member.2 members)).trans (restrict_insert first _ _)

theorem get?_restrict (kept : spared key = true) (members : Members) :
    get? key (restrict spared members) = get? key members := by
  induction members with
  | nil => rfl
  | cons member members ih =>
      obtain ⟨name, value⟩ := member
      rw [restrict] at ih
      by_cases same : name = key
      · simp [restrict, get?, same, kept]
      · cases other : spared name <;> simp [restrict, get?, same, other, ih]

/-- Members that agree on some of the keys, in their order, hold the same at each of these. -/
theorem get?_of_restrict {members changed : Members} (kept : spared key = true)
    (same : restrict spared changed = restrict spared members) :
    get? key changed = get? key members := by
  rw [← get?_restrict kept changed, same, get?_restrict kept]

end Members

/-- An edit around a match with the key `own` leaves the members with some of the keys as they
are, and in their order. -/
def Edit.Spares (spared : String → Bool) (own : String) (edit : Edit) : Prop :=
  ∀ members, Members.restrict spared (edit own members) = Members.restrict spared members

theorem Edit.restrict_foldl {spared : String → Bool} {own : String} {edits : List Edit}
    (spares : ∀ edit ∈ edits, edit.Spares spared own) (members : Members) :
    Members.restrict spared (edits.foldl (fun acc edit => edit own acc) members) =
      Members.restrict spared members := by
  induction edits generalizing members with
  | nil => rfl
  | cons edit edits ih =>
      obtain ⟨first, rest⟩ := List.forall_mem_cons.1 spares
      exact (ih rest (edit own members)).trans (first members)

/-! ### Locations -/

namespace Location

/-- Of two locations that do not fork one leads to the other. -/
theorem prefix_or_forks (location other : Location) :
    location <+: other ∨ other <+: location ∨ Forks location other := by
  induction location generalizing other with
  | nil => exact .inl List.nil_prefix
  | cons step location ih =>
      cases other with
      | nil => exact .inr (.inl List.nil_prefix)
      | cons next other =>
          by_cases same : step = next
          · subst same
            simpa [List.cons_prefix_cons] using (ih other).imp_right (.imp_right .later)
          · exact .inr (.inr (.here same))

end Location

namespace Json

open Location (Forks)

/-! ### Containers further out -/

/-- The steps that lead into a container, in its order: the indices of an array, the keys of
an object. -/
def steps : Json → List Step
  | .array items => (List.range items.length).map .index
  | .object members => (Members.keys members).map .key
  | .null | .bool _ | .number _ | .string _ => []

theorem steps_setChild {tree held : Json} {step : Step} (child : tree.child? step = some held)
    (value : Json) : (tree.setChild step value).steps = tree.steps := by
  cases tree <;> cases step <;> simp [child?] at child
  · simp [setChild, steps]
  · simp [setChild, steps, Members.keys_insert child]

/-- Replacing a part of a container keeps the steps into the container. -/
theorem steps_set? {tree changed value : Json} {outer rest : Location} (inside : rest ≠ [])
    (replaced : tree.set? value (outer ++ rest) = some changed) :
    (changed.at? outer).map steps = (tree.at? outer).map steps := by
  induction outer generalizing tree changed with
  | nil =>
      obtain ⟨step, more, rfl⟩ := List.exists_cons_of_ne_nil inside
      simp only [List.nil_append, set?_cons, Option.bind_eq_some_iff, Option.map_eq_some_iff]
        at replaced
      obtain ⟨inner, child, changedInner, -, rfl⟩ := replaced
      simp [steps_setChild child]
  | cons step outer ih =>
      simp only [List.cons_append, set?_cons, Option.bind_eq_some_iff, Option.map_eq_some_iff]
        at replaced
      obtain ⟨inner, child, changedInner, replacedInner, rfl⟩ := replaced
      simp [at?_cons, child, child?_setChild_self child, ih replacedInner]

/-- A visit keeps the steps into every container further out than the enclosing one. -/
theorem steps_afterVisit {outer location : Location} (further : outer <+: location.dropLast)
    (differ : outer ≠ location.dropLast) (tree value : Json) (edits : List Edit) :
    ((tree.afterVisit location value edits).at? outer).map steps =
      (tree.at? outer).map steps := by
  obtain ⟨rest, whole⟩ := further
  have inside : rest ≠ [] := by
    rintro rfl
    exact differ (by simpa using whole)
  have stored : (((tree.set? value location).getD tree).at? outer).map steps =
      (tree.at? outer).map steps := by
    cases replaced : tree.set? value location with
    | none => rfl
    | some changed =>
        rcases location.eq_nil_or_concat' with rfl | ⟨parent, last, rfl⟩
        · simp_all
        · rw [List.dropLast_concat] at whole
          rw [← whole, List.append_assoc] at replaced
          exact steps_set? (by simp) replaced
  rw [afterVisit, ← stored]
  rcases editAround_cases ((tree.set? value location).getD tree) location edits with
    same | ⟨parent, key, members, rfl, around⟩
  · rw [same]
  · rw [List.dropLast_concat] at whole
    have made := editAround_member around key edits
    rw [← whole] at made ⊢
    exact steps_set? inside made

/-! ### Runs -/

variable {σ ε : Type} {visit : Visitor σ ε} {tree : Json} {locations : List Location}

/-- A run is not seen at a location that forks from the containers of all it visits. -/
theorem at?_reviseEach_of_forks {other : Location}
    (forks : ∀ location ∈ locations, Forks location.dropLast other) (state : σ) (written : Nat) :
    (reviseEach visit tree state written locations).tree.at? other = tree.at? other := by
  induction locations generalizing tree state written with
  | nil => rfl
  | cons location locations ih =>
      obtain ⟨here, later⟩ := List.forall_mem_cons.1 forks
      cases found : tree.at? location with
      | none => simpa only [reviseEach, found] using ih later state written
      | some current =>
          rw [reviseEach_cons found]
          cases visit state current ⟨tree, location⟩ with
          | error e => rfl
          | ok given => exact (ih later _ _).trans (at?_afterVisit_of_forks here _ _ _)

/-- A run keeps the steps into every container that lies further out than, or forks from, each
of the containers it visits. -/
theorem steps_reviseEach {outer : Location}
    (outside : ∀ location ∈ locations, Forks location.dropLast outer ∨
      (outer <+: location.dropLast ∧ outer ≠ location.dropLast)) (state : σ) (written : Nat) :
    ((reviseEach visit tree state written locations).tree.at? outer).map steps =
      (tree.at? outer).map steps := by
  induction locations generalizing tree state written with
  | nil => rfl
  | cons location locations ih =>
      obtain ⟨here, later⟩ := List.forall_mem_cons.1 outside
      cases found : tree.at? location with
      | none => simpa only [reviseEach, found] using ih later state written
      | some current =>
          rw [reviseEach_cons found]
          cases visit state current ⟨tree, location⟩ with
          | error e => rfl
          | ok given =>
              refine (ih later _ _).trans ?_
              rcases here with forks | ⟨further, differ⟩
              · rw [at?_afterVisit_of_forks forks]
              · exact steps_afterVisit further differ _ _ _

/-- What a visit makes of the object around a member. -/
theorem at?_afterVisit_parent {parent : Location} {own : String} {members : Members}
    {current : Json} (around : tree.at? parent = some (.object members))
    (found : tree.at? (parent ++ [.key own]) = some current) (given : Json) (edits : List Edit) :
    (tree.afterVisit (parent ++ [.key own]) given edits).at? parent =
      some (.object (edits.foldl (fun acc edit => edit own acc)
        (Members.insert own given members))) := by
  obtain ⟨stored, store⟩ := exists_set?_of_at? found given
  rw [afterVisit, store, Option.getD_some]
  exact at?_set?_self (editAround_member (at?_set?_member around store) own edits)

/-- The object around a location of a run changes at the visit of that location, unless the run
fails before or there, and at no other visit. -/
theorem enclosing_reviseEach {earlier later : List Location} {parent : Location} {own : String}
    {members : Members} {current : Json}
    (apart : (earlier ++ (parent ++ [.key own]) :: later).Pairwise fun location other =>
      Forks location.dropLast other.dropLast)
    (around : tree.at? parent = some (.object members))
    (found : tree.at? (parent ++ [.key own]) = some current) (state : σ) (written : Nat) :
    let after := reviseEach visit tree state written (earlier ++ (parent ++ [.key own]) :: later)
    after.tree.at? parent = some (.object members) ∧ after.failure ≠ none ∨
      ∃ reached before count next given edits,
        reviseEach visit tree state written earlier = ⟨reached, before, count, none⟩ ∧
          reached.at? (parent ++ [.key own]) = some current ∧
          visit before current ⟨reached, parent ++ [.key own]⟩ = .ok (next, given, edits) ∧
          after.tree.at? parent = some (.object (edits.foldl (fun acc edit => edit own acc)
            (Members.insert own given members))) := by
  rw [List.pairwise_append, List.pairwise_cons] at apart
  obtain ⟨-, ⟨behind, -⟩, before⟩ := apart
  have early : ∀ location ∈ earlier, Forks location.dropLast parent := by
    intro location inside
    simpa using before location inside _ List.mem_cons_self
  have late : ∀ location ∈ later, Forks location.dropLast parent := by
    intro location inside
    simpa using (behind location inside).symm
  -- The visits before it leave the object and the location as they are.
  have still : (reviseEach visit tree state written earlier).tree.at? parent =
      some (.object members) :=
    (at?_reviseEach_of_forks early state written).trans around
  have present : (reviseEach visit tree state written earlier).tree.at? (parent ++ [.key own]) =
      some current := by
    rw [at?_reviseEach_of_forks (fun location inside => ?_) state written, found]
    simpa using (early location inside).append [] [.key own]
  simp only [reviseEach_append]
  rcases ran : reviseEach visit tree state written earlier with ⟨reached, before, count, failure⟩
  rw [ran] at still present
  cases failure with
  | some e => exact .inl ⟨still, by simp⟩
  | none =>
      simp only [reviseEach_cons present]
      cases called : visit before current ⟨reached, parent ++ [.key own]⟩ with
      | error e => exact .inl ⟨still, by simp⟩
      | ok given =>
          obtain ⟨next, value, edits⟩ := given
          refine .inr ⟨reached, before, count, next, value, edits, rfl, present, called, ?_⟩
          exact (at?_reviseEach_of_forks late _ _).trans
            (at?_afterVisit_parent still present value edits)

end Json

end Reshape
