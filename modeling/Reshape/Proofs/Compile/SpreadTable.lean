/-
Module: Reshape.Proofs.Compile.SpreadTable
Purpose: a collection whose slots hold numbers of spreads, which are listed apart, is filled
  with the same rules as one whose slots hold the spreads.
Main exports: NumberedCollection, NumberedCollection.Represents,
  NumberedCollection.represents_after, NumberedCollection.finish_numbered
Trusted boundary: none
-/
import Reshape.Proofs.Compile.Interleaving

/-!
# Spreads in a list of their own

The spreads of all collectors can be kept in one list, in the order in which they were met,
with nothing but the number of a spread in its slot. A number that no spread has would stop the
filling. It never comes to that: the list only grows, so a number names for good the spread that
it was given for. Hence the slots may hold the spreads themselves.
-/

namespace Reshape

/-- A place in a collected list, for a rule or for a spread given by its number. -/
inductive NumberedSlot where
  | rule (rule : Rule)
  | spread (number : Nat)

/-- A spread that waits for the rules of its fragment. -/
structure Spread where
  /-- The collector that the spread was met in. -/
  collector : Collector
  base : Address
  fragment : String

/-- The slots of the program and of every fragment started, and the spreads in the order in
which they were met. -/
structure NumberedCollection where
  program : List NumberedSlot
  fragments : List (String × List NumberedSlot)
  spreads : List Spread

namespace NumberedCollection

open Collection (Call addToFragment)

/-! ### Collecting and filling -/

def empty : NumberedCollection := ⟨[], [], []⟩

def names (numbered : NumberedCollection) : List String :=
  numbered.fragments.map Prod.fst

def declare (numbered : NumberedCollection) (name : String) :
    Except CompileError NumberedCollection :=
  if name ∈ numbered.names then .error (.duplicateFragment name)
  else .ok { numbered with fragments := numbered.fragments ++ [(name, [])] }

/-- Add a slot at the end of a collector. -/
def add (numbered : NumberedCollection) (collector : Collector) (slot : NumberedSlot) :
    NumberedCollection :=
  match collector with
  | .program => { numbered with program := numbered.program ++ [slot] }
  | .fragment name =>
      { numbered with fragments := addToFragment name [slot] numbered.fragments }

/-- The collection with one more spread, which has the next number. -/
def list (numbered : NumberedCollection) (spread : Spread) : NumberedCollection :=
  { numbered with spreads := numbered.spreads ++ [spread] }

/-- The collection after one call. Only a declaration can fail. -/
def perform (numbered : NumberedCollection) : Call → Except CompileError NumberedCollection
  | .declare name => numbered.declare name
  | .push collector rule => .ok (numbered.add collector (.rule rule))
  | .enqueue collector base fragment =>
      .ok ((numbered.list ⟨collector, base, fragment⟩).add collector
        (.spread numbered.spreads.length))

/-- The collection after calls in turn. After one that fails it goes on with what it was. -/
def after (calls : List Call) : NumberedCollection :=
  calls.foldl (fun numbered call => (numbered.perform call).toOption.getD numbered) .empty

/-- The rules of a list of slots, or nothing at all at a number that no spread has. -/
def fill (spreads : List Spread) (table : FragmentTable) (declared : List String) :
    List NumberedSlot → Option (Except CompileError (List Rule))
  | [] => some (.ok [])
  | .rule rule :: rest => (fill spreads table declared rest).map (·.map (rule :: ·))
  | .spread number :: rest =>
      match spreads[number]? with
      | none => none
      | some ⟨collector, base, fragment⟩ =>
          match table.lookup fragment with
          | some body =>
              (fill spreads table declared rest).map (·.map (body.map (Rule.under base) ++ ·))
          | none =>
              some (.error (if fragment ∈ declared then .forwardFragment fragment collector
                else .unknownFragment fragment collector))

/-- Fill the fragments in turn; each may spread those already in the table. -/
def fillFragments (spreads : List Spread) (declared : List String) (table : FragmentTable) :
    List (String × List NumberedSlot) → Option (Except CompileError FragmentTable)
  | [] => some (.ok table)
  | (name, slots) :: rest =>
      match fill spreads table declared slots with
      | none => none
      | some (.ok rules) => fillFragments spreads declared (table ++ [(name, rules)]) rest
      | some (.error e) => some (.error e)

/-- The rules of the program and of every fragment. -/
def finish (numbered : NumberedCollection) :
    Option (Except CompileError (List Rule × FragmentTable)) :=
  match fillFragments numbered.spreads numbered.names [] numbered.fragments with
  | none => none
  | some (.error e) => some (.error e)
  | some (.ok table) =>
      (fill numbered.spreads table numbered.names numbered.program).map
        (·.map fun rules => (rules, table))

/-! ### What a number stands for -/

/-- A slot of a collector that holds a number, and the same slot with the spread that has this
number, met in that collector. -/
inductive Stands (spreads : List Spread) (collector : Collector) : NumberedSlot → Slot → Prop
  | rule (rule : Rule) : Stands spreads collector (.rule rule) (.rule rule)
  | spread {number : Nat} {base : Address} {fragment : String}
      (listed : spreads[number]? = some ⟨collector, base, fragment⟩) :
      Stands spreads collector (.spread number) (.spread base fragment)

/-- The same body with numbers and with spreads. -/
structure BodyStands (spreads : List Spread) (numbered : String × List NumberedSlot)
    (body : String × List Slot) : Prop where
  name : numbered.1 = body.1
  slots : List.Forall₂ (Stands spreads (.fragment body.1)) numbered.2 body.2

/-- The same collection with numbers and with spreads. Every number has a spread. -/
structure Represents (numbered : NumberedCollection) (collection : Collection) : Prop where
  program : List.Forall₂ (Stands numbered.spreads .program) numbered.program collection.program
  fragments : List.Forall₂ (BodyStands numbered.spreads) numbered.fragments collection.fragments

variable {numbered : NumberedCollection} {collection : Collection} {spreads : List Spread}
  {collector : Collector} {slot : NumberedSlot} {kept : Slot}

/-- A number goes on to stand for its spread when more spreads are listed. -/
theorem Stands.append (stands : Stands spreads collector slot kept) (more : List Spread) :
    Stands (spreads ++ more) collector slot kept := by
  cases stands with
  | rule rule => exact .rule rule
  | spread listed =>
      obtain ⟨short, -⟩ := List.getElem?_eq_some_iff.1 listed
      exact .spread (by rwa [List.getElem?_append_left short])

theorem Represents.list (represents : Represents numbered collection) (spread : Spread) :
    Represents (numbered.list spread) collection :=
  ⟨represents.program.imp fun _ _ stands => stands.append _,
    represents.fragments.imp fun _ _ body =>
      ⟨body.name, body.slots.imp fun _ _ stands => stands.append _⟩⟩

theorem Represents.names (represents : Represents numbered collection) :
    numbered.names = collection.names := by
  rw [NumberedCollection.names, Collection.names, ← List.forall₂_eq_eq_eq,
    List.forall₂_map_left_iff, List.forall₂_map_right_iff]
  exact represents.fragments.imp fun _ _ body => body.name

/-! ### One call -/

theorem addToFragment_stands {name : String} {bodies : List (String × List NumberedSlot)}
    {keptBodies : List (String × List Slot)} (stands : Stands spreads (.fragment name) slot kept)
    (same : List.Forall₂ (BodyStands spreads) bodies keptBodies) :
    List.Forall₂ (BodyStands spreads) (addToFragment name [slot] bodies)
      (addToFragment name [kept] keptBodies) := by
  induction same with
  | nil => exact .cons ⟨rfl, .cons stands .nil⟩ .nil
  | @cons body keptBody rest keptRest here later ih =>
      obtain ⟨own, slots⟩ := body
      obtain ⟨keptOwn, keptSlots⟩ := keptBody
      obtain ⟨rfl, slots⟩ := here
      simp only [addToFragment]
      split
      · next equal =>
          subst equal
          exact .cons ⟨rfl, List.rel_append slots (.cons stands .nil)⟩ later
      · exact .cons ⟨rfl, slots⟩ ih

theorem Represents.add (represents : Represents numbered collection)
    (stands : Stands numbered.spreads collector slot kept) :
    Represents (numbered.add collector slot) (collection.add collector [kept]) := by
  cases collector with
  | program =>
      exact ⟨List.rel_append represents.program (.cons stands .nil), represents.fragments⟩
  | fragment name =>
      exact ⟨represents.program, addToFragment_stands stands represents.fragments⟩

/-- A call fails on both collections, with the same error, or leaves both the same. -/
theorem Represents.perform (represents : Represents numbered collection) (call : Call) :
    (∃ e, numbered.perform call = .error e ∧ collection.perform call = .error e) ∨
      ∃ next keptNext, numbered.perform call = .ok next ∧
        collection.perform call = .ok keptNext ∧ Represents next keptNext := by
  cases call with
  | declare name =>
      by_cases known : name ∈ collection.names
      · refine .inl ⟨.duplicateFragment name, if_pos ?_, if_pos known⟩
        rwa [represents.names]
      · refine .inr ⟨_, _, if_neg ?_, if_neg known, represents.program, ?_⟩
        · rwa [represents.names]
        · exact List.rel_append represents.fragments (.cons ⟨rfl, .nil⟩ .nil)
  | push collector rule => exact .inr ⟨_, _, rfl, rfl, represents.add (.rule rule)⟩
  | enqueue collector base fragment =>
      refine .inr ⟨_, _, rfl, rfl, (represents.list _).add (.spread ?_)⟩
      exact List.getElem?_concat_length

/-! ### Whole runs -/

/-- After any calls every slot holds the number of the spread that it was left open for. -/
theorem represents_after (calls : List Call) :
    Represents (after calls) (Collection.after calls) := by
  induction calls using List.reverseRecOn with
  | nil => exact ⟨.nil, .nil⟩
  | append_singleton calls call ih =>
      rw [after, Collection.after, List.foldl_append, List.foldl_append, ← after,
        ← Collection.after, List.foldl_cons, List.foldl_cons, List.foldl_nil, List.foldl_nil]
      obtain ⟨e, fails, keptFails⟩ | ⟨next, keptNext, performed, keptPerformed, same⟩ :=
        ih.perform call
      · rw [fails, keptFails]
        exact ih
      · rw [performed, keptPerformed]
        exact same

theorem fill_stands {table : FragmentTable} {declared : List String} {slots : List NumberedSlot}
    {keptSlots : List Slot} (same : List.Forall₂ (Stands spreads collector) slots keptSlots) :
    fill spreads table declared slots =
      some (Collection.fill collector table declared keptSlots) := by
  induction same with
  | nil => rfl
  | cons stands _ ih =>
      cases stands with
      | rule rule => rw [fill, ih, Option.map_some, Collection.fill]
      | @spread number base fragment listed =>
          rw [fill, listed, Collection.fill, ih]
          dsimp only
          cases table.lookup fragment <;> rfl

theorem fillFragments_stands {declared : List String} {table : FragmentTable}
    {bodies : List (String × List NumberedSlot)} {keptBodies : List (String × List Slot)}
    (same : List.Forall₂ (BodyStands spreads) bodies keptBodies) :
    fillFragments spreads declared table bodies =
      some (Collection.fillFragments declared table keptBodies) := by
  induction same generalizing table with
  | nil => rfl
  | @cons body keptBody _ _ here _ ih =>
      obtain ⟨name, slots⟩ := body
      obtain ⟨keptName, keptSlots⟩ := keptBody
      obtain ⟨rfl, slots⟩ := here
      rw [fillFragments, Collection.fillFragments, fill_stands slots]
      cases Collection.fill (.fragment name) table declared keptSlots with
      | ok rules => exact ih
      | error e => rfl

/-- No number is without a spread, and both collections are filled with the same rules or fail
with the same error. -/
theorem finish_represents (represents : Represents numbered collection) :
    numbered.finish = some collection.finish := by
  rw [finish, Collection.finish, represents.names, fillFragments_stands represents.fragments]
  cases Collection.fillFragments collection.names [] collection.fragments with
  | error e => rfl
  | ok table =>
      dsimp only
      rw [fill_stands represents.program, Option.map_some]

/-- After any calls the numbers lead to the same rules, or to the same error, as the spreads. -/
theorem finish_numbered (calls : List Call) :
    (after calls).finish = some (Collection.after calls).finish :=
  finish_represents (represents_after calls)

end NumberedCollection

end Reshape
