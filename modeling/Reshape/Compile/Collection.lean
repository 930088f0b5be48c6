/-
Module: Reshape.Compile.Collection
Purpose: collected rules with places left open for the rules of fragments, and how
  these places are filled.
Main exports: Slot, Collection, Collection.declare, Collection.add, Collection.finish
Trusted boundary: none
-/
import Reshape.Compile.Error
import Reshape.Program.Operation

/-!
# Collections of rules

A spread does not copy the rules of its fragment when it is met, for the fragment may
be declared later. It leaves an open slot instead, and all slots are filled at the
end. The fragments are filled in the order in which their bodies were started, by a
declaration or by a first slot, so a fragment may only spread fragments started before
it. The program may spread any.
-/

namespace Reshape

/-- A place in a collected list. -/
inductive Slot where
  | rule (rule : Rule)
  /-- The rules of a fragment, placed under an address. -/
  | spread (base : Address) (fragment : String)
  deriving Inhabited

/-- The slots of the program and of every fragment started. -/
structure Collection where
  program : List Slot
  fragments : List (String × List Slot)

namespace Collection

def empty : Collection := ⟨[], []⟩

/-- The names of the fragments, in the order in which they were started. -/
def names (collection : Collection) : List String :=
  collection.fragments.map Prod.fst

/-- Start the body of a fragment. -/
def declare (collection : Collection) (name : String) : Except CompileError Collection :=
  if name ∈ collection.names then .error (.duplicateFragment name)
  else .ok { collection with fragments := collection.fragments ++ [(name, [])] }

/-- Add slots to the body of a fragment, which is started if it is new. -/
def addToFragment {α : Type} (name : String) (slots : List α) :
    List (String × List α) → List (String × List α)
  | [] => [(name, slots)]
  | (other, body) :: rest =>
      if other = name then (other, body ++ slots) :: rest
      else (other, body) :: addToFragment name slots rest

/-- Add slots at the end of a collector. -/
def add (collection : Collection) (collector : Collector) (slots : List Slot) : Collection :=
  match collector with
  | .program => { collection with program := collection.program ++ slots }
  | .fragment name =>
      { collection with fragments := addToFragment name slots collection.fragments }

/-- The rules of a list of slots, where `table` holds the fragments that may be spread
in it and `declared` names all there are. -/
def fill (collector : Collector) (table : FragmentTable) (declared : List String) :
    List Slot → Except CompileError (List Rule)
  | [] => .ok []
  | .rule rule :: rest => (fill collector table declared rest).map (rule :: ·)
  | .spread base fragment :: rest =>
      match table.lookup fragment with
      | some body => (fill collector table declared rest).map (body.map (Rule.under base) ++ ·)
      | none =>
          .error (if fragment ∈ declared then .forwardFragment fragment collector
            else .unknownFragment fragment collector)

/-- Fill the fragments in turn; each may spread those already in the table. -/
def fillFragments (declared : List String) (table : FragmentTable) :
    List (String × List Slot) → Except CompileError FragmentTable
  | [] => .ok table
  | (name, slots) :: rest =>
      match fill (.fragment name) table declared slots with
      | .ok rules => fillFragments declared (table ++ [(name, rules)]) rest
      | .error e => .error e

/-- The rules of the program and of every fragment. -/
def finish (collection : Collection) : Except CompileError (List Rule × FragmentTable) :=
  match fillFragments collection.names [] collection.fragments with
  | .error e => .error e
  | .ok table =>
      (fill .program table collection.names collection.program).map fun rules => (rules, table)

end Collection

end Reshape
