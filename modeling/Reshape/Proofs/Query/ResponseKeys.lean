/-
Module: Reshape.Proofs.Query.ResponseKeys
Purpose: every response key of a document that was read is one segment of an address.
Main exports: Query.IsSegment, Query.Selection.Keyed, Query.Definition.Keyed,
  Query.keyed_of_parse?
Trusted boundary: the parser and the printer of query documents that the program is given, for
  which those here stand
-/
import Reshape.Proofs.Query.Readable

/-!
# Response keys

A response key that is not empty and holds no dot is one segment of the addresses that are
made of it. Names have a first character and no dots, and the response key of a field is one of
its names, so the documents that were read have such keys alone.
-/

namespace Reshape.Query

/-- A key that stands in an address as one segment. -/
def IsSegment (key : String) : Prop :=
  key ≠ "" ∧ '.' ∉ key.toList

mutual

/-- Every field of a selection has a response key that is one segment. -/
def Selection.Keyed : Selection → Prop
  | .field alias? name _ _ selections =>
      IsSegment (Selection.responseKey alias? name) ∧ Selection.KeyedAll selections
  | .spread _ _ => True
  | .inline _ _ selections => Selection.KeyedAll selections

def Selection.KeyedAll : List Selection → Prop
  | [] => True
  | selection :: rest => Selection.Keyed selection ∧ Selection.KeyedAll rest

end

/-- Every field of a definition has a response key that is one segment. -/
def Definition.Keyed : Definition → Prop
  | .operation _ selections => Selection.KeyedAll selections
  | .fragment _ _ _ selections => Selection.KeyedAll selections

/-- A name is neither empty nor dotted. -/
theorem IsName.isSegment {text : String} (name : IsName text) : IsSegment text := by
  obtain ⟨first, rest, chars, isFirst, isRest⟩ := name
  constructor
  · rintro rfl
    cases chars
  · intro dotted
    rw [chars, List.mem_cons] at dotted
    rcases dotted with rfl | later
    · exact absurd isFirst (by decide)
    · exact absurd (List.all_eq_true.1 isRest '.' later) (by decide)

mutual

theorem keyed_of_readable {room : Nat} {selection : Selection}
    (readable : selection.Readable room) : selection.Keyed := by
  match selection with
  | .field alias? name _ _ selections =>
      obtain ⟨aliased, isName, -, -, -, readableInner⟩ := readable
      refine ⟨?_, keyedAll_of_readable readableInner⟩
      cases alias? with
      | none => exact isName.isSegment
      | some text => exact (aliased text rfl).isSegment
  | .spread _ _ => trivial
  | .inline _ _ selections => exact keyedAll_of_readable readable.2.2.2

theorem keyedAll_of_readable {room : Nat} {selections : List Selection}
    (readable : Selection.ReadableAll room selections) : Selection.KeyedAll selections := by
  match selections with
  | [] => trivial
  | selection :: rest => exact ⟨keyed_of_readable readable.1, keyedAll_of_readable readable.2⟩

end

/-- Every field of a document that was read has a response key that is one segment. -/
theorem keyed_of_parse? {text : String} {document : Document}
    (read : Document.parse? text = some document) : ∀ definition ∈ document, definition.Keyed := by
  intro definition inside
  have readable := (readable_of_parse? read).2 definition inside
  match definition with
  | .operation _ selections => exact keyedAll_of_readable readable.2.2
  | .fragment _ _ _ selections => exact keyedAll_of_readable readable.2.2.2.2

end Reshape.Query
