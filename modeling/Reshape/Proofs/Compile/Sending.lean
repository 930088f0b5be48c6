/-
Module: Reshape.Proofs.Compile.Sending
Purpose: when the text that is sent can be read and compiled again.
Main exports: Compile.Sendable, Compile.leavesSelections,
  Compile.sendable_iff_leavesSelections
Trusted boundary: the parser and the printer of query documents that the program is given, for
  which those here stand
-/
import Reshape.Proofs.Compile.Cleaned
import Reshape.Proofs.Query.Plain
import Reshape.Proofs.Query.Roundtrip

/-!
# The text that is sent

Deletion takes selections away and looks at nothing else, so it can take all of them. A field
loses its braces then, but an operation, a fragment and an inline fragment keep theirs, and no
document has braces with nothing between them. The text that is sent is a document exactly
when deletion leaves a selection in each of these.
-/

namespace Reshape.Compile

open Query

variable {options : Options}

/-! ### What deletion leaves -/

mutual

/-- Whether deletion leaves a selection in every inline fragment of a selection. -/
def staysFilled (options : Options) : Selection → Bool
  | .field _ _ _ _ selections => stayFilled options selections
  | .spread _ _ => true
  | .inline _ _ selections =>
      !selections.all (isDeleted options) && stayFilled options selections

/-- The same for those selections that are not marked for deletion. -/
def stayFilled (options : Options) : List Selection → Bool
  | [] => true
  | selection :: rest =>
      (isDeleted options selection || staysFilled options selection) && stayFilled options rest

end

/-- Whether deletion leaves a selection in every operation, in every fragment, and in every
inline fragment that is sent. -/
def leavesSelections (options : Options) (document : Document) : Bool :=
  document.all fun definition =>
    !definition.selections.all (isDeleted options) && stayFilled options definition.selections

theorem isEmpty_cleanSelections (selections : List Selection) :
    (cleanSelections options selections).isEmpty = selections.all (isDeleted options) := by
  induction selections with
  | nil => rfl
  | cons selection rest ih =>
      rw [cleanSelections, List.all_cons]
      split
      · next deleted => rw [ih, deleted, Bool.true_and]
      · next kept => simp [kept]

mutual

theorem filled_cleanSelection (selection : Selection) :
    (cleanSelection options selection).filled = staysFilled options selection := by
  match selection with
  | .field _ _ _ _ selections => exact filledAll_cleanSelections selections
  | .spread _ _ => rfl
  | .inline _ _ selections =>
      rw [cleanSelection, Selection.filled, isEmpty_cleanSelections,
        filledAll_cleanSelections selections, staysFilled]

theorem filledAll_cleanSelections (selections : List Selection) :
    Selection.filledAll (cleanSelections options selections) = stayFilled options selections := by
  match selections with
  | [] => rfl
  | selection :: rest =>
      have others := filledAll_cleanSelections rest
      rw [cleanSelections, stayFilled]
      split
      · next deleted => rw [others, deleted, Bool.true_or, Bool.true_and]
      · next kept =>
          rw [Selection.filledAll, filled_cleanSelection selection, others]
          simp [kept]

end

theorem filled_cleanDefinition (definition : Definition) :
    (cleanDefinition options definition).filled =
      (!definition.selections.all (isDeleted options) &&
        stayFilled options definition.selections) := by
  rcases definition with ⟨_ | header, selections⟩ | ⟨name, condition, directives, selections⟩ <;>
    rw [cleanDefinition, Definition.filled, isEmpty_cleanSelections, filledAll_cleanSelections] <;>
    rfl

theorem filled_cleanDocument (document : Document) :
    (cleanDocument options document).filled = leavesSelections options document := by
  simp only [cleanDocument, Document.filled, List.all_map, Function.comp_def,
    filled_cleanDefinition, leavesSelections]

/-! ### Readable documents stay readable -/

theorem readable_keptDirectives {room : Nat} {directives : List Directive}
    (readable : ReadableDirectives room directives) :
    ReadableDirectives room (keptDirectives options directives) := by
  intro directive inside
  exact readable directive (List.mem_of_mem_filter inside)

mutual

theorem readable_cleanSelection {room : Nat} {selection : Selection}
    (readable : selection.Readable room) : (cleanSelection options selection).Readable room := by
  match selection with
  | .field alias? name arguments directives selections =>
      obtain ⟨aliased, isName, arguments, directives, positive, inner⟩ := readable
      refine ⟨aliased, isName, arguments, readable_keptDirectives directives, ?_,
        readable_cleanSelections inner⟩
      intro nonempty
      apply positive
      rintro rfl
      exact nonempty rfl
  | .spread fragment directives =>
      obtain ⟨isName, notOn, directives⟩ := readable
      exact ⟨isName, notOn, readable_keptDirectives directives⟩
  | .inline condition directives selections =>
      obtain ⟨isType, directives, positive, inner⟩ := readable
      exact ⟨isType, readable_keptDirectives directives, positive, readable_cleanSelections inner⟩

theorem readable_cleanSelections {room : Nat} {selections : List Selection}
    (readable : Selection.ReadableAll room selections) :
    Selection.ReadableAll room (cleanSelections options selections) := by
  match selections with
  | [] => trivial
  | selection :: rest =>
      rw [cleanSelections]
      split
      · exact readable_cleanSelections readable.2
      · exact ⟨readable_cleanSelection readable.1, readable_cleanSelections readable.2⟩

end

theorem readable_cleanDefinition {room : Nat} {definition : Definition}
    (readable : definition.Readable room) :
    (cleanDefinition options definition).Readable room := by
  match definition with
  | .operation none selections =>
      obtain ⟨-, positive, inner⟩ := readable
      exact ⟨by simp, positive, readable_cleanSelections inner⟩
  | .operation (some header) selections =>
      obtain ⟨readableHeader, positive, inner⟩ := readable
      obtain ⟨isName, declared, directives⟩ := readableHeader header rfl
      refine ⟨?_, positive, readable_cleanSelections inner⟩
      rintro cleaned ⟨⟩
      exact ⟨isName, declared, readable_keptDirectives directives⟩
  | .fragment name condition directives selections =>
      obtain ⟨isName, isType, directives, positive, inner⟩ := readable
      exact ⟨isName, isType, readable_keptDirectives directives, positive,
        readable_cleanSelections inner⟩

theorem readable_cleanDocument {room : Nat} {document : Document}
    (readable : ∀ definition ∈ document, definition.Readable room) :
    ∀ definition ∈ cleanDocument options document, definition.Readable room := by
  intro definition inside
  obtain ⟨original, member, rfl⟩ := List.mem_map.1 inside
  exact readable_cleanDefinition (readable original member)

/-! ### Sendable text -/

/-- Text that a server can make sense of and that needs no more compiling: it is a document,
something is selected in every definition of it, and it compiles to itself without rules. -/
def Sendable (options : Options) (query : String) : Prop :=
  ∃ document, Document.parse? query = some document ∧
    (∀ definition ∈ document, definition.selections ≠ []) ∧
    ∃ again, compile options query = .ok again ∧ again.query = query ∧ again.program = []

theorem selections_ne_nil_of_filled {definition : Definition} (filled : definition.filled = true) :
    definition.selections ≠ [] := by
  rintro none
  cases definition <;> simp_all [Definition.filled, Definition.selections]

/-- What is sent for a document that was read is read as the document that is sent, if
deletion leaves selections, and as none otherwise. -/
theorem parse?_query {text : String} {document : Document} {compilation : Compilation}
    (read : Document.parse? text = some document)
    (compiles : compileDocument options document = .ok compilation)
    (exact : compilation.document.PrintsExactly) :
    Document.parse? compilation.query =
      if leavesSelections options document then some compilation.document else none := by
  obtain ⟨nonempty, readable⟩ := readable_of_parse? read
  have cleanedNonempty : cleanDocument options document ≠ [] := by
    simpa [cleanDocument] using nonempty
  rw [document_eq_cleanDocument compiles] at exact
  rw [Compilation.query, document_eq_cleanDocument compiles,
    parse?_write cleanedNonempty (readable_cleanDocument readable) exact, filled_cleanDocument]

/-- When the values that are left print exactly, the text that is sent can be sent if and
only if deletion leaves a selection in every operation, fragment and inline fragment. -/
theorem sendable_iff_leavesSelections {text : String} {document : Document}
    {compilation : Compilation} (read : Document.parse? text = some document)
    (compiles : compileDocument options document = .ok compilation)
    (exact : compilation.document.PrintsExactly) :
    Sendable options compilation.query ↔ leavesSelections options document = true := by
  have again := parse?_query read compiles exact
  constructor
  · rintro ⟨sent, readAgain, -⟩
    by_contra lost
    rw [again, if_neg lost] at readAgain
    cases readAgain
  · intro leaves
    rw [if_pos leaves] at again
    refine ⟨compilation.document, again, ?_,
      ⟨compilation.document, [], compilation.fragments.blank⟩, ?_, rfl, rfl⟩
    · intro definition inside
      rw [← filled_cleanDocument, ← document_eq_cleanDocument compiles] at leaves
      exact selections_ne_nil_of_filled (List.all_eq_true.1 leaves definition inside)
    · rw [compile, again]
      exact (compileDocument_clean compiles).2

/-- A field that loses all it selects is sent without braces, and an inline fragment that
loses one of two fields with the other one. -/
theorem sendable_iff_leavesSelections_values :
    let text := "query Q($v: [Int!] = [7, -1]) \x7b " ++
      "a: b(x: \x7bk: [$v, ON], s: \"\\t\\\"\"\x7d) @shape \x7b " ++
      "... on T @skip(if: true) \x7b gone @_shape \x7bc\x7d d \x7d ...F drop @_shape \x7d \x7d " ++
      "fragment F on T @_shape \x7b e \x7b only @_shape \x7d \x7d"
    ∃ document compilation, Document.parse? text = some document ∧
      compileDocument .standard document = .ok compilation ∧
      compilation.document.PrintsExactly ∧ leavesSelections .standard document = true ∧
      Sendable .standard compilation.query := by
  intro text
  have facts : ((Document.parse? text).map fun document =>
      (leavesSelections .standard document,
        (compileDocument .standard document).toOption.map (·.document.isPlain))) =
      some (true, some true) := by
    decide +kernel
  clear_value text
  obtain ⟨document, read, same⟩ := Option.map_eq_some_iff.1 facts
  obtain ⟨leaves, plain⟩ := Prod.mk.inj same
  cases compiles : compileDocument .standard document with
  | error e => simp [compiles, Except.toOption] at plain
  | ok compilation =>
      have exact : compilation.document.PrintsExactly := by
        apply Document.printsExactly_of_isPlain
        simpa [compiles, Except.toOption] using plain
      exact ⟨document, compilation, read, compiles, exact, leaves,
        (sendable_iff_leavesSelections read compiles exact).2 leaves⟩

/-- Text that compiles to an unreadable text of plain values. -/
theorem not_sendable_of_unread {text : String}
    (unread : (compile options text).toOption.map (fun compilation =>
      (compilation.document.isPlain, (Document.parse? compilation.query).isSome)) =
      some (true, false)) :
    ∃ compilation, compile options text = .ok compilation ∧
      compilation.document.PrintsExactly ∧ ¬Sendable options compilation.query := by
  cases compiled : compile options text with
  | error e => simp [compiled, Except.toOption] at unread
  | ok compilation =>
      simp only [compiled, Except.toOption, Option.map_some, Option.some.injEq,
        Prod.mk.injEq] at unread
      obtain ⟨plain, unread⟩ := unread
      refine ⟨compilation, rfl, Document.printsExactly_of_isPlain plain, ?_⟩
      rintro ⟨document, read, -⟩
      simp [read] at unread

/-- An operation, an inline fragment and a fragment that lose all they select. -/
theorem not_sendable_emptied :
    let emptied (text : String) := ∃ compilation, compile .standard text = .ok compilation ∧
      compilation.document.PrintsExactly ∧ ¬Sendable .standard compilation.query
    emptied "\x7b a @_shape \x7d" ∧
      emptied "\x7b keep ... on T \x7b drop @_shape \x7d \x7d" ∧
      emptied "fragment F on T \x7b drop @_shape \x7d \x7b keep \x7d" := by
  refine ⟨not_sendable_of_unread ?operation, not_sendable_of_unread ?inline,
    not_sendable_of_unread ?fragment⟩
  case operation | inline | fragment => decide +kernel

end Reshape.Compile
