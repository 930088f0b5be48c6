/-
Module: Reshape.Proofs.Compile.Asked
Purpose: the rules of a program address what the document that is sent asks for.
Main exports: Query.Document.Selects, Query.Document.Asks, Compile.pruneDocument,
  Compile.program_asked
Trusted boundary: none
-/
import Reshape.Proofs.Compile.RuleOrder
import Reshape.Proofs.Compile.Sending
import Reshape.Proofs.Query.ResponseKeys

/-!
# What a program is about

A document asks for the chains of response keys that its operations select, with the bodies
of fragments in place of their spreads. Every rule of a program is addressed by a chain that
the document that is sent asks for. Nothing marked for deletion is looked at: without it the
document compiles to the same.
-/

namespace Reshape

namespace Query

/-! ### Chains of response keys -/

/-- The selections of a document select a chain of response keys, from the outside in. Inline
fragments and spreads add no key. -/
inductive Document.Selects (document : Document) : List Selection → List String → Prop where
  | nothing {selections : List Selection} : Selects document selections []
  | field {selections inner : List Selection} {alias? : Option String} {name : String}
      {arguments : Arguments} {directives : List Directive} {keys : List String}
      (inside : .field alias? name arguments directives inner ∈ selections)
      (below : Selects document inner keys) :
      Selects document selections (Selection.responseKey alias? name :: keys)
  | inline {selections inner : List Selection} {condition : Option String}
      {directives : List Directive} {keys : List String}
      (inside : .inline condition directives inner ∈ selections)
      (below : Selects document inner keys) : Selects document selections keys
  | spread {selections inner : List Selection} {fragment condition : String}
      {directives around : List Directive} {keys : List String}
      (inside : .spread fragment directives ∈ selections)
      (declared : .fragment fragment condition around inner ∈ document)
      (below : Selects document inner keys) : Selects document selections keys

/-- An operation of a document selects a chain of response keys. -/
def Document.Asks (document : Document) (keys : List String) : Prop :=
  ∃ header selections, .operation header selections ∈ document ∧ document.Selects selections keys

theorem keyed_of_mem {selection : Selection} {selections : List Selection}
    (inside : selection ∈ selections) (keyed : Selection.KeyedAll selections) :
    selection.Keyed := by
  induction selections with
  | nil => cases inside
  | cons first rest ih =>
      rcases List.mem_cons.1 inside with rfl | later
      · exact keyed.1
      · exact ih later keyed.2

namespace Document.Selects

variable {document : Document} {selections : List Selection} {keys : List String}

/-- More selections select no less. -/
theorem mono {more : List Selection} (selects : document.Selects selections keys)
    (subset : selections ⊆ more) : document.Selects more keys := by
  cases selects with
  | nothing => exact .nothing
  | field inside below => exact .field (subset inside) below
  | inline inside below => exact .inline (subset inside) below
  | spread inside declared below => exact .spread (subset inside) declared below

/-- The response keys that are selected are segments when all of them are. -/
theorem isSegment (selects : document.Selects selections keys)
    (keyed : ∀ definition ∈ document, definition.Keyed)
    (keyedHere : Selection.KeyedAll selections) : ∀ key ∈ keys, IsSegment key := by
  induction selects with
  | nothing => simp
  | field inside below ih =>
      obtain ⟨own, keyedInner⟩ := keyed_of_mem inside keyedHere
      exact List.forall_mem_cons.2 ⟨own, ih keyedInner⟩
  | inline inside below ih => exact ih (keyed_of_mem inside keyedHere)
  | spread inside declared below ih => exact ih (keyed _ declared)

end Document.Selects

/-- An address of segments has these segments. -/
theorem segments_ofKeys_of_isSegment {keys : List String} (whole : ∀ key ∈ keys, IsSegment key) :
    (Address.ofKeys keys).segments = keys := by
  have alone : ∀ key ∈ keys, Address.segments ⟨key⟩ = [key] := fun key inside =>
    Address.segments_of_notMem (whole key inside).1 (whole key inside).2
  rw [Address.segments_ofKeys, List.flatMap_congr alone]
  exact List.flatMap_singleton' keys

end Query

namespace Compile

open Query
open Slot (allRules)
open Selection (placesAll inductionOnSelections)

variable {options : Options} {document : Document} {table : FragmentTable}

/-! ### Rules and selections -/

/-- Rules are addressed, below some keys, by chains that the given selections select in the
document that is sent. -/
def Asked (options : Options) (document : Document) (keys : List String)
    (selections : List Selection) (rules : List Rule) : Prop :=
  ∀ rule ∈ rules, ∃ more, (cleanDocument options document).Selects selections more ∧
    rule.address.segments = (Address.ofKeys (keys ++ more)).segments

/-- A fragment is sent, and a table holds rules for it that its body asks for. -/
def Tracks (options : Options) (document : Document) (table : FragmentTable) (fragment : String) :
    Prop :=
  ∃ condition directives selections,
    .fragment fragment condition directives selections ∈ cleanDocument options document ∧
      Asked options document [] selections ((table.lookup fragment).getD [])

theorem asked_captured (keys : List String) (directives : List Directive)
    (selections : List Selection) :
    Asked options document keys selections
      (allRules table (captured options keys directives)) := by
  intro rule inside
  exact ⟨[], .nothing, by rw [address_captured inside, List.append_nil]⟩

mutual

/-- The rules of a selection are asked for by what is left of it in what is sent. -/
theorem asked_slotsOf : ∀ (keys : List String) (selection : Selection)
    (_tracks : ∀ base fragment, .spread base fragment ∈ slotsOf options keys selection →
      Tracks options document table fragment),
    Asked options document keys [cleanSelection options selection]
      (allRules table (slotsOf options keys selection))
  | keys, .field alias? name arguments directives selections, tracks => by
      rw [slotsOf, Slot.allRules_append]
      refine List.forall_mem_append.2 ⟨fun rule own => ?_, fun rule inside => ?_⟩
      · exact ⟨[_], .field List.mem_cons_self .nothing, by rw [address_captured own]⟩
      · obtain ⟨more, below, address⟩ := asked_slotsOfAll _ selections
          (fun base fragment listed => tracks base fragment (List.mem_append_right _ listed))
          rule inside
        exact ⟨_ :: more, .field List.mem_cons_self below, by simpa using address⟩
  | keys, .spread fragment directives, tracks => by
      rw [slotsOf, Slot.allRules_append]
      refine List.forall_mem_append.2 ⟨asked_captured keys directives _, fun rule inside => ?_⟩
      obtain ⟨condition, around, selections, declared, asked⟩ :=
        tracks (.ofKeys keys) fragment (by simp [slotsOf])
      simp only [allRules, List.flatMap_singleton, Slot.rules] at inside
      obtain ⟨held, inFragment, rfl⟩ := List.mem_map.1 inside
      -- The chain goes on in the body of the fragment, below the keys around the spread.
      obtain ⟨more, below, address⟩ := asked held inFragment
      refine ⟨more, .spread List.mem_cons_self declared below, ?_⟩
      rw [Rule.under, Address.segments_join, address, List.nil_append]
      simp only [Address.segments_ofKeys, List.flatMap_append]
  | keys, .inline condition directives selections, tracks => by
      rw [slotsOf, Slot.allRules_append]
      refine List.forall_mem_append.2 ⟨asked_captured keys directives _, fun rule inside => ?_⟩
      obtain ⟨more, below, address⟩ := asked_slotsOfAll keys selections
        (fun base fragment listed => tracks base fragment (List.mem_append_right _ listed))
        rule inside
      exact ⟨more, .inline List.mem_cons_self below, address⟩

theorem asked_slotsOfAll : ∀ (keys : List String) (selections : List Selection)
    (_tracks : ∀ base fragment, .spread base fragment ∈ slotsOfAll options keys selections →
      Tracks options document table fragment),
    Asked options document keys (cleanSelections options selections)
      (allRules table (slotsOfAll options keys selections))
  | _, [], _ => by
      intro rule inside
      cases inside
  | keys, selection :: rest, tracks => by
      cases marked : isDeleted options selection with
      | true =>
          simp only [slotsOfAll, cleanSelections, marked, if_true] at tracks ⊢
          exact asked_slotsOfAll keys rest tracks
      | false =>
          rw [cleanSelections_cons_kept marked]
          simp only [slotsOfAll, marked, Bool.false_eq_true, if_false] at tracks ⊢
          rw [Slot.allRules_append]
          refine List.forall_mem_append.2 ⟨fun rule here => ?_, fun rule later => ?_⟩
          · obtain ⟨more, selects, address⟩ := asked_slotsOf keys selection
              (fun base fragment listed => tracks base fragment (List.mem_append_left _ listed))
              rule here
            exact ⟨more, selects.mono (by simp), address⟩
          · obtain ⟨more, selects, address⟩ := asked_slotsOfAll keys rest
              (fun base fragment listed => tracks base fragment (List.mem_append_right _ listed))
              rule later
            exact ⟨more, selects.mono (List.subset_cons_self _ _), address⟩

end

/-- The table of a compiled document holds for each fragment rules that its body asks for. -/
theorem tracks_fragments {compilation : Compilation}
    (compiles : compileDocument options document = .ok compilation) (fragment : String)
    (known : (compilation.fragments.lookup fragment).isSome) :
    Tracks options document compilation.fragments fragment := by
  obtain ⟨-, filled, -⟩ := compileDocument_eq_ok.1 compiles
  -- A body spreads fragments that are filled before it, so the induction is on that order.
  refine Collection.fillFragments_induction
    (motive := Tracks options document compilation.fragments) filled (by simp) ?_ fragment known
  intro name slots inside tracks
  obtain ⟨definition, declared, own⟩ := List.mem_filterMap.1 inside
  cases definition with
  | operation header selections => cases own
  | fragment name condition directives selections =>
      cases own
      refine ⟨condition, keptDirectives options directives, cleanSelections options selections,
        List.mem_map_of_mem (f := cleanDefinition options) declared, ?_⟩
      rw [tabulates_fragments compiles declared, Option.getD_some, bodySlots, Slot.allRules_append]
      refine List.forall_mem_append.2 ⟨asked_captured [] directives _, ?_⟩
      exact asked_slotsOfAll [] selections
        fun base fragment listed => tracks base fragment (List.mem_append_right _ listed)

/-- Every rule of a program has the segments of a chain that the document that is sent asks
for. -/
theorem asks_of_mem_program {compilation : Compilation}
    (compiles : compileDocument options document = .ok compilation) {rule : Rule}
    (inside : rule ∈ compilation.program) :
    ∃ keys, compilation.document.Asks keys ∧
      rule.address.segments = (Address.ofKeys keys).segments := by
  obtain ⟨-, -, known, same⟩ := compileDocument_eq_ok.1 compiles
  have listed : rule ∈ allRules compilation.fragments
      (document.flatMap (programSlots options)) := by
    rw [same] at inside
    exact List.mem_reverse.1 inside
  rw [allRules, List.flatMap_assoc, List.mem_flatMap] at listed
  obtain ⟨definition, declared, within⟩ := listed
  rw [document_eq_cleanDocument compiles]
  cases definition with
  | fragment name condition directives selections => cases within
  | operation header selections =>
      have asked : Asked options document [] (cleanSelections options selections)
          (allRules compilation.fragments
            (programSlots options (.operation header selections))) := by
        rw [programSlots, Slot.allRules_append]
        refine List.forall_mem_append.2 ⟨asked_captured [] _ _, ?_⟩
        refine asked_slotsOfAll [] selections fun base fragment listed => ?_
        refine tracks_fragments compiles fragment (known base fragment ?_)
        exact List.mem_flatMap.2 ⟨_, declared, List.mem_append_right _ listed⟩
      obtain ⟨keys, selects, address⟩ := asked rule within
      have sent : cleanDefinition options (.operation header selections) ∈
          cleanDocument options document := List.mem_map_of_mem declared
      cases header with
      | none => exact ⟨keys, ⟨none, _, sent, selects⟩, address⟩
      | some header => exact ⟨keys, ⟨some _, _, sent, selects⟩, address⟩

theorem keyedAll_cleanSelections {selections : List Selection}
    (keyed : Selection.KeyedAll selections) :
    Selection.KeyedAll (cleanSelections options selections) := by
  induction selections using inductionOnSelections with
  | nil => trivial
  | cons selection rest ihInner ihRest =>
      obtain ⟨here, later⟩ := keyed
      rw [cleanSelections]
      split
      · exact ihRest later
      · refine ⟨?_, ihRest later⟩
        cases selection with
        | field alias? name arguments directives selections => exact ⟨here.1, ihInner here.2⟩
        | spread fragment directives => trivial
        | inline condition directives selections => exact ihInner here

/-- Cleaning leaves no response keys but those of the document. -/
theorem keyed_cleanDocument (keyed : ∀ definition ∈ document, definition.Keyed) :
    ∀ definition ∈ cleanDocument options document, definition.Keyed := by
  intro definition inside
  obtain ⟨original, member, rfl⟩ := List.mem_map.1 inside
  have own := keyed original member
  rcases original with ⟨_ | header, selections⟩ | ⟨name, condition, directives, selections⟩ <;>
    exact keyedAll_cleanSelections own

/-- Where the response keys are segments, the segments of a rule are themselves such a chain. -/
theorem asks_segments_of_mem_program {compilation : Compilation}
    (keyed : ∀ definition ∈ document, definition.Keyed)
    (compiles : compileDocument options document = .ok compilation) {rule : Rule}
    (inside : rule ∈ compilation.program) : compilation.document.Asks rule.address.segments := by
  obtain ⟨keys, asks, address⟩ := asks_of_mem_program compiles inside
  obtain ⟨header, selections, sent, selects⟩ := asks
  have keyedSent : ∀ definition ∈ compilation.document, definition.Keyed := by
    rw [document_eq_cleanDocument compiles]
    exact keyed_cleanDocument keyed
  have whole : ∀ key ∈ keys, IsSegment key := selects.isSegment keyedSent (keyedSent _ sent)
  rw [address, segments_ofKeys_of_isSegment whole]
  exact ⟨header, selections, sent, selects⟩

/-! ### Without what is marked -/

mutual

/-- A selection without the selections in it that are marked for deletion. -/
def pruneSelection (options : Options) : Selection → Selection
  | .field alias? name arguments directives selections =>
      .field alias? name arguments directives (pruneSelections options selections)
  | .spread fragment directives => .spread fragment directives
  | .inline condition directives selections =>
      .inline condition directives (pruneSelections options selections)

def pruneSelections (options : Options) : List Selection → List Selection
  | [] => []
  | selection :: rest =>
      if isDeleted options selection then pruneSelections options rest
      else pruneSelection options selection :: pruneSelections options rest

end

/-- A definition without the selections that are marked for deletion. -/
def pruneDefinition (options : Options) : Definition → Definition
  | .operation header selections => .operation header (pruneSelections options selections)
  | .fragment name condition directives selections =>
      .fragment name condition directives (pruneSelections options selections)

/-- A document without the selections that are marked for deletion. -/
def pruneDocument (options : Options) (document : Document) : Document :=
  document.map (pruneDefinition options)

@[simp] theorem node_pruneSelection (selection : Selection) :
    (pruneSelection options selection).node = selection.node := by
  cases selection <;> rfl

theorem selections_pruneSelection (selection : Selection) :
    (pruneSelection options selection).selections =
      pruneSelections options selection.selections := by
  cases selection <;> simp [pruneSelection, Selection.selections, pruneSelections]

theorem isDeleted_pruneSelection (selection : Selection) :
    isDeleted options (pruneSelection options selection) = isDeleted options selection := by
  rw [← isMarked_node, node_pruneSelection, isMarked_node]

/-- Of the places in a place that is not removed those are left that are not removed. -/
theorem placesAll_pruneSelections {around : List Node}
    (sent : around.any (isMarked options) = false) (selections : List Selection) :
    placesAll around (pruneSelections options selections) =
      (placesAll around selections).filter (!isRemoved options ·) := by
  induction selections using inductionOnSelections generalizing around with
  | nil => rfl
  | cons selection rest ihInner ihRest =>
      rw [pruneSelections, filter_placesAll_cons sent]
      cases marked : isDeleted options selection with
      | true => exact ihRest sent
      | false =>
          simp [Selection.placesAll_cons, selections_pruneSelection,
            ihInner (any_isMarked_concat sent marked), ihRest sent]

theorem places_pruneDefinition (definition : Definition) :
    (pruneDefinition options definition).places =
      definition.places.filter (!isRemoved options ·) := by
  have sameNode : (pruneDefinition options definition).node = definition.node := by
    cases definition <;> rfl
  have inner : (pruneDefinition options definition).selections =
      pruneSelections options definition.selections := by
    cases definition <;> rfl
  rw [filter_places_definition, Definition.places, sameNode, inner]
  exact congrArg (_ :: ·)
    (placesAll_pruneSelections (any_isMarked_definition definition) definition.selections)

/-- The places that are left are those that are not removed. -/
theorem places_pruneDocument (document : Document) :
    (pruneDocument options document).places = document.places.filter (!isRemoved options ·) := by
  simp only [Document.places, pruneDocument, List.flatMap_map, places_pruneDefinition,
    List.filter_flatMap]

theorem slotsOfAll_pruneSelections (keys : List String) (selections : List Selection) :
    slotsOfAll options keys (pruneSelections options selections) =
      slotsOfAll options keys selections := by
  induction selections using inductionOnSelections generalizing keys with
  | nil => rfl
  | cons selection rest ihInner ihRest =>
      rw [pruneSelections, slotsOfAll]
      split
      · exact ihRest keys
      · next kept =>
          rw [slotsOfAll, isDeleted_pruneSelection, if_neg kept, ihRest]
          cases selection <;> simp_all [pruneSelection, slotsOf, Selection.selections]

theorem cleanSelections_pruneSelections (selections : List Selection) :
    cleanSelections options (pruneSelections options selections) =
      cleanSelections options selections := by
  induction selections using inductionOnSelections with
  | nil => rfl
  | cons selection rest ihInner ihRest =>
      rw [pruneSelections, cleanSelections]
      split
      · exact ihRest
      · next kept =>
          rw [cleanSelections, isDeleted_pruneSelection, if_neg kept, ihRest]
          cases selection <;> simp_all [pruneSelection, cleanSelection, Selection.selections]

/-- Nothing that is marked for deletion makes a difference to compiling. -/
theorem compileDocument_pruneDocument (document : Document) :
    compileDocument options (pruneDocument options document) =
      compileDocument options document := by
  have collects (collection : Collection) (definition : Definition) :
      collectDefinition options collection (pruneDefinition options definition) =
        collectDefinition options collection definition := by
    cases definition <;> simp [pruneDefinition, collectDefinition, slotsOfAll_pruneSelections]
  have cleans (definition : Definition) :
      cleanDefinition options (pruneDefinition options definition) =
        cleanDefinition options definition := by
    rcases definition with ⟨_ | header, selections⟩ | ⟨name, condition, directives, selections⟩ <;>
      simp [pruneDefinition, cleanDefinition, cleanSelections_pruneSelections]
  have sameClean : cleanDocument options (pruneDocument options document) =
      cleanDocument options document := by
    simp [cleanDocument, pruneDocument, cleans]
  have sameSlots : collect options (pruneDocument options document) = collect options document := by
    simp only [collect, pruneDocument, List.foldlM_map, collects]
  rw [compileDocument, compileDocument, sameClean, sameSlots]

/-- Every rule of a program has the segments of a chain of response keys that an operation of
the document that is sent selects, fragments being read where they are spread. Where every
response key is one segment, as in a document that was read from text, the segments are that
chain. No rule comes from a deleted selection: the
document without the selections that are marked for deletion, and without all that stands in
them, compiles to the same. -/
theorem program_asked {compilation : Compilation}
    (compiles : compileDocument options document = .ok compilation) :
    (∀ rule ∈ compilation.program, ∃ keys, compilation.document.Asks keys ∧
      rule.address.segments = (Address.ofKeys keys).segments) ∧
    ((∀ definition ∈ document, definition.Keyed) →
      ∀ rule ∈ compilation.program, compilation.document.Asks rule.address.segments) ∧
    (∀ text, Document.parse? text = some document →
      ∀ rule ∈ compilation.program, compilation.document.Asks rule.address.segments) ∧
    (pruneDocument options document).places = document.places.filter (!isRemoved options ·) ∧
    compileDocument options (pruneDocument options document) = .ok compilation :=
  ⟨fun _ inside => asks_of_mem_program compiles inside,
    fun keyed _ inside => asks_segments_of_mem_program keyed compiles inside,
    fun _ read _ inside => asks_segments_of_mem_program (keyed_of_parse? read) compiles inside,
    places_pruneDocument document, (compileDocument_pruneDocument document).trans compiles⟩

/-- A rule of a fragment below a field, next to a deleted field and a deleted spread. -/
theorem program_asked_nested :
    let text := "\x7b me @shape \x7b ...F ...G @_shape \x7d \x7d " ++
      "fragment G on T \x7b y @shape \x7d " ++
      "fragment F on T \x7b tag: name @shape old @shape @_shape \x7d"
    ∃ document compilation, Document.parse? text = some document ∧
      (∀ definition ∈ document, definition.Keyed) ∧
      compileDocument .standard document = .ok compilation ∧
      compilation.program.map Rule.address = [⟨"me.tag"⟩, ⟨"me"⟩] ∧
      compilation.document.Asks ["me", "tag"] ∧
      compileDocument .standard (pruneDocument .standard document) = .ok compilation := by
  intro text
  have facts : (Document.parse? text).map (fun document =>
      (compileDocument .standard document).toOption.map (·.program.map Rule.address)) =
      some (some [⟨"me.tag"⟩, ⟨"me"⟩]) := by
    decide +kernel
  clear_value text
  obtain ⟨document, read, same⟩ := Option.map_eq_some_iff.1 facts
  cases compiles : compileDocument .standard document with
  | error e => simp [compiles, Except.toOption] at same
  | ok compilation =>
      have addresses : compilation.program.map Rule.address = [⟨"me.tag"⟩, ⟨"me"⟩] := by
        simpa [compiles, Except.toOption] using same
      have keyed := keyed_of_parse? read
      obtain ⟨-, asked, -, -, pruned⟩ := program_asked compiles
      obtain ⟨rule, inside, address⟩ : ∃ rule ∈ compilation.program, rule.address = ⟨"me.tag"⟩ :=
        List.mem_map.1 (by simp [addresses])
      have asks := asked keyed rule inside
      rw [address] at asks
      exact ⟨document, compilation, read, keyed, compiles, addresses, asks, pruned⟩

end Compile

end Reshape
