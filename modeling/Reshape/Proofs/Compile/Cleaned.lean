/-
Module: Reshape.Proofs.Compile.Cleaned
Purpose: which places and directives of a document are sent, and what compiling the
  document that is sent gives.
Main exports: Compile.isOwn, Compile.isMarked, Compile.isRemoved, Compile.bare,
  Compile.places_cleanDocument, Compile.compileDocument_clean
Trusted boundary: none
-/
import Reshape.Proofs.Compile.Collected
import Reshape.Proofs.Query.Places

/-!
# The document that is sent

Of the places of a document those are sent that are not marked for deletion and do not
stand in a marked one, in their order, each without the two directives that are not the
server's. Nothing is left to capture in what is sent, and the spreads in it are still
filled in the same order, with nothing.
-/

namespace Reshape

/-- Whether a slot is left open for a fragment. -/
def Slot.isSpread : Slot → Bool
  | .rule _ => false
  | .spread _ _ => true

/-- The fragments of a table, with no rules. -/
def FragmentTable.blank (table : FragmentTable) : FragmentTable :=
  table.map fun entry => (entry.1, [])

theorem FragmentTable.lookup_blank (table : FragmentTable) (fragment : String) :
    table.blank.lookup fragment = (table.lookup fragment).map fun _ => [] := by
  induction table with
  | nil => rfl
  | cons entry table ih =>
      obtain ⟨name, rules⟩ := entry
      simp only [blank, List.map_cons, List.lookup_cons]
      split
      · rfl
      · exact ih

/-- Spreads of fragments without rules stand for no rules. -/
theorem Slot.allRules_blank (table : FragmentTable) (slots : List Slot) :
    allRules table.blank (slots.filter Slot.isSpread) = [] := by
  refine List.flatMap_eq_nil_iff.2 fun slot inside => ?_
  cases slot with
  | rule own => simp [isSpread] at inside
  | spread base fragment =>
      rw [rules, FragmentTable.lookup_blank]
      cases table.lookup fragment <;> rfl

/-- Fragments that can be filled can be filled with nothing when they lose their rules. -/
theorem Collection.fillFragments_blank {declared : List String} {table filled : FragmentTable}
    {fragments : List (String × List Slot)}
    (succeeds : fillFragments declared table fragments = .ok filled) :
    fillFragments declared table.blank
        (fragments.map fun entry => (entry.1, entry.2.filter Slot.isSpread)) =
      .ok filled.blank := by
  induction fragments generalizing table with
  | nil =>
      cases succeeds
      rfl
  | cons fragment fragments ih =>
      obtain ⟨name, slots⟩ := fragment
      obtain ⟨known, rest⟩ := fillFragments_cons.1 succeeds
      refine fillFragments_cons.2 ⟨fun base fragment inside => ?_, ?_⟩
      · rw [FragmentTable.lookup_blank, Option.isSome_map]
        exact known base fragment (List.mem_of_mem_filter inside)
      · have whole : FragmentTable.blank (table ++ [(name, Slot.allRules table slots)]) =
            table.blank ++ [(name, [])] := List.map_append
        rw [Slot.allRules_blank, ← whole]
        exact ih rest

namespace Compile

open Query
open Selection (placesAll inductionOnSelections)

variable {options : Options}

/-! ### Marked places -/

/-- Whether a directive is one of the two that are not sent. -/
def isOwn (options : Options) (directive : Directive) : Bool :=
  directive.name == options.directive || directive.name == options.deletion

/-- Whether a place is a selection that carries the deletion directive. On a definition
that directive has no meaning. -/
def isMarked (options : Options) (node : Node) : Bool :=
  node.isSelection && node.directives.any (·.name == options.deletion)

/-- Whether a place is marked for deletion or stands in a marked one. -/
def isRemoved (options : Options) (place : Place) : Bool :=
  place.path.any (isMarked options)

/-- A place without the two directives. -/
def bareNode (options : Options) (node : Node) : Node :=
  node.mapDirectives (·.filter (!isOwn options ·))

/-- A place without the two directives, among places without them. -/
def bare (options : Options) (place : Place) : Place :=
  ⟨place.around.map (bareNode options), bareNode options place.node⟩

theorem keptDirectives_eq (directives : List Directive) :
    keptDirectives options directives = directives.filter (!isOwn options ·) := by
  refine List.filter_congr fun directive _ => ?_
  rw [Bool.eq_iff_iff]
  simp [isOwn]

theorem isMarked_node (selection : Selection) :
    isMarked options selection.node = isDeleted options selection := by
  simp [isMarked, isDeleted]

/-- Whatever stands in a removed place is removed. -/
theorem isRemoved_of_around {around : List Node} (removed : around.any (isMarked options) = true)
    {selections : List Selection} {place : Place} (inside : place ∈ placesAll around selections) :
    isRemoved options place = true := by
  obtain ⟨rest, whole⟩ := Selection.around_of_mem_placesAll inside
  rw [isRemoved, Place.path, ← whole, List.any_append, List.any_append, removed, Bool.true_or,
    Bool.true_or]

theorem filter_placesAll_of_removed {around : List Node}
    (removed : around.any (isMarked options) = true) (selections : List Selection) :
    (placesAll around selections).filter (!isRemoved options ·) = [] := by
  refine List.filter_eq_nil_iff.2 fun place inside => ?_
  simp [isRemoved_of_around removed inside]

theorem isRemoved_mk (around : List Node) (node : Node) :
    isRemoved options ⟨around, node⟩ =
      (around.any (isMarked options) || isMarked options node) := by
  simp [isRemoved, Place.path]

/-! ### The places that are sent -/

theorem node_cleanSelection (selection : Selection) :
    (cleanSelection options selection).node = bareNode options selection.node := by
  cases selection <;>
    simp [cleanSelection, Selection.node, bareNode, Node.mapDirectives, keptDirectives_eq]

theorem selections_cleanSelection (selection : Selection) :
    (cleanSelection options selection).selections =
      cleanSelections options selection.selections := by
  cases selection <;> simp [cleanSelection, Selection.selections, cleanSelections]

theorem node_cleanDefinition (definition : Definition) :
    (cleanDefinition options definition).node = bareNode options definition.node := by
  cases definition with
  | operation header selections =>
      cases header <;>
        simp [cleanDefinition, Definition.node, bareNode, Node.mapDirectives, keptDirectives_eq]
  | fragment name condition directives selections =>
      simp [cleanDefinition, Definition.node, bareNode, Node.mapDirectives, keptDirectives_eq]

theorem selections_cleanDefinition (definition : Definition) :
    (cleanDefinition options definition).selections =
      cleanSelections options definition.selections := by
  cases definition with
  | operation header selections => cases header <;> rfl
  | fragment name condition directives selections => rfl

/-- Whatever is selected in a kept selection of a place that is sent is itself sent. -/
theorem any_isMarked_concat {around : List Node} (sent : around.any (isMarked options) = false)
    {selection : Selection} (kept : isDeleted options selection = false) :
    (around ++ [selection.node]).any (isMarked options) = false := by
  simp [isMarked_node, kept, sent]

/-- Of some selections in a place that is sent, the marked ones have no places that are not
removed. -/
theorem filter_placesAll_cons {around : List Node} (sent : around.any (isMarked options) = false)
    (selection : Selection) (rest : List Selection) :
    (placesAll around (selection :: rest)).filter (!isRemoved options ·) =
      if isDeleted options selection then (placesAll around rest).filter (!isRemoved options ·)
      else ⟨around, selection.node⟩ ::
        ((placesAll (around ++ [selection.node]) selection.selections).filter
            (!isRemoved options ·) ++
          (placesAll around rest).filter (!isRemoved options ·)) := by
  rw [Selection.placesAll_cons, List.filter_cons, isRemoved_mk, sent, isMarked_node,
    Bool.false_or, List.filter_append]
  cases marked : isDeleted options selection with
  | true =>
      have within : (around ++ [selection.node]).any (isMarked options) = true := by
        simp [isMarked_node, marked]
      simp [filter_placesAll_of_removed within]
  | false => simp

/-- Of the places in a place that is sent, those are sent that are not removed. -/
theorem placesAll_cleanSelections {around : List Node}
    (sent : around.any (isMarked options) = false) (selections : List Selection) :
    placesAll (around.map (bareNode options)) (cleanSelections options selections) =
      ((placesAll around selections).filter (!isRemoved options ·)).map (bare options) := by
  induction selections using inductionOnSelections generalizing around with
  | nil => rfl
  | cons selection rest ihInner ihRest =>
      rw [cleanSelections, filter_placesAll_cons sent]
      cases marked : isDeleted options selection with
      | true => exact ihRest sent
      | false =>
          have inner := ihInner (any_isMarked_concat sent marked)
          rw [List.map_append, List.map_singleton] at inner
          simp [Selection.placesAll_cons, node_cleanSelection, selections_cleanSelection, inner,
            ihRest sent, bare]

theorem any_isMarked_definition (definition : Definition) :
    [definition.node].any (isMarked options) = false := by
  cases definition <;> rfl

/-- A definition is never removed. -/
theorem filter_places_definition (definition : Definition) :
    definition.places.filter (!isRemoved options ·) =
      ⟨[], definition.node⟩ ::
        (placesAll [definition.node] definition.selections).filter (!isRemoved options ·) := by
  have outermost : isRemoved options ⟨[], definition.node⟩ = false :=
    any_isMarked_definition definition
  rw [Definition.places, List.filter_cons, outermost]
  rfl

theorem places_cleanDefinition (definition : Definition) :
    (cleanDefinition options definition).places =
      (definition.places.filter (!isRemoved options ·)).map (bare options) := by
  rw [filter_places_definition, Definition.places, node_cleanDefinition, selections_cleanDefinition]
  exact congrArg (_ :: ·)
    (placesAll_cleanSelections (any_isMarked_definition definition) definition.selections)

/-- The places that are sent are those that are not removed, without the two directives. -/
theorem places_cleanDocument (document : Document) :
    (cleanDocument options document).places =
      (document.places.filter (!isRemoved options ·)).map (bare options) := by
  simp only [Document.places, cleanDocument, List.flatMap_map, places_cleanDefinition,
    List.filter_flatMap, List.map_flatMap]

/-! ### Nothing is left -/

theorem keptDirectives_keptDirectives (directives : List Directive) :
    keptDirectives options (keptDirectives options directives) =
      keptDirectives options directives := by
  simp [keptDirectives]

theorem isDeleted_cleanSelection (selection : Selection) :
    isDeleted options (cleanSelection options selection) = false := by
  rw [← isMarked_node, node_cleanSelection, isMarked, Bool.and_eq_false_iff]
  right
  cases selection <;>
    simp [Selection.node, bareNode, Node.mapDirectives, Node.directives, isOwn]

theorem cleanSelections_cons_kept {selection : Selection} {rest : List Selection}
    (kept : isDeleted options selection = false) :
    cleanSelections options (selection :: rest) =
      cleanSelection options selection :: cleanSelections options rest := by
  rw [cleanSelections, kept]
  rfl

theorem cleanSelections_cleanSelections (selections : List Selection) :
    cleanSelections options (cleanSelections options selections) =
      cleanSelections options selections := by
  induction selections using inductionOnSelections with
  | nil => rfl
  | cons selection rest ihInner ihRest =>
      rw [cleanSelections]
      split
      · exact ihRest
      · rw [cleanSelections_cons_kept (isDeleted_cleanSelection selection), ihRest]
        cases selection <;>
          simp_all [cleanSelection, Selection.selections, keptDirectives_keptDirectives]

/-- A document that is sent has nothing in it that is not sent. -/
theorem cleanDocument_cleanDocument (document : Document) :
    cleanDocument options (cleanDocument options document) = cleanDocument options document := by
  have again (definition : Definition) :
      cleanDefinition options (cleanDefinition options definition) =
        cleanDefinition options definition := by
    rcases definition with ⟨_ | header, selections⟩ | ⟨name, condition, directives, selections⟩ <;>
      simp [cleanDefinition, cleanSelections_cleanSelections, keptDirectives_keptDirectives]
  simp [cleanDocument, again]

theorem captured_keptDirectives (keys : List String) (directives : List Directive) :
    captured options keys (keptDirectives options directives) = [] := by
  have none : (keptDirectives options directives).filter (·.name == options.directive) = [] := by
    refine List.filter_eq_nil_iff.2 fun directive inside => ?_
    simp [keptDirectives] at inside
    simp [inside.2.1]
  rw [captured, none]
  rfl

theorem captured_nil (keys : List String) : captured options keys [] = [] := rfl

theorem filter_captured (keys : List String) (directives : List Directive) :
    (captured options keys directives).filter Slot.isSpread = [] := by
  rw [captured]
  split <;> rfl

/-- Of the slots of some selections only the spreads are left in what is sent. -/
theorem slotsOfAll_cleanSelections (keys : List String) (selections : List Selection) :
    slotsOfAll options keys (cleanSelections options selections) =
      (slotsOfAll options keys selections).filter Slot.isSpread := by
  induction selections using inductionOnSelections generalizing keys with
  | nil => rfl
  | cons selection rest ihInner ihRest =>
      rw [cleanSelections, slotsOfAll]
      split
      · exact ihRest keys
      · rw [slotsOfAll, if_neg (by simp [isDeleted_cleanSelection]), ihRest, List.filter_append]
        refine congrArg (· ++ _) ?_
        cases selection <;>
          simp_all [cleanSelection, slotsOf, Selection.selections, captured_keptDirectives,
            filter_captured, List.filter_cons, Slot.isSpread]

theorem programSlots_cleanDefinition (definition : Definition) :
    programSlots options (cleanDefinition options definition) =
      (programSlots options definition).filter Slot.isSpread := by
  rcases definition with ⟨_ | header, selections⟩ | ⟨name, condition, directives, selections⟩ <;>
    simp [programSlots, cleanDefinition, slotsOfAll_cleanSelections, captured_keptDirectives,
      filter_captured, captured_nil]

theorem fragmentSlots_cleanDefinition (definition : Definition) :
    fragmentSlots options (cleanDefinition options definition) =
      (fragmentSlots options definition).map fun entry =>
        (entry.1, entry.2.filter Slot.isSpread) := by
  rcases definition with ⟨_ | header, selections⟩ | ⟨name, condition, directives, selections⟩ <;>
    simp [fragmentSlots, bodySlots, cleanDefinition, slotsOfAll_cleanSelections,
      captured_keptDirectives, filter_captured]

/-- What is sent compiles to itself, without rules. -/
theorem compileDocument_cleanDocument {document : Document} {compilation : Compilation}
    (compiles : compileDocument options document = .ok compilation) :
    compileDocument options (cleanDocument options document) =
      .ok ⟨cleanDocument options document, [], compilation.fragments.blank⟩ := by
  obtain ⟨distinct, filled, known, -⟩ := compileDocument_eq_ok.1 compiles
  have fragments : (cleanDocument options document).filterMap (fragmentSlots options) =
      (document.filterMap (fragmentSlots options)).map fun entry =>
        (entry.1, entry.2.filter Slot.isSpread) := by
    simp only [cleanDocument, List.filterMap_map, List.map_filterMap, Function.comp_def,
      fragmentSlots_cleanDefinition]
  have names : ((cleanDocument options document).filterMap (fragmentSlots options)).map Prod.fst =
      (document.filterMap (fragmentSlots options)).map Prod.fst := by
    rw [fragments, List.map_map]
    rfl
  have program : (cleanDocument options document).flatMap (programSlots options) =
      (document.flatMap (programSlots options)).filter Slot.isSpread := by
    simp only [cleanDocument, List.flatMap_map, List.filter_flatMap, programSlots_cleanDefinition]
  refine compileDocument_eq_ok.2 ⟨names ▸ distinct, ?_, ?_, ?_⟩
  · rw [names, fragments]
    exact Collection.fillFragments_blank filled
  · intro base fragment inside
    rw [program] at inside
    rw [FragmentTable.lookup_blank, Option.isSome_map]
    exact known base fragment (List.mem_of_mem_filter inside)
  · rw [program, Slot.allRules_blank, cleanDocument_cleanDocument, List.reverse_nil]

theorem document_eq_cleanDocument {document : Document} {compilation : Compilation}
    (compiles : compileDocument options document = .ok compilation) :
    compilation.document = cleanDocument options document := by
  obtain ⟨-, -, -, same⟩ := compileDocument_eq_ok.1 compiles
  rw [same]

/-- The document that is sent is the one that has, in their order and without the two
directives, exactly the places that are neither marked for deletion nor stand in a marked
place. Compiled once more it gives itself, no rules, and the same fragments with empty
bodies. -/
theorem compileDocument_clean {document : Document} {compilation : Compilation}
    (compiles : compileDocument options document = .ok compilation) :
    (∀ cleaned : Document, cleaned = compilation.document ↔
      cleaned.places = (document.places.filter (!isRemoved options ·)).map (bare options)) ∧
    compileDocument options compilation.document =
      .ok ⟨compilation.document, [], compilation.fragments.blank⟩ := by
  rw [document_eq_cleanDocument compiles]
  refine ⟨fun cleaned => ⟨?_, fun same => ?_⟩, compileDocument_cleanDocument compiles⟩
  · rintro rfl
    exact places_cleanDocument document
  · exact Document.ext_places (same.trans (places_cleanDocument document).symm)

/-- A marked field goes away with the spread in it, and the deletion directive of an
operation alone. -/
theorem compileDocument_clean_nested :
    let drop : Directive := ⟨"_shape", []⟩
    let shape : Directive := ⟨"shape", [("path", .string "x")]⟩
    let live : Directive := ⟨"live", [("if", .bool true)]⟩
    let document : Document :=
      [.operation (some ⟨.query, some "Q", [], [drop, live]⟩)
        [.field none "a" [] [live, shape, shape]
          [.field none "b" [] [drop] [.spread "missing" []], .spread "f" [shape]]],
        .fragment "f" "T" [shape]
          [.inline none [shape, drop] [.field none "c" [] [] []], .field none "d" [] [] []]]
    let cleaned : Document :=
      [.operation (some ⟨.query, some "Q", [], [live]⟩)
        [.field none "a" [] [live] [.spread "f" []]],
        .fragment "f" "T" [] [.field none "d" [] [] []]]
    cleaned.places = (document.places.filter (!isRemoved .standard ·)).map (bare .standard) ∧
      compileDocument .standard cleaned = .ok ⟨cleaned, [], [("f", [])]⟩ := by
  intro drop shape live document cleaned
  obtain ⟨compilation, compiles, sent, blank⟩ : ∃ compilation,
      compileDocument .standard document = .ok compilation ∧
        compilation.document = cleaned ∧ compilation.fragments.blank = [("f", [])] :=
    ⟨_, rfl, rfl, rfl⟩
  obtain ⟨places, again⟩ := compileDocument_clean compiles
  rw [sent] at again
  exact ⟨(places cleaned).1 sent.symm, blank ▸ again⟩

end Compile

end Reshape
