/-
Module: Reshape.Proofs.Compile.Captured
Purpose: which places of a document give rules, and which rules they give.
Main exports: Compile.isShaped, Compile.ruleAt, Compile.definitionSlots_eq_flatMap,
  Compile.reverse_program_eq_map
Trusted boundary: none
-/
import Reshape.Proofs.Compile.Cleaned

/-!
# The places that give rules

Collecting goes through the places of a document that are not removed, in their order.
Each gives a rule if it carries the transform directive, however often, and leaves a slot
open if it is a spread. The keys of the fields around a place are all that its address is
made of.
-/

namespace Reshape.Compile

open Query
open Slot (allRules)
open Selection (placesAll inductionOnSelections)

variable {options : Options}

/-- Whether a place carries the transform directive. -/
def isShaped (options : Options) (node : Node) : Bool :=
  node.directives.any (·.name == options.directive)

/-- The rule of a place: its address has the keys of the fields around it and its own, and
its chain has an operation for each argument of each of its transform directives. -/
def ruleAt (options : Options) (place : Place) : Rule :=
  ⟨⟨".".intercalate place.keys⟩,
    (place.node.directives.filter (·.name == options.directive)).flatMap fun directive =>
      directive.arguments.map fun argument => .ofArgument argument.1 (literal argument.2)⟩

/-- The slots of a place: its rule, and the rules of the fragment that it spreads. -/
def slotsAt (options : Options) (place : Place) : List Slot :=
  captured options place.keys place.node.directives ++
    (place.node.spread?.map (Slot.spread (.ofKeys place.keys))).toList

theorem captured_eq (place : Place) :
    captured options place.keys place.node.directives =
      if isShaped options place.node then [.rule (ruleAt options place)] else [] := by
  have none : (place.node.directives.filter (·.name == options.directive)).isEmpty =
      !isShaped options place.node := by
    rw [isShaped, Bool.eq_iff_iff]
    simp
  rw [captured, none]
  cases isShaped options place.node <;> rfl

/-! ### The places that are collected -/

/-- A selection gives the slots of its place, and those of what is selected in it. -/
theorem slotsOf_eq (around : List Node) (selection : Selection) :
    slotsOf options (Node.keys around) selection =
      slotsAt options ⟨around, selection.node⟩ ++
        slotsOfAll options (Node.keys (around ++ [selection.node]))
          selection.selections := by
  rw [slotsAt, Place.keys, Place.path, Node.keys_concat]
  cases selection <;>
    simp [slotsOf, Selection.node, Selection.selections, Node.key?, Node.spread?,
      Node.directives, slotsOfAll]

/-- Collecting goes through the places that are not removed. -/
theorem slotsOfAll_eq_flatMap {around : List Node} (sent : around.any (isMarked options) = false)
    (selections : List Selection) :
    slotsOfAll options (Node.keys around) selections =
      ((placesAll around selections).filter (!isRemoved options ·)).flatMap (slotsAt options) := by
  induction selections using inductionOnSelections generalizing around with
  | nil => rfl
  | cons selection rest ihInner ihRest =>
      rw [slotsOfAll, filter_placesAll_cons sent]
      cases marked : isDeleted options selection with
      | true => exact ihRest sent
      | false => simp [slotsOf_eq, ihInner (any_isMarked_concat sent marked), ihRest sent]

/-- The slots of a definition are those of its places that are not removed. -/
theorem definitionSlots_eq_flatMap (definition : Definition) :
    captured options [] definition.node.directives ++
        slotsOfAll options [] definition.selections =
      (definition.places.filter (!isRemoved options ·)).flatMap (slotsAt options) := by
  have outermost : [definition.node].any (isMarked options) = false :=
    any_isMarked_definition definition
  have inner := slotsOfAll_eq_flatMap outermost definition.selections
  have unkeyed : Node.keys [definition.node] = [] := by
    cases definition <;> rfl
  have here : slotsAt options ⟨[], definition.node⟩ =
      captured options [] definition.node.directives := by
    cases definition <;> exact List.append_nil _
  rw [unkeyed] at inner
  rw [filter_places_definition, List.flatMap_cons, ← inner, here]

/-- The slots of an operation are those of its places that are not removed. -/
theorem programSlots_eq_flatMap {definition : Definition}
    (isOperation : definition.isOperation = true) :
    programSlots options definition =
      (definition.places.filter (!isRemoved options ·)).flatMap (slotsAt options) := by
  rw [← definitionSlots_eq_flatMap]
  cases definition with
  | fragment name condition directives selections => cases isOperation
  | operation header selections => rfl

/-- The slots of a program are those of the places of the operations that are not removed. -/
theorem flatMap_programSlots (document : Document) :
    document.flatMap (programSlots options) =
      (document.operations.places.filter (!isRemoved options ·)).flatMap (slotsAt options) := by
  induction document with
  | nil => rfl
  | cons definition document ih =>
      rw [List.flatMap_cons, ih, Document.operations_cons]
      cases isOperation : definition.isOperation with
      | false =>
          cases definition with
          | operation header selections => cases isOperation
          | fragment name condition directives selections => rfl
      | true =>
          have whole : Document.places (definition :: Document.operations document) =
              definition.places ++ (Document.operations document).places := rfl
          rw [if_pos rfl, whole, List.filter_append, List.flatMap_append,
            programSlots_eq_flatMap isOperation]

/-! ### The rules of places -/

/-- A place that spreads nothing gives its own rule at most. -/
theorem allRules_slotsAt (table : FragmentTable) {place : Place}
    (plain : place.node.spread? = none) :
    allRules table (slotsAt options place) =
      if isShaped options place.node then [ruleAt options place] else [] := by
  rw [slotsAt, plain, Option.map_none, Option.toList_none, List.append_nil, captured_eq]
  split <;> rfl

theorem flatMap_if {α β : Type} (test : α → Bool) (f : α → β) (xs : List α) :
    (xs.flatMap fun x => if test x then [f x] else []) = (xs.filter test).map f := by
  induction xs with
  | nil => rfl
  | cons x xs ih =>
      rw [List.flatMap_cons, ih, List.filter_cons]
      cases test x <;> rfl

/-- When no spread is left in its operations, the program of a document, read backwards,
has one rule for each place of an operation that carries the transform directive and is
not removed, in the order of the places. -/
theorem reverse_program_eq_map {document : Document} {compilation : Compilation}
    (compiles : compileDocument options document = .ok compilation)
    (plain : ∀ place ∈ document.operations.places, isRemoved options place = false →
      place.node.spread? = none) :
    compilation.program.reverse =
      (document.operations.places.filter fun place =>
        !isRemoved options place && isShaped options place.node).map (ruleAt options) := by
  obtain ⟨-, -, -, same⟩ := compileDocument_eq_ok.1 compiles
  have program : compilation.program.reverse =
      allRules compilation.fragments (document.flatMap (programSlots options)) := by
    conv_lhs => rw [same]
    exact List.reverse_reverse _
  rw [program, flatMap_programSlots, allRules, List.flatMap_assoc]
  have each : ∀ place ∈ document.operations.places.filter (!isRemoved options ·),
      (slotsAt options place).flatMap (Slot.rules compilation.fragments) =
        if isShaped options place.node then [ruleAt options place] else [] := by
    intro place inside
    obtain ⟨listed, sent⟩ := List.mem_filter.1 inside
    exact allRules_slotsAt _ (plain place listed (by simpa using sent))
  rw [List.flatMap_congr each, flatMap_if, List.filter_filter]
  simp only [Bool.and_comm]

/-- A field that is asked for twice, a marked one, and a directive of the operation. -/
theorem reverse_program_eq_map_twice :
    let shape (path : String) : Directive := ⟨"shape", [("path", .string path)]⟩
    let document : Document :=
      [.operation (some ⟨.query, none, [], [shape "q"]⟩)
        [.field (some "x") "a" [] [shape "1", ⟨"live", []⟩, shape "2"]
          [.inline none [⟨"shape", []⟩] [.field none "b" [] [shape "3"] []]],
          .field none "c" [] [⟨"_shape", []⟩, shape "4"]
            [.spread "f" [], .field none "d" [] [shape "5"] []]],
        .operation none [.field none "c" [] [shape "6"] []]]
    let rule (address : String) (paths : List String) : Rule :=
      ⟨⟨address⟩, paths.map (.navigate .current ·)⟩
    ∃ compilation, compileDocument .standard document = .ok compilation ∧
      compilation.program.reverse =
        [rule "" ["q"], rule "x" ["1", "2"], rule "x" [], rule "x.b" ["3"], rule "c" ["6"]] := by
  intro shape document rule
  have compiles : compileDocument .standard document = .ok ⟨_, _, []⟩ := rfl
  have plain : ∀ place ∈ (Document.operations document).places,
      isRemoved .standard place = false → place.node.spread? = none := by
    decide
  exact ⟨_, compiles, (reverse_program_eq_map compiles plain).trans rfl⟩

end Reshape.Compile
