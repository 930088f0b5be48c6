/-
Module: Reshape.Proofs.Query.Places
Purpose: the places of a document in the order of the text, each with the places around
  it.
Main exports: Query.Node, Query.Place, Query.Document.places, Query.Document.ext_places
Trusted boundary: none
-/
import Mathlib.Data.List.Basic
import Reshape.Query.Basic

/-!
# Places

The places of a document are its operations and fragments and the fields, spreads and
inline fragments in them. They are listed from the outside in, which is the order of the
text, and each one comes with the places around it. What stands in a place is listed
behind it and further in, so the list says everything about its document.
-/

namespace Reshape.Query

/-- A place of a document, without what is selected in it. -/
inductive Node where
  | operation (header : Option Header)
  | fragment (name condition : String) (directives : List Directive)
  | field (alias? : Option String) (name : String) (arguments : Arguments)
      (directives : List Directive)
  | spread (fragment : String) (directives : List Directive)
  | inline (condition : Option String) (directives : List Directive)

namespace Node

/-- The annotations of a place. -/
def directives : Node → List Directive
  | operation header => (header.map Header.directives).getD []
  | fragment _ _ directives => directives
  | field _ _ _ directives => directives
  | spread _ directives => directives
  | inline _ directives => directives

/-- The place with its annotations changed. An operation without a header has none. -/
def mapDirectives (change : List Directive → List Directive) : Node → Node
  | operation header =>
      operation (header.map fun h => { h with directives := change h.directives })
  | fragment name condition directives => fragment name condition (change directives)
  | field alias? name arguments directives => field alias? name arguments (change directives)
  | spread name directives => spread name (change directives)
  | inline condition directives => inline condition (change directives)

/-- The response key that a place adds to those around it; only a field has one. -/
def key? : Node → Option String
  | field alias? name _ _ => some (Selection.responseKey alias? name)
  | operation _ | fragment _ _ _ | spread _ _ | inline _ _ => none

/-- The fragment that a place spreads. -/
def spread? : Node → Option String
  | spread name _ => some name
  | operation _ | fragment _ _ _ | field _ _ _ _ | inline _ _ => none

/-- The response keys of the fields among some places. -/
def keys (path : List Node) : List String :=
  path.filterMap key?

theorem keys_concat (path : List Node) (node : Node) :
    keys (path ++ [node]) = keys path ++ node.key?.toList := by
  rw [keys, List.filterMap_append]
  cases found : node.key? <;> simp [keys, found]

/-- Whether a place is a selection, and no definition. -/
def isSelection : Node → Bool
  | field _ _ _ _ | spread _ _ | inline _ _ => true
  | operation _ | fragment _ _ _ => false

end Node

/-- A place, and the places around it from the outside in. -/
structure Place where
  around : List Node
  node : Node

namespace Place

/-- The places around a place, and the place itself. -/
def path (place : Place) : List Node :=
  place.around ++ [place.node]

/-- The response keys of the fields around a place, and of the place itself if it is one. -/
def keys (place : Place) : List String :=
  Node.keys place.path

end Place

namespace Selection

/-- A selection as a place. -/
def node : Selection → Node
  | field alias? name arguments directives _ => .field alias? name arguments directives
  | spread fragment directives => .spread fragment directives
  | inline condition directives _ => .inline condition directives

/-- What is selected in a selection. -/
def selections : Selection → List Selection
  | field _ _ _ _ selections => selections
  | spread _ _ => []
  | inline _ _ selections => selections

@[simp] theorem isSelection_node (selection : Selection) : selection.node.isSelection = true := by
  cases selection <;> rfl

@[simp] theorem directives_node (selection : Selection) :
    selection.node.directives = selection.directives := by
  cases selection <;> rfl

/-- A selection is its place and what is selected in it. -/
theorem ext_node {selection other : Selection} (sameNode : selection.node = other.node)
    (sameSelections : selection.selections = other.selections) : selection = other := by
  cases selection <;> cases other <;> simp_all [node, selections]

theorem sizeOf_selections_lt (selection : Selection) (rest : List Selection) :
    sizeOf selection.selections < sizeOf (selection :: rest) := by
  cases selection <;> simp [selections] <;> omega

/-- To prove something of all lists of selections, prove it of a list when it holds of what
is selected in the first one and of the others. -/
@[elab_as_elim]
theorem inductionOnSelections {motive : List Selection → Prop} (selections : List Selection)
    (nil : motive [])
    (cons : ∀ selection rest, motive selection.selections → motive rest →
      motive (selection :: rest)) : motive selections := by
  match selections with
  | [] => exact nil
  | selection :: rest =>
      have := sizeOf_selections_lt selection rest
      exact cons selection rest (inductionOnSelections selection.selections nil cons)
        (inductionOnSelections rest nil cons)
termination_by sizeOf selections

mutual

/-- The places of a selection that has the given places around it. -/
def places (around : List Node) : Selection → List Place
  | .field alias? name arguments directives selections =>
      let own := Node.field alias? name arguments directives
      ⟨around, own⟩ :: placesAll (around ++ [own]) selections
  | .spread fragment directives => [⟨around, .spread fragment directives⟩]
  | .inline condition directives selections =>
      let own := Node.inline condition directives
      ⟨around, own⟩ :: placesAll (around ++ [own]) selections

def placesAll (around : List Node) : List Selection → List Place
  | [] => []
  | selection :: rest => places around selection ++ placesAll around rest

end

theorem places_eq (around : List Node) (selection : Selection) :
    selection.places around =
      ⟨around, selection.node⟩ :: placesAll (around ++ [selection.node]) selection.selections := by
  cases selection with
  | field alias? name arguments directives selections => rfl
  | spread fragment directives => rw [places, node, selections, placesAll]
  | inline condition directives selections => rfl

theorem placesAll_cons (around : List Node) (selection : Selection) (rest : List Selection) :
    placesAll around (selection :: rest) =
      ⟨around, selection.node⟩ ::
        (placesAll (around ++ [selection.node]) selection.selections ++ placesAll around rest) := by
  rw [placesAll, places_eq, List.cons_append]

/-- Whatever is selected somewhere has the places there around it. -/
theorem around_of_mem_placesAll {around : List Node} {selections : List Selection} {place : Place}
    (inside : place ∈ placesAll around selections) : around <+: place.around := by
  induction selections using inductionOnSelections generalizing around with
  | nil => cases inside
  | cons selection rest ihInner ihRest =>
      rw [placesAll_cons, List.mem_cons, List.mem_append] at inside
      rcases inside with rfl | inside | inside
      · exact List.prefix_refl around
      · exact (List.prefix_append around _).trans (ihInner inside)
      · exact ihRest inside

end Selection

namespace Definition

/-- A definition as a place. -/
def node : Definition → Node
  | operation header _ => .operation header
  | fragment name condition directives _ => .fragment name condition directives

/-- What is selected in a definition. -/
def selections : Definition → List Selection
  | operation _ selections => selections
  | fragment _ _ _ selections => selections

/-- Whether a definition is an operation, and no fragment. -/
def isOperation : Definition → Bool
  | operation _ _ => true
  | fragment _ _ _ _ => false

/-- A definition is its place and what is selected in it. -/
theorem ext_node {definition other : Definition} (sameNode : definition.node = other.node)
    (sameSelections : definition.selections = other.selections) : definition = other := by
  cases definition <;> cases other <;> simp_all [node, selections]

/-- The places of a definition. -/
def places (definition : Definition) : List Place :=
  ⟨[], definition.node⟩ :: Selection.placesAll [definition.node] definition.selections

end Definition

namespace Document

/-- The places of a document. -/
def places (document : Document) : List Place :=
  document.flatMap Definition.places

theorem places_cons (definition : Definition) (rest : Document) :
    places (definition :: rest) =
      ⟨[], definition.node⟩ ::
        (Selection.placesAll [definition.node] definition.selections ++ places rest) := rfl

/-- The operations of a document. -/
def operations (document : Document) : Document :=
  document.filter Definition.isOperation

theorem operations_cons (definition : Definition) (rest : Document) :
    operations (definition :: rest) =
      if definition.isOperation then definition :: operations rest else operations rest :=
  List.filter_cons

end Document

/-! ### A document from its places -/

/-- Places further in than a given depth end where a list of places at that depth begins. -/
theorem split_places {inner otherInner later otherLater : List Place} (depth : Nat)
    (deep : ∀ place ∈ inner, depth < place.around.length)
    (otherDeep : ∀ place ∈ otherInner, depth < place.around.length)
    (ends : ∀ place ∈ later.head?, place.around.length = depth)
    (otherEnds : ∀ place ∈ otherLater.head?, place.around.length = depth)
    (same : inner ++ later = otherInner ++ otherLater) :
    inner = otherInner ∧ later = otherLater := by
  induction inner generalizing otherInner with
  | nil =>
      cases otherInner with
      | nil => exact ⟨rfl, same⟩
      | cons place otherInner =>
          rw [List.nil_append] at same
          have shallow := ends place (by simp [same])
          have deeper := otherDeep place (by simp)
          omega
  | cons place inner ih =>
      cases otherInner with
      | nil =>
          rw [List.nil_append] at same
          have shallow := otherEnds place (by simp [← same])
          have deeper := deep place (by simp)
          omega
      | cons other otherInner =>
          obtain ⟨rfl, rest⟩ := List.cons_eq_cons.1 same
          obtain ⟨rfl, rfl⟩ := ih (fun place inside => deep place (by simp [inside]))
            (fun place inside => otherDeep place (by simp [inside])) rest
          exact ⟨rfl, rfl⟩

namespace Selection

theorem length_around_of_mem {around : List Node} {node : Node} {selections : List Selection}
    {place : Place} (inside : place ∈ placesAll (around ++ [node]) selections) :
    around.length < place.around.length := by
  have within := (around_of_mem_placesAll inside).length_le
  rw [List.length_append, List.length_singleton] at within
  omega

theorem around_of_head? {around : List Node} {selections : List Selection} {place : Place}
    (first : place ∈ (placesAll around selections).head?) : place.around = around := by
  cases selections with
  | nil => cases first
  | cons selection rest =>
      rw [placesAll_cons] at first
      cases first
      rfl

/-- Selections are determined by their places. -/
theorem ext_placesAll {around : List Node} {selections others : List Selection}
    (same : placesAll around selections = placesAll around others) : selections = others := by
  induction selections using inductionOnSelections generalizing around others with
  | nil =>
      cases others with
      | nil => rfl
      | cons other others =>
          rw [placesAll_cons] at same
          cases same
  | cons selection rest ihInner ihRest =>
      cases others with
      | nil =>
          rw [placesAll_cons] at same
          cases same
      | cons other others =>
          rw [placesAll_cons, placesAll_cons] at same
          obtain ⟨first, same⟩ := List.cons_eq_cons.1 same
          have sameNode : selection.node = other.node := congrArg Place.node first
          rw [sameNode] at same
          obtain ⟨inner, later⟩ := split_places around.length
            (fun _ inside => length_around_of_mem inside)
            (fun _ inside => length_around_of_mem inside)
            (fun _ first => congrArg List.length (around_of_head? first))
            (fun _ first => congrArg List.length (around_of_head? first)) same
          rw [ext_node sameNode (ihInner inner), ihRest later]

end Selection

/-- A document is determined by its places. -/
theorem Document.ext_places {document other : Document}
    (same : document.places = Document.places other) : document = other := by
  have ends (rest : Document) (place : Place) (first : place ∈ rest.places.head?) :
      place.around.length = 0 := by
    cases rest with
    | nil => cases first
    | cons definition rest =>
        rw [places_cons] at first
        cases first
        rfl
  have deep {node : Node} (selections : List Selection) :
      ∀ place ∈ Selection.placesAll [node] selections, 0 < place.around.length := by
    intro place inside
    exact @Selection.length_around_of_mem [] node selections place inside
  induction document generalizing other with
  | nil =>
      cases other with
      | nil => rfl
      | cons definition rest =>
          rw [places_cons] at same
          cases same
  | cons definition document ih =>
      cases other with
      | nil =>
          rw [places_cons] at same
          cases same
      | cons first rest =>
          rw [places_cons, places_cons] at same
          obtain ⟨sameFirst, same⟩ := List.cons_eq_cons.1 same
          have sameNode : definition.node = first.node := congrArg Place.node sameFirst
          rw [sameNode] at same
          obtain ⟨inner, later⟩ := split_places 0 (deep definition.selections)
            (deep first.selections) (ends document) (ends rest) same
          rw [Definition.ext_node sameNode (Selection.ext_placesAll inner), ih later]

end Reshape.Query
