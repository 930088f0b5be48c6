/-
Module: Reshape.Compile.Capture
Purpose: from transform directives to rules.
Main exports: Compile.literal, Compile.captured, Compile.slotsOf, Compile.collect
Trusted boundary: none
-/
import Reshape.Compile.Cleaning
import Reshape.Compile.Collection

/-!
# Capturing rules

The transform directives of a place in the query become one rule, addressed by the
response keys of the fields around the place and the field itself. Rules are
collected from the outside in, which is the order of the text.
-/

namespace Reshape.Compile

open Query

/-! ## Literals -/

mutual

/-- The JSON form of a directive argument. A variable has no value yet and counts as
null, as does a double that is not finite. -/
def literal : Value → Json
  | .variable _ => .null
  | .integer i => .ofInt i
  | .double x => if Binary.isFinite x then .number (.double x) else .null
  | .string s => .string s
  | .bool b => .bool b
  | .null => .null
  | .enumeration name => .string name
  | .list items => .array (literalItems items)
  | .object fields => .object (literalFields fields)

def literalItems : List Value → List Json
  | [] => []
  | item :: rest => literal item :: literalItems rest

def literalFields : List (String × Value) → List (String × Json)
  | [] => []
  | (name, value) :: rest => (name, literal value) :: literalFields rest

end

/-- The operation that a directive argument denotes. -/
def operationOf (argument : String × Value) : Operation :=
  .ofArgument argument.1 (literal argument.2)

/-! ## Slots -/

/-- The rule of a place with the given keys around it, if the place carries a
transform directive. -/
def captured (options : Options) (keys : List String) (directives : List Directive) : List Slot :=
  let own := directives.filter (·.name == options.directive)
  if own.isEmpty then []
  else [.rule ⟨.ofKeys keys, own.flatMap fun d => d.arguments.map operationOf⟩]

mutual

/-- The slots of a selection below the given keys. -/
def slotsOf (options : Options) (keys : List String) : Selection → List Slot
  | .field alias? name _ directives selections =>
      let own := keys ++ [Selection.responseKey alias? name]
      captured options own directives ++ slotsOfAll options own selections
  | .spread fragment directives =>
      captured options keys directives ++ [.spread (.ofKeys keys) fragment]
  | .inline _ directives selections =>
      captured options keys directives ++ slotsOfAll options keys selections

/-- The slots of the selections that are not marked for deletion. -/
def slotsOfAll (options : Options) (keys : List String) : List Selection → List Slot
  | [] => []
  | selection :: rest =>
      if isDeleted options selection then slotsOfAll options keys rest
      else slotsOf options keys selection ++ slotsOfAll options keys rest

end

/-- Collect the slots of a definition. -/
def collectDefinition (options : Options) (collection : Collection) :
    Definition → Except CompileError Collection
  | .operation header selections =>
      .ok (collection.add .program
        (captured options [] ((header.map Header.directives).getD []) ++
          slotsOfAll options [] selections))
  | .fragment name _ directives selections =>
      (collection.declare name).map fun declared =>
        declared.add (.fragment name)
          (captured options [] directives ++ slotsOfAll options [] selections)

/-- Collect the slots of a document. -/
def collect (options : Options) (document : Document) : Except CompileError Collection :=
  document.foldlM (collectDefinition options) .empty

end Reshape.Compile
