/-
Module: Reshape.Compile.Cleaning
Purpose: the directives that belong to the response, and a query document without
  them.
Main exports: Compile.Options, Compile.cleanDocument
Trusted boundary: none
-/
import Reshape.Query.Basic

/-!
# Cleaning

Two directives never reach the server. The transform directive describes what to do
with the response. The deletion directive, whose name is that of the transform
directive behind a prefix, marks selections that are not sent at all.
-/

namespace Reshape.Compile

open Query

/-- How the two directives are named. -/
structure Options where
  /-- The transform directive, without its `@`. -/
  directive : String
  /-- What the deletion directive has in front of that name. -/
  deletePrefix : String
  deriving DecidableEq, Repr

namespace Options

/-- The names that hold unless others are given. -/
def standard : Options := ⟨"shape", "_"⟩

/-- The name of the deletion directive. -/
def deletion (options : Options) : String :=
  options.deletePrefix ++ options.directive

end Options

/-- The directives that are sent to the server. -/
def keptDirectives (options : Options) (directives : List Directive) : List Directive :=
  directives.filter fun d => d.name ≠ options.directive ∧ d.name ≠ options.deletion

/-- Whether a selection is marked for deletion. -/
def isDeleted (options : Options) (selection : Selection) : Bool :=
  selection.directives.any (·.name == options.deletion)

mutual

/-- A selection without the two directives, with what it selects cleaned. -/
def cleanSelection (options : Options) : Selection → Selection
  | .field alias? name arguments directives selections =>
      .field alias? name arguments (keptDirectives options directives)
        (cleanSelections options selections)
  | .spread fragment directives => .spread fragment (keptDirectives options directives)
  | .inline condition directives selections =>
      .inline condition (keptDirectives options directives) (cleanSelections options selections)

/-- The selections that are not marked for deletion, cleaned. -/
def cleanSelections (options : Options) : List Selection → List Selection
  | [] => []
  | selection :: rest =>
      if isDeleted options selection then cleanSelections options rest
      else cleanSelection options selection :: cleanSelections options rest

end

/-- A definition, cleaned. -/
def cleanDefinition (options : Options) : Definition → Definition
  | .operation none selections => .operation none (cleanSelections options selections)
  | .operation (some header) selections =>
      .operation (some { header with directives := keptDirectives options header.directives })
        (cleanSelections options selections)
  | .fragment name condition directives selections =>
      .fragment name condition (keptDirectives options directives)
        (cleanSelections options selections)

/-- A document, cleaned. -/
def cleanDocument (options : Options) (document : Document) : Document :=
  document.map (cleanDefinition options)

end Reshape.Compile
