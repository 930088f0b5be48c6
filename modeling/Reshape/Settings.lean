/-
Module: Reshape.Settings
Purpose: how the two directives are named, from a settings file and from overrides.
Main exports: Settings.read, Settings.Error, Settings.override
Trusted boundary: none
-/
import Reshape.Compile.Cleaning
import Reshape.Text.Blank
import Reshape.Yaml.Document

/-!
# Settings

A settings file is YAML with the fields `directive` and `delete_prefix`, whose values are
taken as they are written. A field that is absent has its standard value, and other fields
are passed over. A later source overrides the directive only with a name that is not
empty.
-/

namespace Reshape.Settings

open Compile (Options)

/-- Why settings are refused. -/
inductive Error where
  /-- The text is no YAML, or has not the form of settings. -/
  | malformed
  /-- The directive has no name. -/
  | emptyDirective
  /-- The name of the directive starts with the sign that only queries write. -/
  | markedDirective (name : String)
  deriving DecidableEq, Repr

def Error.message : Error → String
  | .malformed => "Failed to parse YAML"
  | .emptyDirective => "Config field 'directive' must not be empty"
  | .markedDirective name => "Config field 'directive' must not include '@': " ++ name

/-- Whether a name starts with the sign of directives. -/
def isMarked (name : String) : Bool :=
  name.startsWith "@"

/-- The entries of stored settings; nothing written at all counts as none. -/
def entries? : Stored → Option (List (Stored × Stored))
  | .map entries => if entries.all (·.1.text?.isSome) then some entries else none
  | .leaf (some "") .null => some []
  | .tagged inner => entries? inner
  | _ => none

/-- The text of a field that may be absent. -/
def textField? (name absent : String) (entries : List (Stored × Stored)) : Option String :=
  match Stored.field (·.text? == some name) entries with
  | .missing => some absent
  | .once value => value.text?
  | .repeated => none

/-- The options that stored settings write. -/
def ofStored? (stored : Stored) : Option Options := do
  let entries ← entries? stored
  let directive ← textField? "directive" Options.standard.directive entries
  let deletePrefix ← textField? "delete_prefix" Options.standard.deletePrefix entries
  some ⟨directive, deletePrefix⟩

/-- Options whose directive can be written in a query. -/
def validate (options : Options) : Except Error Options :=
  if options.directive.isEmpty then .error .emptyDirective
  else if isMarked options.directive then .error (.markedDirective options.directive)
  else .ok options

/-- The options in the text of a settings file. Blank text leaves all of them standard. -/
def read (text : String) : Except Error Options :=
  if text.toList.all Text.isBlank then .ok .standard
  else
    match (Stored.ofYaml? text).bind ofStored? with
    | some options => validate options
    | none => .error .malformed

/-- Options with another directive, when one is named. -/
def override (directive : Option String) (options : Options) : Options :=
  match directive with
  | some name => if name.isEmpty then options else { options with directive := name }
  | none => options

end Reshape.Settings
