/-
Module: Reshape.CommandLine.Arguments
Purpose: what the arguments of the command line ask for.
Main exports: CommandLine.Command, CommandLine.Request, CommandLine.Request.ofArguments?
Trusted boundary: stands for the reader of arguments that the program is given, on the options that
  the program declares
-/
import Reshape.Stored.Basic

/-!
# Arguments

A command comes first, then its options. Each has a value: the next argument, unless it
looks like an option itself, or the rest of the same argument, behind an equal sign or
directly behind a letter. An option is given at most once.
-/

namespace Reshape.CommandLine

/-- What the command line can do. -/
inductive Command where
  /-- Compile a query. -/
  | compile (query : String) (settings directive : Option String) (format : Stored.Format)
  /-- Run a stored program on a document. -/
  | apply (program data : String) (format : Stored.Format)
  /-- Compile a query and run its program on a document. -/
  | run (query data : String) (settings directive : Option String)
  deriving DecidableEq, Repr

/-- What a user can ask about. -/
inductive Topic where
  | all
  | compile
  | apply
  | run
  deriving DecidableEq, Repr

/-- What the arguments ask for. -/
inductive Request where
  | command (command : Command)
  | help (topic : Topic)
  | version
  deriving DecidableEq, Repr

/-! ## Options -/

/-- What an option may be set to. -/
inductive ValueKind where
  /-- A path, which is not empty. -/
  | path
  | text
  | format
  deriving DecidableEq, Repr

/-- An option of a command. -/
structure Parameter where
  name : String
  letter : Option Char
  kind : ValueKind
  deriving DecidableEq, Repr

namespace Parameter

def query : Parameter := ⟨"query", some 'q', .path⟩

def data : Parameter := ⟨"data", none, .path⟩

def program : Parameter := ⟨"program", some 'p', .path⟩

def settings : Parameter := ⟨"config", some 'c', .path⟩

def directive : Parameter := ⟨"directive", some 'd', .text⟩

def format : Parameter := ⟨"format", some 'f', .format⟩

end Parameter

/-- The format that a word names. -/
def formatOfWord? (word : String) : Option Stored.Format :=
  if word = "json" then some .json else if word = "yaml" then some .yaml else none

/-- Whether a value suits an option. -/
def ValueKind.accepts (value : String) : ValueKind → Bool
  | .path => !value.isEmpty
  | .text => true
  | .format => (formatOfWord? value).isSome

/-- The values of options, by name. -/
abbrev Values := List (String × String)

namespace Values

/-- Set an option that has not been set. -/
def set? (parameter : Parameter) (value : String) (values : Values) : Option Values :=
  if parameter.kind.accepts value && (values.lookup parameter.name).isNone then
    some ((parameter.name, value) :: values)
  else none

/-- The format that is asked for, JSON when none is. -/
def format (values : Values) : Stored.Format :=
  ((values.lookup Parameter.format.name).bind formatOfWord?).getD .json

end Values

/-- One argument, as the options of a command see it. -/
inductive Word where
  | help
  /-- An option with its value. -/
  | set (parameter : Parameter) (value : String)
  /-- An option whose value is the next argument. -/
  | expect (parameter : Parameter)
  /-- The end of the options. -/
  | done
  deriving DecidableEq, Repr

/-- Whether an argument looks like an option; a single hyphen does not. -/
def looksLikeOption (argument : String) : Bool :=
  argument.startsWith "-" && argument != "-"

/-- The argument behind two hyphens. -/
def longWord? (parameters : List Parameter) (text : List Char) : Option Word :=
  if text = "help".toList then some .help
  else
    let name := String.ofList (text.takeWhile (· != '='))
    match parameters.find? (·.name == name), text.dropWhile (· != '=') with
    | some parameter, _ :: value => some (.set parameter (String.ofList value))
    | some parameter, [] => some (.expect parameter)
    | none, _ => none

/-- The argument behind one hyphen. -/
def shortWord? (parameters : List Parameter) (letter : Char) (text : List Char) : Option Word :=
  if letter = 'h' then some .help
  else
    match parameters.find? (·.letter == some letter), text with
    | some parameter, [] => some (.expect parameter)
    | some parameter, '=' :: value => some (.set parameter (String.ofList value))
    | some parameter, value => some (.set parameter (String.ofList value))
    | none, _ => none

def word? (parameters : List Parameter) (argument : String) : Option Word :=
  match argument.toList with
  | ['-', '-'] => some .done
  | '-' :: '-' :: text => longWord? parameters text
  | '-' :: letter :: text => shortWord? parameters letter text
  | _ => none

/-- What the arguments of a command set; nothing when they ask for help. -/
def readOptions? (parameters : List Parameter) : Values → List String → Option (Option Values)
  | values, [] => some (some values)
  | values, argument :: rest =>
      match word? parameters argument with
      | some .help => some none
      | some (.set parameter value) =>
          (values.set? parameter value).bind (readOptions? parameters · rest)
      | some (.expect parameter) =>
          match rest with
          | value :: rest =>
              if looksLikeOption value then none
              else (values.set? parameter value).bind (readOptions? parameters · rest)
          | [] => none
      | some .done => if rest.isEmpty then some (some values) else none
      | none => none

/-! ## Commands -/

namespace Topic

/-- The options of the command that a topic is about. -/
def parameters : Topic → List Parameter
  | .all => []
  | .compile => [.query, .settings, .directive, .format]
  | .apply => [.program, .data, .format]
  | .run => [.query, .data, .settings, .directive]

/-- The topic of a command. -/
def ofWord? (word : String) : Option Topic :=
  if word = "compile" then some .compile
  else if word = "apply" then some .apply
  else if word = "run" then some .run
  else none

/-- The command with the values of its options, when none is absent that it needs. -/
def command? (values : Values) : Topic → Option Command
  | .all => none
  | .compile => do
      let query ← values.lookup Parameter.query.name
      some (.compile query (values.lookup Parameter.settings.name)
        (values.lookup Parameter.directive.name) values.format)
  | .apply => do
      let program ← values.lookup Parameter.program.name
      let data ← values.lookup Parameter.data.name
      some (.apply program data values.format)
  | .run => do
      let query ← values.lookup Parameter.query.name
      let data ← values.lookup Parameter.data.name
      some (.run query data (values.lookup Parameter.settings.name)
        (values.lookup Parameter.directive.name))

end Topic

namespace Request

/-- A command with its arguments. -/
def ofCommand? (topic : Topic) (arguments : List String) : Option Request :=
  match readOptions? topic.parameters [] arguments with
  | some (some values) => (topic.command? values).map .command
  | some none => some (.help topic)
  | none => none

/-- What the arguments ask for. -/
def ofArguments? : List String → Option Request
  | [] => none
  | ["help"] => some (.help .all)
  | ["help", name] => (Topic.ofWord? name).map .help
  | first :: rest =>
      if first = "--help" || first.startsWith "-h" then some (.help .all)
      else if first = "--version" || first.startsWith "-V" then some .version
      else (Topic.ofWord? first).bind (ofCommand? · rest)

end Request

end Reshape.CommandLine
