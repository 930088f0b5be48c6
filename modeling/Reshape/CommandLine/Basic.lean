/-
Module: Reshape.CommandLine.Basic
Purpose: the commands of the command line on the texts of the files that they name.
Main exports: CommandLine.Surroundings, CommandLine.Outcome, CommandLine.run
Trusted boundary: files, variables and the clock are given
-/
import Reshape.CommandLine.Help
import Reshape.CommandLine.Variables
import Reshape.Compile.Basic
import Reshape.Pattern.Reader
import Reshape.Program.Stored
import Reshape.Replay.Run
import Reshape.Settings
import Reshape.Yaml.Printer

/-!
# Commands

A command depends on its arguments and its surroundings, and its outcome is what it
prints. Options are settled first, then the query is read, then the document, and only
then is anything compiled: the first of these that fails tells how the command fails.
-/

namespace Reshape.CommandLine

/-- What a command can see. -/
structure Surroundings where
  /-- The text of the file at a path, or why it cannot be read. -/
  file : String → Except String String
  /-- The variables that are set. -/
  given : Variables
  now : Calendar.Moment

/-- Why a command fails. -/
inductive Failure where
  | compile (cause : CompileError)
  | transform (cause : CallError)
  | configuration (reason : String)
  /-- A file cannot be read. -/
  | file (reason : String)
  /-- A file is no JSON, or no program in JSON. -/
  | json
  /-- A file is no program in YAML. -/
  | yaml

def Failure.message : Failure → String
  | .compile cause => "Compile error: " ++ cause.message
  | .transform cause => "Transform error: " ++ cause.message
  | .configuration reason => "Configuration error: " ++ reason
  | .file reason => "IO error: " ++ reason
  | .json => "JSON error"
  | .yaml => "YAML error"

/-- What comes of a command. -/
inductive Outcome where
  | printed (text : String)
  | failed (cause : Failure)
  /-- The arguments ask for nothing. -/
  | misused

namespace Outcome

/-- The exit status. -/
def status : Outcome → UInt32
  | .printed _ => 0
  | .failed _ => 1
  | .misused => 2

/-- What goes to the standard output. -/
def output : Outcome → String
  | .printed text => text
  | _ => ""

/-- What goes to the standard error. -/
def diagnosis : Outcome → String
  | .printed _ => ""
  | .failed cause => "Error: " ++ cause.message ++ "\n"
  | .misused => usageText

end Outcome

/-! ## Paths -/

/-- What stands behind the last point of a path's last part, unless the part starts with
that point. -/
def extension? (path : String) : Option String :=
  let parts := (Text.splitChar '/' path.toList).filter fun part => part != [] && part != ['.']
  match parts.getLast? with
  | none | some ['.', '.'] => none
  | some name =>
      match (Text.splitChar '.' name).reverse with
      | last :: before :: more =>
          if more.isEmpty && before.isEmpty then none else some (String.ofList last)
      | _ => none

/-- The format of the program at a path: YAML by its extension, JSON otherwise. -/
def programFormat (path : String) : Stored.Format :=
  if extension? path = some "yaml" || extension? path = some "yml" then .yaml else .json

/-! ## Files -/

namespace Surroundings

/-- The path of the file that adds variables. -/
def variablesPath : String := ".env"

/-- The variables, with those that a file adds. -/
def environment (surroundings : Surroundings) : Variables :=
  match surroundings.file variablesPath with
  | .ok text => surroundings.given.load text
  | .error _ => surroundings.given

def read (surroundings : Surroundings) (path : String) : Except Failure String :=
  (surroundings.file path).mapError .file

/-- The JSON document at a path. -/
def readDocument (surroundings : Surroundings) (path : String) : Except Failure Json := do
  match Json.parse? (← surroundings.read path) with
  | some value => .ok value
  | none => .error .json

/-- The program at a path. -/
def readProgram (surroundings : Surroundings) (path : String) : Except Failure Program := do
  match programFormat path, Program.parse? (programFormat path) (← surroundings.read path) with
  | _, some program => .ok program
  | .json, none => .error .json
  | .yaml, none => .error .yaml

/-- The variable that names the directive. -/
def directiveVariable : String := "GRAPHQL_SHAPE_DIRECTIVE"

/-- The options in the settings file at a path. -/
def readSettings (surroundings : Surroundings) (path : String) :
    Except Failure Compile.Options :=
  match surroundings.file path with
  | .error reason =>
      .error (.configuration ("Failed to read config file " ++ path ++ ": " ++ reason))
  | .ok text => (Settings.read text).mapError (.configuration ·.message)

/-- The options that hold: those of the settings file, overridden by the environment, and
then by the command line. -/
def options (surroundings : Surroundings) (settings directive : Option String) :
    Except Failure Compile.Options := do
  let written ← match settings with
    | some path => surroundings.readSettings path
    | none => .ok .standard
  let named := Settings.override directive
    (Settings.override (surroundings.environment directiveVariable) written)
  if Settings.isMarked named.directive then
    .error (.configuration ("Directive name must not include '@': " ++ named.directive))
  else .ok named

/-- The functions that a program may call. -/
def dispatcher (surroundings : Surroundings) : Dispatcher :=
  .frozenAt surroundings.now .builtin

end Surroundings

/-! ## Commands -/

/-- A value in a format, with a line break behind it. -/
def render (value : Json) : Stored.Format → String
  | .json => value.indented ++ "\n"
  | .yaml => value.yaml ++ "\n"

/-- What compiling prints: the query, a blank line, and the two programs. -/
def report (compilation : Compile.Compilation) (format : Stored.Format) : String :=
  String.ofList (Text.trimEnd compilation.query.toList) ++ "\n\n" ++
    render (.object [("program", compilation.program.toJson),
      ("fragments", compilation.fragments.toJson)]) format

/-- What a command prints. -/
def execute (surroundings : Surroundings) : Command → Except Failure String
  | .compile query settings directive format => do
      let options ← surroundings.options settings directive
      let text ← surroundings.read query
      let compilation ← (Compile.compile options text).mapError .compile
      .ok (report compilation format)
  | .apply program data format => do
      let program ← surroundings.readProgram program
      let document ← surroundings.readDocument data
      let result ← (program.run surroundings.dispatcher document).mapError .transform
      .ok (render result format)
  | .run query data settings directive => do
      let options ← surroundings.options settings directive
      let text ← surroundings.read query
      let document ← surroundings.readDocument data
      let compilation ← (Compile.compile options text).mapError .compile
      let result ← (compilation.program.run surroundings.dispatcher document).mapError .transform
      .ok (render result .json)

/-- The paths that a command reads. -/
def Command.paths : Command → List String
  | .compile query settings _ _ => query :: settings.toList
  | .apply program data _ => [program, data]
  | .run query data settings _ => query :: data :: settings.toList

/-- All paths that arguments may read. -/
def pathsOf (arguments : List String) : List String :=
  Surroundings.variablesPath ::
    match Request.ofArguments? arguments with
    | some (.command command) => command.paths
    | _ => []

/-- All variables that matter next to the files. -/
def variablesOf (file : String → Except String String) : List String :=
  Surroundings.directiveVariable ::
    match file Surroundings.variablesPath with
    | .ok text => Variables.mentioned text
    | .error _ => []

/-- What comes of the command line. -/
def run (surroundings : Surroundings) (arguments : List String) : Outcome :=
  match Request.ofArguments? arguments with
  | some (.command command) =>
      match execute surroundings command with
      | .ok text => .printed text
      | .error cause => .failed cause
  | some (.help topic) => .printed topic.text
  | some .version => .printed versionText
  | none => .misused

end Reshape.CommandLine
