/-
Module: Reshape.CommandLine.Help
Purpose: what the command line says about itself.
Main exports: CommandLine.Topic.text, CommandLine.versionText, CommandLine.usageText
Trusted boundary: stands for the help texts that the reader of arguments makes of the declarations
-/
import Reshape.CommandLine.Arguments

namespace Reshape.CommandLine

/-- The name of the program. -/
def programName : String := "graphql-shape"

def versionText : String :=
  programName ++ " 0.1.0\n"

/-- The answer to arguments that ask for nothing. -/
def usageText : String :=
  "Usage: " ++ programName ++ " <COMMAND>\n\nFor more information, try '--help'.\n"

/-- What a command does. -/
def Topic.summary : Topic → String
  | .all => "Compile GraphQL shape directives and reshape JSON responses"
  | .compile => "Compile a query and print the cleaned query, program and fragments"
  | .apply => "Apply a serialized program to a JSON document"
  | .run => "Compile a query and apply it in one step"

/-- How a command is called. -/
def Topic.usage : Topic → String
  | .all => "<COMMAND>"
  | .compile => "compile [OPTIONS] --query <QUERY>"
  | .apply => "apply [OPTIONS] --program <PROGRAM> --data <DATA>"
  | .run => "run [OPTIONS] --query <QUERY> --data <DATA>"

/-- The lines on commands and options. -/
def Topic.details : Topic → List String
  | .all =>
      ["Commands:",
       "  compile  " ++ Topic.compile.summary,
       "  apply    " ++ Topic.apply.summary,
       "  run      " ++ Topic.run.summary,
       "  help     Print this message or the help of the given subcommand(s)",
       "",
       "Options:",
       "  -h, --help     Print help",
       "  -V, --version  Print version"]
  | .compile =>
      ["Options:",
       "  -q, --query <QUERY>          Path to the GraphQL query",
       "  -c, --config <CONFIG>        Path to a YAML config file with directive settings",
       "  -d, --directive <DIRECTIVE>  Override the directive name (without \x60@\x60)",
       "  -f, --format <FORMAT>        Serialization format for the program [default: json] [possible values:",
       "                               json, yaml]",
       "  -h, --help                   Print help"]
  | .apply =>
      ["Options:",
       "  -p, --program <PROGRAM>  Path to the program (JSON, or YAML for .yaml/.yml)",
       "      --data <DATA>        Path to the JSON document",
       "  -f, --format <FORMAT>    Output format for the reshaped document [default: json] [possible values:",
       "                           json, yaml]",
       "  -h, --help               Print help"]
  | .run =>
      ["Options:",
       "  -q, --query <QUERY>          Path to the GraphQL query",
       "      --data <DATA>            Path to the JSON document",
       "  -c, --config <CONFIG>        Path to a YAML config file with directive settings",
       "  -d, --directive <DIRECTIVE>  Override the directive name (without \x60@\x60)",
       "  -h, --help                   Print help"]

/-- The help on a topic. -/
def Topic.text (topic : Topic) : String :=
  topic.summary ++ "\n\nUsage: " ++ programName ++ " " ++ topic.usage ++ "\n\n" ++
    String.intercalate "\n" topic.details ++ "\n"

end Reshape.CommandLine
