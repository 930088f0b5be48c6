/-
Module: Reshape.Compile.Error
Purpose: why a query does not compile, and how that is said.
Main exports: Collector, CompileError, CompileError.message
Trusted boundary: none
-/

namespace Reshape

/-- Where rules are collected. -/
inductive Collector where
  /-- The program that the operations share. -/
  | program
  /-- The body of a fragment. -/
  | fragment (name : String)
  deriving DecidableEq, Repr

namespace Collector

/-- The name of a collector in messages. -/
def display : Collector → String
  | .program => "operation"
  | .fragment name => "fragment " ++ name

end Collector

/-- Why a query does not compile. -/
inductive CompileError where
  /-- The text is no query document. -/
  | malformedQuery
  /-- Two fragments have the same name. -/
  | duplicateFragment (name : String)
  /-- A spread names no fragment of the document. -/
  | unknownFragment (name : String) (spreadIn : Collector)
  /-- A fragment spreads itself or one that is declared after it. -/
  | forwardFragment (name : String) (spreadIn : Collector)
  deriving DecidableEq, Repr

namespace CompileError

def message : CompileError → String
  | .malformedQuery => "Failed to parse query"
  | .duplicateFragment name => "Fragment '" ++ name ++ "' is declared more than once"
  | .unknownFragment name spreadIn =>
      "Unknown fragment '" ++ name ++ "' spread in " ++ spreadIn.display
  | .forwardFragment name spreadIn =>
      "Fragment '" ++ name ++ "' spread in " ++ spreadIn.display ++
        " must be declared before the fragment spreading it"

end CompileError

end Reshape
