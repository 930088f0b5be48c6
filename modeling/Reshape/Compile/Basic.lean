/-
Module: Reshape.Compile.Basic
Purpose: from a query to the query that is sent and the program for its response.
Main exports: Compile.Compilation, Compile.compileDocument, Compile.compile
Trusted boundary: none
-/
import Reshape.Compile.Capture
import Reshape.Query.Printer
import Reshape.Query.Reader

/-!
# Compiling queries

The program is the collected list of rules backwards, so the rules inside a field run
before the rules of the field.
-/

namespace Reshape.Compile

open Query

/-- What a query compiles to. -/
structure Compilation where
  /-- The document to send. -/
  document : Document
  /-- The rules for the response, deepest first. -/
  program : Program
  /-- The rules of every fragment, addressed from the fragment. -/
  fragments : FragmentTable

namespace Compilation

/-- The text to send. -/
def query (compilation : Compilation) : String :=
  compilation.document.write

end Compilation

/-- Compile a document. -/
def compileDocument (options : Options) (document : Document) : Except CompileError Compilation :=
  match (collect options document).bind Collection.finish with
  | .ok (rules, fragments) => .ok ⟨cleanDocument options document, rules.reverse, fragments⟩
  | .error e => .error e

/-- Compile query text. -/
def compile (options : Options) (text : String) : Except CompileError Compilation :=
  match Document.parse? text with
  | some document => compileDocument options document
  | none => .error .malformedQuery

end Reshape.Compile
