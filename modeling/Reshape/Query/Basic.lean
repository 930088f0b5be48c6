/-
Module: Reshape.Query.Basic
Purpose: executable GraphQL documents as syntax trees.
Main exports: Query.Document, Query.Definition, Query.Selection, Query.Directive, Query.Value
Trusted boundary: the syntax trees of the parser of query documents that the program is given
-/

/-!
# Query documents

A document is a list of operations and fragments. Blanks, commas and comments are
not part of it. The fields of an object value are sorted by name and distinct.
-/

namespace Reshape.Query

/-- An argument value as written in a document. -/
inductive Value where
  | variable (name : String)
  | integer (value : Int)
  | double (value : Float)
  | string (value : String)
  | bool (value : Bool)
  | null
  | enumeration (name : String)
  | list (items : List Value)
  | object (fields : List (String × Value))
  deriving Inhabited

/-- Named values, in the order in which they are written. -/
abbrev Arguments := List (String × Value)

/-- An annotation such as `@include(if: true)`. -/
structure Directive where
  name : String
  arguments : Arguments
  deriving Inhabited

/-- What is selected of an object. A field without selections has none between
braces either. -/
inductive Selection where
  | field (alias? : Option String) (name : String) (arguments : Arguments)
      (directives : List Directive) (selections : List Selection)
  | spread (fragment : String) (directives : List Directive)
  | inline (condition : Option String) (directives : List Directive) (selections : List Selection)
  deriving Inhabited

/-- The type of a variable. -/
inductive TypeRef where
  | named (name : String)
  | list (item : TypeRef)
  | nonNull (inner : TypeRef)
  deriving Inhabited

/-- A variable that an operation declares. -/
structure Variable where
  name : String
  type : TypeRef
  default? : Option Value
  deriving Inhabited

inductive OperationKind where
  | query
  | mutation
  | subscription
  deriving DecidableEq, Repr

/-- The part of an operation before its selections. -/
structure Header where
  kind : OperationKind
  name : Option String
  /-- The variables of the operation. -/
  declared : List Variable
  directives : List Directive

inductive Definition where
  /-- An operation; one that consists of its selections alone has no header. -/
  | operation (header : Option Header) (selections : List Selection)
  | fragment (name condition : String) (directives : List Directive) (selections : List Selection)

abbrev Document := List Definition

namespace Selection

/-- The annotations of a selection. -/
def directives : Selection → List Directive
  | .field _ _ _ directives _ => directives
  | .spread _ directives => directives
  | .inline _ directives _ => directives

/-- The key of a field in a response: its alias if it has one, else its name. -/
def responseKey (alias? : Option String) (name : String) : String :=
  alias?.getD name

end Selection

end Reshape.Query
