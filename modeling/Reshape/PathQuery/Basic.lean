/-
Module: Reshape.PathQuery.Basic
Purpose: what a path expression means on a value.
Main exports: PathQuery.evaluate
Trusted boundary: the parser and the evaluator of path queries
-/
import Reshape.Call.Error
import Reshape.PathQuery.Lenient
import Reshape.PathQuery.Reader

namespace Reshape.PathQuery

/-- The value that a path expression leads to: nothing for no node, the node for
one, the list of them for several. -/
def evaluate [Pattern.Library] (expression : String) (value : Json) : Except CallError Json :=
  match normalize expression with
  | none => .ok value
  | some strict =>
      match Query.parse? strict.toList with
      | some query => .ok (unwrap (query.nodes value value))
      | none => .error (.malformedPath expression value)

end Reshape.PathQuery
