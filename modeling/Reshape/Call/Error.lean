/-
Module: Reshape.Call.Error
Purpose: why a call or a path expression fails, and how that is said.
Main exports: CallError, CallError.kind, CallError.message, builtLength
Trusted boundary: none
-/
import Reshape.Json.Printer

namespace Reshape

/-- The classes of failure that callers tell apart. -/
inductive CallError.Kind where
  | notFound
  | invalidArgs
  | executionError
  | pathQuery
  deriving DecidableEq, Repr

/-- Why a call or a path expression fails. -/
inductive CallError where
  /-- No function of that name is registered. -/
  | unknownFunction (name : String)
  /-- A string or array would become longer than `maxBuiltLength`. -/
  | tooLong (what : String) (requested : Nat)
  /-- A text cannot be repeated a negative number of times. -/
  | negativeRepeat (count : Int)
  /-- A number that is no array length. -/
  | arrayLength (length : Json.Number)
  /-- A namespace that is neither a function nor a constructor. -/
  | staticOnly (space : String)
  /-- A date outside the calendar. -/
  | dateOutOfRange
  /-- `filter` without a pattern. -/
  | patternExpected
  /-- `filter` with text that is no pattern. -/
  | malformedPattern (source : String)
  /-- Text that is no JSON. -/
  | malformedJson
  /-- The failure of a registered function, in its own words. -/
  | failed (reason : String)
  /-- Text that is no path expression. -/
  | malformedPath (expression : String) (target : Json)

namespace CallError

/-- The class a failure belongs to. -/
def kind : CallError → Kind
  | .unknownFunction _ => .notFound
  | .malformedJson | .failed _ => .executionError
  | .malformedPath .. => .pathQuery
  | _ => .invalidArgs

/-- The longest string, in characters, or array that a call may build. -/
def maxBuiltLength : Nat := 16777216

/-- The cause, without its class. -/
def reason : CallError → String
  | .unknownFunction name => name
  | .tooLong what requested =>
      what ++ " length " ++ toString requested ++ " exceeds the limit of " ++
        toString maxBuiltLength
  | .negativeRepeat count => "invalid repeat count: " ++ toString count
  | .arrayLength length => "invalid array length: " ++ length.write
  | .staticOnly space => space ++ " can only be used through a static member"
  | .dateOutOfRange => "date components out of range"
  | .patternExpected => "filter expects a pattern string"
  | .malformedPattern source => "invalid pattern '" ++ source ++ "'"
  | .malformedJson => "JSON.parse failed"
  | .failed reason => reason
  | .malformedPath expression target =>
      "'" ++ expression ++ "' failed against " ++ target.compact

/-- The whole message. -/
def message (e : CallError) : String :=
  (match e.kind with
    | .notFound => "Function not found: "
    | .invalidArgs => "Invalid arguments: "
    | .executionError => "Execution error: "
    | .pathQuery => "Path expression ") ++ e.reason

end CallError

/-- The length of a string or array to build, when it is within the limit. -/
def builtLength (requested : Nat) (what : String) : Except CallError Nat :=
  if requested ≤ CallError.maxBuiltLength then .ok requested
  else .error (.tooLong what requested)

end Reshape
