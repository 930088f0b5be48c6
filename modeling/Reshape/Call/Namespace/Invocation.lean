/-
Module: Reshape.Call.Namespace.Invocation
Purpose: the ways in which a namespace is used.
Main exports: Invocation, Invocation.split
Trusted boundary: none
-/
import Reshape.Json.Basic

namespace Reshape

/-- How a call uses a namespace. -/
inductive Invocation where
  /-- It makes a new value. -/
  | construct
  /-- It is called as a function. -/
  | call
  /-- One of its members is called. -/
  | static (member : String)
  deriving DecidableEq, Repr

namespace Invocation

/-- The way of use and the arguments it leaves. The first argument says `"new"`, names
a member, or is null; a list that begins otherwise is all arguments. -/
def split : List Json → Invocation × List Json
  | [] => (.call, [])
  | .null :: rest => (.call, rest)
  | .string member :: rest => (if member = "new" then .construct else .static member, rest)
  | args => (.call, args)

end Invocation

end Reshape
