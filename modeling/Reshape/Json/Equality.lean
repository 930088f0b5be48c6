/-
Module: Reshape.Json.Equality
Purpose: when two JSON values are the same value: members in any order, numbers
  only within their kind.
Main exports: Json.same
Trusted boundary: stands for the equality of JSON values that the program is given
-/
import Reshape.Json.Basic

namespace Reshape.Json

/-- Two numbers of the same kind and value. An integer is never the same as a
double, and doubles compare as numbers, so that both zeros are the same. -/
def Number.same : Number → Number → Bool
  | .integer a _, .integer b _ => a == b
  | .double a, .double b => a == b
  | _, _ => false

mutual

/-- Two values are the same when their kinds agree, arrays agree item by item,
and objects have as many members with the same value under every key. -/
def same : Json → Json → Bool
  | .null, .null => true
  | .bool a, .bool b => a == b
  | .number a, .number b => a.same b
  | .string a, .string b => a == b
  | .array as, .array bs => sameItems as bs
  | .object as, .object bs => as.length == bs.length && sameMembers as bs
  | _, _ => false

/-- Arrays agree position by position. -/
def sameItems : List Json → List Json → Bool
  | [], [] => true
  | a :: as, b :: bs => a.same b && sameItems as bs
  | _, _ => false

/-- Every member on the left is found on the right with the same value. -/
def sameMembers : List (String × Json) → List (String × Json) → Bool
  | [], _ => true
  | (key, value) :: rest, others =>
      (match Members.get? key others with
        | some other => value.same other
        | none => false) && sameMembers rest others

end

end Reshape.Json
