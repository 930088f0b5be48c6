/-
Module: Reshape.Proofs.Tree.Identical
Purpose: equality of JSON values, and of what a run gives, can be decided.
Main exports: Json.identical, Json.identical_iff
Trusted boundary: none
-/
import Reshape.Call.Error

/-!
# Identical JSON values

Unlike `Json.same`, identity looks at the order of members and at every bit of a number.
It is the equality of the logic, which thereby can be decided on the values of a run.
-/

namespace Reshape

namespace Json

mutual

/-- Whether two values are equal, their members in the same order. -/
def identical : Json → Json → Bool
  | .null, .null => true
  | .bool a, .bool b => a == b
  | .number a, .number b => decide (a = b)
  | .string a, .string b => a == b
  | .array a, .array b => itemsIdentical a b
  | .object a, .object b => membersIdentical a b
  | _, _ => false

def itemsIdentical : List Json → List Json → Bool
  | [], [] => true
  | a :: others, b :: rest => identical a b && itemsIdentical others rest
  | _, _ => false

def membersIdentical : List (String × Json) → List (String × Json) → Bool
  | [], [] => true
  | (key, a) :: others, (name, b) :: rest =>
      key == name && identical a b && membersIdentical others rest
  | _, _ => false

end

mutual

theorem identical_iff (a b : Json) : a.identical b = true ↔ a = b := by
  cases a <;> cases b <;> simp [identical, itemsIdentical_iff, membersIdentical_iff]

theorem itemsIdentical_iff (items others : List Json) :
    itemsIdentical items others = true ↔ items = others := by
  match items, others with
  | [], [] | [], _ :: _ | _ :: _, [] => simp [itemsIdentical]
  | a :: items, b :: others =>
      simp [itemsIdentical, identical_iff a b, itemsIdentical_iff items others]

theorem membersIdentical_iff (members others : List (String × Json)) :
    membersIdentical members others = true ↔ members = others := by
  match members, others with
  | [], [] | [], _ :: _ | _ :: _, [] => simp [membersIdentical]
  | (key, a) :: members, (name, b) :: others =>
      simp [membersIdentical, identical_iff a b, membersIdentical_iff members others]

end

instance : DecidableEq Json :=
  fun a b => decidable_of_iff (a.identical b = true) (identical_iff a b)

end Json

deriving instance DecidableEq for CallError

end Reshape
