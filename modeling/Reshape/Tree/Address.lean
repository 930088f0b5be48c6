/-
Module: Reshape.Tree.Address
Purpose: dotted addresses of places in a response.
Main exports: Address, Address.segments, Address.join
Trusted boundary: none
-/
import Reshape.Text.Split

/-!
# Addresses

An address names a place by the response keys on the way to it, written with dots
between them. Empty segments are left out, so `""` and `"."` both name the whole
response. Joining two addresses puts the second under the first.
-/

namespace Reshape

/-- A dotted address, as written. -/
structure Address where
  text : String
  deriving DecidableEq, Repr, Inhabited

namespace Address

/-- The response keys on the way to the place. -/
def segments (address : Address) : List String :=
  ((Text.splitChar '.' address.text.toList).filter (· ≠ [])).map String.ofList

/-- The address `relative` under the address `base`; either may be empty. -/
def join (base relative : Address) : Address :=
  if base.text = "" then relative
  else if relative.text = "" then base
  else ⟨base.text ++ "." ++ relative.text⟩

/-- The address with the given keys on the way. -/
def ofKeys (keys : List String) : Address :=
  ⟨".".intercalate keys⟩

end Address

end Reshape
