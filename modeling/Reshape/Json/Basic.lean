/-
Module: Reshape.Json.Basic
Purpose: JSON values with members in insertion order, their numbers, and the
  operations on members that keep that order.
Main exports: Json, Json.Number, Members.get?, Members.insert, Members.erase
Trusted boundary: stands for the type of JSON values that the program is given and that is no part
  of it
-/
import Reshape.Decimal.Range

/-!
# JSON values

Objects are lists of members. A key that is set again keeps its place, a new
key goes to the end, and erasing a key leaves the order of the others. All
operations below keep keys distinct; a list with a repeated key is raw syntax
that only the text reader produces, on its way to `Json.collapse`.
-/

namespace Reshape

namespace Json

/-- A number is an integer of 64 bits, with or without sign, or a finite
double. The three kinds are told apart: `1` and `1.0` are different numbers. -/
inductive Number where
  | integer (value : Int) (fits : minInt64 ≤ value ∧ value ≤ maxUInt64)
  | double (value : Float)
  deriving DecidableEq

namespace Number

/-- The integer `i` as a number, when 64 bits hold it. -/
def ofInt? (i : Int) : Option Number :=
  if fits : minInt64 ≤ i ∧ i ≤ maxUInt64 then some (.integer i fits) else none

/-- The double nearest to an integer; a tie goes to the even neighbour. -/
def doubleOfInt (i : Int) : Float :=
  if 0 ≤ i then (UInt64.ofNat i.toNat).toFloat else -(UInt64.ofNat (-i).toNat).toFloat

/-- The number as a double, rounded when it is an integer beyond 53 bits. -/
def toFloat : Number → Float
  | .integer value _ => doubleOfInt value
  | .double value => value

/-- The integer a number holds, if it is one. -/
def toInt? : Number → Option Int
  | .integer value _ => some value
  | .double _ => none

end Number

end Json

/-- A JSON value. -/
inductive Json where
  | null
  | bool (value : Bool)
  | number (value : Json.Number)
  | string (value : String)
  | array (items : List Json)
  | object (members : List (String × Json))
  deriving Inhabited

/-- The members of an object, in order. -/
abbrev Members := List (String × Json)

namespace Members

/-- The value of the first member named `key`. -/
def get? (key : String) : Members → Option Json
  | [] => none
  | (name, value) :: rest => if name = key then some value else get? key rest

/-- Set `key`: in place when it is there, at the end otherwise. -/
def insert (key : String) (value : Json) : Members → Members
  | [] => [(key, value)]
  | (name, old) :: rest =>
      if name = key then (name, value) :: rest else (name, old) :: insert key value rest

/-- Remove `key`; the other members keep their order. -/
def erase (key : String) : Members → Members
  | [] => []
  | (name, value) :: rest => if name = key then rest else (name, value) :: erase key rest

/-- Set every member of `more` in turn. -/
def insertAll (members more : Members) : Members :=
  more.foldl (fun acc member => insert member.1 member.2 acc) members

/-- The keys, in order. -/
def keys (members : Members) : List String :=
  members.map Prod.fst

end Members

namespace Json

/-- An integer as a JSON number, null beyond 64 bits. -/
def ofInt (i : Int) : Json :=
  match Number.ofInt? i with
  | some n => .number n
  | none => .null

def isNull : Json → Bool
  | .null => true
  | _ => false

def isArray : Json → Bool
  | .array _ => true
  | _ => false

def isObject : Json → Bool
  | .object _ => true
  | _ => false

/-- Arrays and objects, the values that other values stand in. -/
def isContainer : Json → Bool
  | .array _ | .object _ => true
  | _ => false

def string? : Json → Option String
  | .string s => some s
  | _ => none

def number? : Json → Option Number
  | .number n => some n
  | _ => none

/-- The member `key` of an object; other values have none. -/
def member? (key : String) : Json → Option Json
  | .object members => Members.get? key members
  | _ => none

mutual

/-- Give every object distinct keys, as if its members had been set one after
the other: a repeated key keeps its first place and its last value. -/
def collapse : Json → Json
  | .array items => .array (collapseItems items)
  | .object members => .object (Members.insertAll [] (collapseMembers members))
  | other => other

def collapseItems : List Json → List Json
  | [] => []
  | item :: rest => item.collapse :: collapseItems rest

def collapseMembers : List (String × Json) → List (String × Json)
  | [] => []
  | (key, value) :: rest => (key, value.collapse) :: collapseMembers rest

end

end Json

end Reshape
