/-
Module: Reshape.PathQuery.Query
Purpose: path queries and the nodes they select.
Main exports: PathQuery.Query, PathQuery.Query.nodes
Trusted boundary: stands for the evaluator of path queries that the program is given and that
  is no part of it; conditions on text ask the library of patterns
-/
import Reshape.Json.Coercion
import Reshape.Pattern.Library

/-!
# Path queries

A query starts at the root or at the current value and follows segments. A segment
applies selectors to a value, or to the value and everything below it, parents
before their children. Filters select the children for which a condition holds.
-/

namespace Reshape

namespace Json

/-- The items of an array, the values of an object. -/
def children : Json → List Json
  | .array items => items
  | .object members => members.map Prod.snd
  | _ => []

mutual

/-- The value and everything below it, parents before their children. -/
def selfAndBelow : Json → List Json
  | .array items => .array items :: belowItems items
  | .object members => .object members :: belowMembers members
  | leaf => [leaf]

def belowItems : List Json → List Json
  | [] => []
  | item :: rest => item.selfAndBelow ++ belowItems rest

def belowMembers : List (String × Json) → List Json
  | [] => []
  | (_, value) :: rest => value.selfAndBelow ++ belowMembers rest

end

end Json

namespace PathQuery

/-- How two operands are compared. -/
inductive Relation where
  | equal
  | notEqual
  | less
  | lessOrEqual
  | greater
  | greaterOrEqual
  deriving DecidableEq, Repr

mutual

/-- Segments that are followed from the root or from the current value. -/
inductive Query where
  | mk (fromRoot : Bool) (segments : List Segment)

inductive Segment where
  /-- Apply selectors to a value. -/
  | child (selectors : List Selector)
  /-- Apply selectors to a value and everything below it. -/
  | descendant (selectors : List Selector)

inductive Selector where
  | name (key : String)
  | wildcard
  /-- A negative index counts from the end. -/
  | index (position : Int)
  | slice (start stop : Option Int) (step : Int)
  | filter (condition : Condition)

inductive Condition where
  | either (first second : Condition)
  | both (first second : Condition)
  | negation (condition : Condition)
  /-- The query selects something. -/
  | found (query : Query)
  | related (relation : Relation) (left right : Operand)
  /-- The whole text has the form of the pattern. -/
  | hasForm (text pattern : Operand)
  /-- The pattern occurs in the text. -/
  | occurs (text pattern : Operand)

/-- What a condition compares; an operand may have no value. -/
inductive Operand where
  | literal (value : Json)
  /-- The node of a query that selects exactly one. -/
  | only (query : Query)
  /-- The number of characters, items or members. -/
  | lengthOf (operand : Operand)
  /-- The number of nodes that a query selects. -/
  | countOf (query : Query)

end

instance : Inhabited Query := ⟨.mk true []⟩

/-- A selector that selects at most one child. -/
def Selector.isSingular : Selector → Bool
  | .name _ | .index _ => true
  | _ => false

/-- A segment that leads to at most one child. -/
def Segment.isSingular : Segment → Bool
  | .child [selector] => selector.isSingular
  | _ => false

/-- A query that selects at most one node. -/
def Query.isSingular : Query → Bool
  | .mk _ segments => segments.all Segment.isSingular

/-! ## Slices and comparisons -/

/-- A bound of a slice as a position: a negative one counts from the end. -/
def slicePosition (length : Nat) (bound : Int) : Int :=
  if 0 ≤ bound then bound else length + bound

/-- A bound moved between the two ends that a slice of `length` items can reach. -/
def clampBound (least most bound : Int) : Int :=
  min (max bound least) most

/-- `count` positions from `first` on, `step` apart. -/
def progression (first step count : Int) : List Nat :=
  (List.range count.toNat).map fun k => (first + Int.ofNat k * step).toNat

/-- The positions of a slice in the order of its step; none for step zero. -/
def slicePositions (start stop : Option Int) (step : Int) (length : Nat) : List Nat :=
  let position := slicePosition length
  if 0 < step then
    let first := clampBound 0 length (position (start.getD 0))
    let last := clampBound 0 length (position (stop.getD length))
    progression first step ((last - first + step - 1) / step)
  else if step < 0 then
    let first := clampBound (-1) (length - 1) (position (start.getD (length - 1)))
    let last := clampBound (-1) (length - 1) (position (stop.getD (-length - 1)))
    progression first step ((first - last - step - 1) / -step)
  else []

/-- The item at an index. -/
def item? (items : List Json) (position : Int) : Option Json :=
  if 0 ≤ position then items[position.toNat]?
  else if -position ≤ items.length then items[(items.length + position).toNat]?
  else none

/-- Only numbers and texts have an order. -/
def isLess : Option Json → Option Json → Bool
  | some (.number a), some (.number b) => a.toFloat < b.toFloat
  | some (.string a), some (.string b) => a < b
  | _, _ => false

/-- Two operands without a value are equal. -/
def isEqual : Option Json → Option Json → Bool
  | some a, some b => a.agrees b
  | none, none => true
  | _, _ => false

/-- Whether two operands stand in a relation. -/
def Relation.holds (relation : Relation) (left right : Option Json) : Bool :=
  match relation with
  | .equal => isEqual left right
  | .notEqual => !isEqual left right
  | .less => isLess left right
  | .lessOrEqual => isLess left right || isEqual left right
  | .greater => isLess right left
  | .greaterOrEqual => isLess right left || isEqual left right

/-- The length of a value that has one. -/
def length? : Option Json → Option Json
  | some (.string s) => some (.ofInt s.length)
  | some (.array items) => some (.ofInt items.length)
  | some (.object members) => some (.ofInt members.length)
  | _ => none

/-- Whether a pattern occurs in a text. Text that is no pattern occurs nowhere. -/
def patternOccurs [Pattern.Library] (before after : List Char) : Option Json → Option Json → Bool
  | some (.string text), some (.string pattern) =>
      match Pattern.Library.build? {} (String.ofList (before ++ pattern.toList ++ after)) with
      | some occursIn => occursIn text
      | none => false
  | _, _ => false

/-- The node of a list that has just one. -/
def single? : List Json → Option Json
  | [node] => some node
  | _ => none

/-! ## Selection -/

section Selection

variable [Pattern.Library]

mutual

/-- The nodes a query selects, in order. -/
def Query.nodes (root current : Json) : Query → List Json
  | .mk fromRoot segments => followAll root segments [if fromRoot then root else current]

/-- The nodes after a list of segments. -/
def followAll (root : Json) : List Segment → List Json → List Json
  | [], nodes => nodes
  | segment :: rest, nodes => followAll root rest (nodes.flatMap fun v => segment.follow root v)

/-- The nodes one segment leads to. -/
def Segment.follow (root : Json) : Segment → Json → List Json
  | .child selectors, v => selectAll root selectors v
  | .descendant selectors, v => v.selfAndBelow.flatMap fun w => selectAll root selectors w

/-- The children that a list of selectors selects, selector by selector. -/
def selectAll (root : Json) : List Selector → Json → List Json
  | [], _ => []
  | selector :: rest, v => selector.select root v ++ selectAll root rest v

/-- The children that a selector selects. -/
def Selector.select (root : Json) : Selector → Json → List Json
  | .name key, v => (v.member? key).toList
  | .wildcard, v => v.children
  | .index position, .array items => (item? items position).toList
  | .index _, _ => []
  | .slice start stop step, .array items =>
      (slicePositions start stop step items.length).filterMap (items[·]?)
  | .slice _ _ _, _ => []
  | .filter condition, v => v.children.filter fun w => condition.holds root w

/-- Whether a condition holds of the current value. -/
def Condition.holds (root : Json) : Condition → Json → Bool
  | .either first second, v => first.holds root v || second.holds root v
  | .both first second, v => first.holds root v && second.holds root v
  | .negation condition, v => !condition.holds root v
  | .found query, v => !(query.nodes root v).isEmpty
  | .related relation left right, v => relation.holds (left.value? root v) (right.value? root v)
  | .hasForm text pattern, v => patternOccurs ['^'] ['$'] (text.value? root v) (pattern.value? root v)
  | .occurs text pattern, v => patternOccurs [] [] (text.value? root v) (pattern.value? root v)

/-- The value of an operand, if it has one. -/
def Operand.value? (root : Json) : Operand → Json → Option Json
  | .literal value, _ => some value
  | .only query, v => single? (query.nodes root v)
  | .lengthOf operand, v => length? (operand.value? root v)
  | .countOf query, v => some (.ofInt (query.nodes root v).length)

end

end Selection

/-- Nothing for no node, the node for one, the list of them for several. -/
def unwrap : List Json → Json
  | [] => .null
  | [node] => node
  | nodes => .array nodes

end PathQuery

end Reshape
