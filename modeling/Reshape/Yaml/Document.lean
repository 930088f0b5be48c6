/-
Module: Reshape.Yaml.Document
Purpose: YAML text as stored data.
Main exports: Yaml.Node.toStored, Stored.ofYaml?
Trusted boundary: stands for the parser of YAML that the program is given and that is no part of it
-/
import Reshape.Yaml.Node

/-!
# YAML documents

Aliases stand for the nodes with their anchors, and the size of a document bounds how
often they are followed. A node inside of itself, one that nests more than 128 deep, one
that is followed too often, one under a tag of the document's own, and a scalar that has
not the form that its tag asks for are kept apart as data that nothing understands: they
matter only where they are read.
-/

namespace Reshape

namespace Yaml.Node

/-! ## Anchors -/

/-- The node under its anchor, if it has one. -/
def underAnchor (properties : Properties) (node : Node) : List (Nat × Node) :=
  match properties.anchor with
  | some number => [(number, node)]
  | none => []

mutual

/-- The nodes with anchors, in the order of the text. -/
def anchored : Node → List (Nat × Node)
  | .alias _ => []
  | .scalar properties plain text => underAnchor properties (.scalar properties plain text)
  | .list properties items =>
      underAnchor properties (.list properties items) ++ anchoredItems items
  | .map properties entries =>
      underAnchor properties (.map properties entries) ++ anchoredEntries entries

def anchoredItems : List Node → List (Nat × Node)
  | [] => []
  | item :: rest => item.anchored ++ anchoredItems rest

def anchoredEntries : List (Node × Node) → List (Nat × Node)
  | [] => []
  | (key, value) :: rest => key.anchored ++ value.anchored ++ anchoredEntries rest

end

/-! ## Data -/

/-- Data that only an unread entry may have. -/
def unreadable : Stored :=
  .tagged (.map [])

/-- Whether a tag is one of the document's own. -/
def isLocalTag (tag : Option String) : Bool :=
  tag.any (·.startsWith "!")

/-- The data of a scalar. -/
def scalarData (tag : Option String) (plain : Bool) (text : String) : Stored :=
  if isLocalTag tag then .tagged (.leaf (some text) (.string text))
  else
    match tag with
    | none => .leaf (some text) (if plain then plainLeaf text else .string text)
    | some tag =>
        match taggedLeaf tag text with
        | some leaf => .leaf (some text) leaf
        | none => .tagged (.leaf (some text) (.string text))

/-- The data of a collection. -/
def collectionData (properties : Properties) (data : Stored) : Stored :=
  if isLocalTag properties.tag then .tagged data else data

mutual

/-- The number of scalars and aliases, and of the two ends of collections. -/
def size : Node → Nat
  | .alias _ => 1
  | .scalar _ _ _ => 1
  | .list _ items => sizeItems items + 2
  | .map _ entries => sizeEntries entries + 2

def sizeItems : List Node → Nat
  | [] => 0
  | item :: rest => item.size + sizeItems rest

def sizeEntries : List (Node × Node) → Nat
  | [] => 0
  | (key, value) :: rest => key.size + value.size + sizeEntries rest

end

/-- The node that a node stands for, and the anchors that it stands inside of. The state
is how many aliases may still be followed. -/
def follow (table : List (Nat × Node)) (inside : List Nat) :
    Node → StateM Nat (Option (Node × List Nat))
  | .alias number => do
      let left ← get
      if left = 0 || inside.contains number then return none
      set (left - 1)
      return (table.lookup number).map (·, number :: inside)
  | node => return some (node, inside)

/-- The data of a node; collections nest as deep as `depth`. -/
def toStored (table : List (Nat × Node)) : Nat → List Nat → Node → StateM Nat Stored
  | depth, inside, node => do
      match ← follow table inside node with
      | some (.scalar properties plain text, _) =>
          return scalarData properties.tag plain text
      | some (.list properties items, inside) =>
          match depth with
          | 0 => return unreadable
          | depth + 1 =>
              let read ← items.mapM (toStored table depth inside)
              return collectionData properties (.list read)
      | some (.map properties entries, inside) =>
          match depth with
          | 0 => return unreadable
          | depth + 1 =>
              let read ← entries.mapM fun (key, value) =>
                return (← toStored table depth inside key, ← toStored table depth inside value)
              return collectionData properties (.map read)
      | _ => return unreadable

end Yaml.Node

namespace Stored

/-- The deepest nesting of collections. -/
def maxDepth : Nat := 128

/-- How often aliases are followed for each part of a document. -/
def aliasesPerPart : Nat := 100

/-- The data of YAML text. -/
def ofYaml? (text : String) : Option Stored :=
  ((Yaml.tokenize? text.toList).bind Yaml.Node.ofTokens?).map fun node =>
    ((node.toStored node.anchored.reverse maxDepth []).run (aliasesPerPart * node.size)).1

end Stored

end Reshape
