/-
Module: Reshape.Yaml.Node
Purpose: the nodes of a YAML document from its tokens.
Main exports: Yaml.Node, Yaml.Node.ofTokens?
Trusted boundary: stands for the parser of YAML that the program is given and that is no part of it
-/
import Reshape.Yaml.Scalar
import Reshape.Yaml.Token

/-!
# Nodes of a YAML document

A text holds one document at most. Its nodes keep their anchors and aliases, which are
numbered: an anchor has the number of names that are known in front of it, so a name
given a second time may share its number with another one.

The readers take `fuel`, a bound on their steps that the number of tokens always pays
for.
-/

namespace Reshape.Yaml

/-- What stands in front of a node. -/
structure Properties where
  anchor : Option Nat
  /-- The tag with its handle spelled out. -/
  tag : Option String
  deriving DecidableEq, Repr

/-- A node of a document. -/
inductive Node where
  | alias (number : Nat)
  | scalar (properties : Properties) (plain : Bool) (text : String)
  | list (properties : Properties) (items : List Node)
  | map (properties : Properties) (entries : List (Node × Node))

namespace Node

/-- A node that is not written at all. -/
def absent : Node :=
  .scalar ⟨none, none⟩ true ""

/-- The tokens that follow, and the anchors known so far. -/
structure Place where
  tokens : List Token
  names : List (String × Nat)

namespace Place

/-- Whether the next token is one of these; every place is followed by an end. -/
def sees (place : Place) (tokens : List Token) : Bool :=
  match place.tokens with
  | [] => false
  | token :: _ => tokens.contains token

/-- The place behind the next token. -/
def skip (place : Place) : Place :=
  { place with tokens := place.tokens.drop 1 }

/-- The place behind a token that has to come next. -/
def expect? (token : Token) (place : Place) : Option Place :=
  if place.sees [token] then some place.skip else none

end Place

/-! ## Properties -/

/-- The meanings of handles. -/
abbrev Handles := List (String × String)

/-- A tag with its handle spelled out. -/
def spellOut? (handles : Handles) (tag : WrittenTag) : Option String :=
  if tag.handle = "" then some tag.suffix
  else (handles.find? (·.1 == tag.handle)).map (·.2 ++ tag.suffix)

/-- Give an anchor its number. -/
def enter (name : String) (names : List (String × Nat)) : Nat × List (String × Nat) :=
  (names.length, (name, names.length) :: names.filter (·.1 != name))

/-- An anchor and a tag, in either order; both may be absent. -/
def readProperties (handles : Handles) (place : Place) : Option (Properties × Place) :=
  let anchored (name : String) (tag : Option String) (rest : List Token) : Properties × Place :=
    let (number, names) := enter name place.names
    (⟨some number, tag⟩, ⟨rest, names⟩)
  match place.tokens with
  | .anchor name :: .tag tag :: rest =>
      (spellOut? handles tag).map fun tag => anchored name (some tag) rest
  | .tag tag :: .anchor name :: rest =>
      (spellOut? handles tag).map fun tag => anchored name (some tag) rest
  | .anchor name :: rest => some (anchored name none rest)
  | .tag tag :: rest =>
      (spellOut? handles tag).map fun tag => (⟨none, some tag⟩, { place with tokens := rest })
  | _ => some (⟨none, none⟩, place)

/-! ## Nodes -/

/-- A node of which only its properties are written. -/
def readEmpty (properties : Properties) (place : Place) : Option (Node × Place) :=
  if properties.anchor.isSome || properties.tag.isSome then
    some (.scalar properties true "", place)
  else none

mutual

/-- A node. Block collections need `block`, and a sequence of hyphens at the indent of the
map that it stands in needs `hyphens`. -/
def read (handles : Handles) (block hyphens : Bool) : Nat → Place → Option (Node × Place)
  | 0, _ => none
  | fuel + 1, place =>
      match place.tokens with
      | .alias name :: _ =>
          (place.names.lookup name).map fun number => (.alias number, place.skip)
      | _ => do
          let (properties, place) ← readProperties handles place
          match place.tokens with
          | .blockEntry :: _ =>
              if hyphens then
                let (items, place) ← readHyphens handles fuel place
                some (.list properties items, place)
              else readEmpty properties place
          | .scalar plain text :: _ =>
              let untagged := if properties.tag = some "!" then none else properties.tag
              some (.scalar { properties with tag := untagged } plain text, place.skip)
          | .flowSequenceStart :: _ => do
              let (items, place) ← readFlowItems handles true fuel place.skip
              some (.list properties items, place)
          | .flowMappingStart :: _ => do
              let (entries, place) ← readFlowEntries handles true fuel place.skip
              some (.map properties entries, place)
          | .blockSequenceStart :: _ =>
              if block then
                let (items, place) ← readBlockItems handles fuel place.skip
                some (.list properties items, place)
              else readEmpty properties place
          | .blockMappingStart :: _ =>
              if block then
                let (entries, place) ← readBlockEntries handles fuel place.skip
                some (.map properties entries, place)
              else readEmpty properties place
          | _ => readEmpty properties place

/-- A node, or an absent one in front of some tokens. -/
def readUnless (handles : Handles) (block hyphens : Bool) (ends : List Token) :
    Nat → Place → Option (Node × Place)
  | 0, _ => none
  | fuel + 1, place =>
      if place.sees ends then some (absent, place) else read handles block hyphens fuel place

/-- The value behind a colon, or an absent one. -/
def readValue (handles : Handles) (block : Bool) (ends : List Token) : Nat → Place → Option (Node × Place)
  | 0, _ => none
  | fuel + 1, place =>
      if place.sees [.value] then readUnless handles block block ends fuel place.skip
      else some (absent, place)

/-- The items of a block sequence. -/
def readBlockItems (handles : Handles) : Nat → Place → Option (List Node × Place)
  | 0, _ => none
  | fuel + 1, place =>
      if place.sees [.blockEnd] then some ([], place.skip)
      else do
        let place : Place ← place.expect? .blockEntry
        let (item, place) ← readUnless handles true false [.blockEntry, .blockEnd] fuel place
        let (items, place) ← readBlockItems handles fuel place
        some (item :: items, place)

/-- The items of a sequence that starts no block of its own. -/
def readHyphens (handles : Handles) : Nat → Place → Option (List Node × Place)
  | 0, _ => none
  | fuel + 1, place =>
      if place.sees [.blockEntry] then do
        let (item, place) ←
          readUnless handles true false [.blockEntry, .key, .value, .blockEnd] fuel place.skip
        let (items, place) ← readHyphens handles fuel place
        some (item :: items, place)
      else some ([], place)

/-- The entries of a block mapping. -/
def readBlockEntries (handles : Handles) : Nat → Place → Option (List (Node × Node) × Place)
  | 0, _ => none
  | fuel + 1, place =>
      if place.sees [.blockEnd] then some ([], place.skip)
      else do
        let ends : List Token := [.key, .value, .blockEnd]
        let place : Place ← place.expect? .key
        let (key, place) ← readUnless handles true true ends fuel place
        let (value, place) ← readValue handles true ends fuel place
        let (entries, place) ← readBlockEntries handles fuel place
        some ((key, value) :: entries, place)

/-- The items of a sequence in brackets; an item may be an entry, which is a map by
itself. An entry without a key skips the token that shows it. -/
def readFlowItems (handles : Handles) (first : Bool) : Nat → Place → Option (List Node × Place)
  | 0, _ => none
  | fuel + 1, place =>
      if place.sees [.flowSequenceEnd] then some ([], place.skip)
      else do
        let place : Place ← if first then some place else place.expect? .flowEntry
        if place.sees [.flowSequenceEnd] then some ([], place.skip)
        else
          let ends : List Token := [.flowEntry, .flowSequenceEnd]
          let (item, place) ←
            if place.sees [.key] then do
              let place := place.skip
              let (key, place) ←
                if place.sees (.value :: ends) then some (absent, place.skip)
                else read handles false false fuel place
              let (value, place) ← readValue handles false ends fuel place
              some (.map ⟨none, none⟩ [(key, value)], place)
            else read handles false false fuel place
          let (items, place) ← readFlowItems handles false fuel place
          some (item :: items, place)

/-- The entries of a mapping in braces; a key may stand alone. -/
def readFlowEntries (handles : Handles) (first : Bool) :
    Nat → Place → Option (List (Node × Node) × Place)
  | 0, _ => none
  | fuel + 1, place =>
      if place.sees [.flowMappingEnd] then some ([], place.skip)
      else do
        let place : Place ← if first then some place else place.expect? .flowEntry
        if place.sees [.flowMappingEnd] then some ([], place.skip)
        else
          let ends : List Token := [.flowEntry, .flowMappingEnd]
          let (key, value, place) ←
            if place.sees [.key] then do
              let (key, place) ← readUnless handles false false (.value :: ends) fuel place.skip
              let (value, place) ← readValue handles false ends fuel place
              some (key, value, place)
            else
              (read handles false false fuel place).map fun (key, place) => (key, absent, place)
          let (entries, place) ← readFlowEntries handles false fuel place
          some ((key, value) :: entries, place)

end

/-! ## Documents -/

/-- The handles that need no directive. -/
def standardHandles : Handles :=
  [("!", "!"), ("!!", coreAddress)]

/-- The directives in front of a document: one version at most, 1.1 or 1.2, and every
handle once. -/
def readDirectives : Bool → Handles → List Token → Option (Handles × List Token)
  | versioned, handles, .directive (.version major minor) :: rest =>
      if versioned || major != 1 || (minor != 1 && minor != 2) then none
      else readDirectives true handles rest
  | versioned, handles, .directive (.handle name address) :: rest =>
      if handles.any (·.1 == name) then none
      else readDirectives versioned (handles ++ [(name, address)]) rest
  | _, handles, tokens => some (handles ++ standardHandles, tokens)

/-- The tokens that end a document. -/
def endsDocument : Token → Bool
  | .directive _ | .documentStart | .documentEnd => true
  | _ => false

/-- The node of a document, and the tokens behind it. -/
def readDocument? (tokens : List Token) : Option (Node × List Token) := do
  let (handles, rest) ← readDirectives false [] tokens
  let content ← match tokens, rest with
    | _, .documentStart :: content => some content
    | .directive _ :: _, _ => none
    | _, _ => some rest
  let explicit := rest.length != content.length
  if explicit && (content.isEmpty || (content.take 1).any endsDocument) then some (absent, content)
  else
    let (node, place) ← read handles true false (4 * content.length + 4) ⟨content, []⟩
    some (node, place.tokens)

/-- The node of the only document; nothing at all is an absent node. -/
def ofTokens? : List Token → Option Node
  | [] => some absent
  | tokens => do
      let (node, rest) ← readDocument? tokens
      if rest.all (· == .documentEnd) then some node else none

end Node

end Reshape.Yaml
