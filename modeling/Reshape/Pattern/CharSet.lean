/-
Module: Reshape.Pattern.CharSet
Purpose: sets of characters as patterns describe them.
Main exports: CharSet, CharSet.mem, CharSet.property?
Trusted boundary: stands in for a library of patterns, which is no part of the program; what is
  proved of programs holds for any such library
-/
import Reshape.Pattern.Category
import Reshape.Pattern.Script
import Reshape.Pattern.Trait
import Reshape.Text.Blank
import Reshape.Text.CaseFold
import Reshape.Text.Word

namespace Reshape.Pattern

open Reshape.Text

/-- A set of characters. -/
inductive CharSet where
  | ranges (ranges : List CharRange)
  | except (set : CharSet)
  | union (left right : CharSet)
  | both (left right : CharSet)
  /-- Any character that differs from a member in letter case only. -/
  | anyCase (set : CharSet)
  /-- As `anyCase`, among the ASCII letters. -/
  | anyAsciiCase (set : CharSet)

namespace CharSet

/-- The letter of the other case, among the ASCII letters. -/
def otherAsciiCase (c : Char) : Char :=
  if c.isUpper then c.toLower else c.toUpper

def mem : CharSet → Char → Bool
  | .ranges rs, c => CharRange.covers rs c.toNat
  | .except set, c => !set.mem c
  | .union left right, c => left.mem c || right.mem c
  | .both left right, c => left.mem c && right.mem c
  | .anyCase set, c => (caseVariants c).any set.mem
  | .anyAsciiCase set, c => set.mem c || set.mem (otherAsciiCase c)

def empty : CharSet := .ranges []

def all : CharSet := .ranges [(0, 0x10ffff)]

def single (c : Char) : CharSet := .ranges [(c.toNat, c.toNat)]

def difference (left right : CharSet) : CharSet := .both left (.except right)

def symmetricDifference (left right : CharSet) : CharSet :=
  .union (difference left right) (difference right left)

/-- Decimal digits of every script. -/
def digits : CharSet := .ranges digitRanges

def blanks : CharSet := .ranges blankRanges

/-- The ASCII word characters. -/
def asciiWord : CharSet := .ranges [(0x30, 0x39), (0x41, 0x5a), (0x5f, 0x5f), (0x61, 0x7a)]

/-- Word characters of every script. -/
def word : CharSet := .union asciiWord (.ranges wordRanges)

def asciiDigits : CharSet := .ranges [(0x30, 0x39)]

def asciiBlanks : CharSet := .ranges [(0x9, 0xd), (0x20, 0x20)]

/-- A set whose members all have the general category of one of the given names. -/
def categoryUnion (names : List String) : CharSet :=
  names.foldr (fun name acc =>
    match categories.find? (·.names.contains name) with
    | some set => .union (.ranges set.ranges) acc
    | none => acc) empty

/-- The groups of general categories. -/
def categoryGroups : List (List String × List String) := [
  (["l", "letter"], ["lu", "ll", "lt", "lm", "lo"]),
  (["lc", "casedletter"], ["lu", "ll", "lt"]),
  (["m", "mark", "combiningmark"], ["mn", "mc", "me"]),
  (["n", "number"], ["nd", "nl", "no"]),
  (["p", "punctuation", "punct"], ["pc", "pd", "ps", "pe", "pi", "pf", "po"]),
  (["s", "symbol"], ["sm", "sc", "sk", "so"]),
  (["z", "separator"], ["zs", "zl", "zp"])]

/-- The assigned characters. -/
def assigned : CharSet :=
  categoryUnion ["lu", "ll", "lt", "lm", "lo", "mn", "mc", "me", "nd", "nl", "no", "pc", "pd",
    "ps", "pe", "pi", "pf", "po", "sm", "sc", "sk", "so", "zs", "zl", "zp", "cc", "cf", "co"]

/-- A general category, a group of them, or one of the three sets that go with them. -/
def category? (name : String) : Option CharSet :=
  match categoryGroups.find? (·.1.contains name) with
  | some group => some (categoryUnion group.2)
  | none =>
      if (categories.find? (·.names.contains name)).isSome then some (categoryUnion [name])
      else if name = "any" then some all
      else if name = "assigned" then some assigned
      else if name = "ascii" then some (.ranges [(0, 0x7f)])
      else if name = "cn" ∨ name = "unassigned" then some (.except assigned)
      else if name = "c" ∨ name = "other" then
        some (.union (.except assigned) (categoryUnion ["cc", "cf", "co"]))
      else none

def find? (sets : List NamedRanges) (name : String) : Option CharSet :=
  (sets.find? (·.names.contains name)).map fun set => .ranges set.ranges

/-- A name as it is looked up: in small letters, without blanks, hyphens and
underscores, and without a leading `is`. -/
def looseName (s : List Char) : String :=
  let kept := (s.filter fun c => c.toNat < 0x80 && !(c == ' ' || c == '_' || c == '-')).map Char.toLower
  let stripped := match (s.take 2).map Char.toLower with
    | ['i', 's'] => kept.drop 2
    | _ => kept
  -- The name `isc` is the one that would be taken for the category `c`.
  String.ofList (if kept == ['i', 's', 'c'] then kept else stripped)

/-- The set that a property has by its name alone. -/
def property? (text : List Char) : Option CharSet :=
  let name := looseName text
  if name = "cf" ∨ name = "sc" ∨ name = "lc" then category? name
  else (find? traits name).orElse fun _ => (category? name).orElse fun _ => find? scripts name

/-- The set that a property has by a kind and a value. -/
def propertyValue? (kind value : List Char) : Option CharSet :=
  let kindName := looseName kind
  let name := looseName value
  if kindName = "generalcategory" ∨ kindName = "gc" then category? name
  else if kindName = "script" ∨ kindName = "sc" ∨ kindName = "scriptextensions" ∨ kindName = "scx" then
    find? scripts name
  else none

/-- The ASCII classes that are written with colons. -/
def asciiClass? (name : String) : Option CharSet :=
  let table : List (String × List CharRange) := [
    ("alnum", [(0x30, 0x39), (0x41, 0x5a), (0x61, 0x7a)]),
    ("alpha", [(0x41, 0x5a), (0x61, 0x7a)]),
    ("ascii", [(0, 0x7f)]),
    ("blank", [(0x9, 0x9), (0x20, 0x20)]),
    ("cntrl", [(0, 0x1f), (0x7f, 0x7f)]),
    ("digit", [(0x30, 0x39)]),
    ("graph", [(0x21, 0x7e)]),
    ("lower", [(0x61, 0x7a)]),
    ("print", [(0x20, 0x7e)]),
    ("punct", [(0x21, 0x2f), (0x3a, 0x40), (0x5b, 0x60), (0x7b, 0x7e)]),
    ("space", [(0x9, 0xd), (0x20, 0x20)]),
    ("upper", [(0x41, 0x5a)]),
    ("word", [(0x30, 0x39), (0x41, 0x5a), (0x5f, 0x5f), (0x61, 0x7a)]),
    ("xdigit", [(0x30, 0x39), (0x41, 0x46), (0x61, 0x66)])]
  (table.find? (·.1 == name)).map fun entry => .ranges entry.2

/-- No member beyond ASCII, as is asked of sets that are matched byte by byte. -/
def isAsciiOnly (set : CharSet) : Bool :=
  (List.range 128).all fun i => !set.mem (Char.ofNat (128 + i))

end CharSet

end Reshape.Pattern
