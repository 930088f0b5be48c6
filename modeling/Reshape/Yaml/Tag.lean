/-
Module: Reshape.Yaml.Tag
Purpose: the names in YAML text: anchors, tags, and the directives at its start.
Main exports: Yaml.readAnchor, Yaml.readTag, Yaml.readDirective
Trusted boundary: stands for the parser of YAML that the program is given and that is no part of it
-/
import Reshape.Json.Reader
import Reshape.Yaml.Cursor

/-!
# Anchors, tags and directives

A tag is written in full as `!<address>`, or as a handle and a suffix: `!suffix` with
the handle `!`, `!!suffix`, or `!name!suffix`. A single `!` is a tag without a handle.
-/

namespace Reshape.Yaml

/-- The characters of names. -/
def isNameChar (c : Char) : Bool :=
  c.isAlphanum || c == '-' || c == '_'

/-! ## Anchors -/

/-- The signs that may follow a name directly. -/
def endsName (c : Char) : Bool :=
  ['?', ':', ',', ']', '\x7d', '%', '@', '\x60'].contains c

/-- The name of an anchor and the place behind it. -/
def readAnchor (cursor : Cursor) : Option (String × Cursor) :=
  let name := cursor.rest.takeWhile isNameChar
  let after := cursor.advance name.length
  if name.isEmpty || !(startsBlank after.rest || (after.rest.take 1).any endsName) then none
  else some (String.ofList name, after)

/-! ## Tags -/

/-- The characters of tag addresses; inside of `!<…>` there are three more. -/
def isAddressChar (enclosed : Bool) (c : Char) : Bool :=
  isNameChar c ||
    [';', '/', '?', ':', '@', '&', '=', '+', '$', '.', '%', '!', '~', '*', '\'', '(', ')'].contains c ||
    (enclosed && [',', '[', ']'].contains c)

/-- The number in a percent sign and two hexadecimal digits, and the text behind it. -/
def readOctet : List Char → Option (UInt8 × List Char)
  | '%' :: a :: b :: rest =>
      match Json.hexValue? a, Json.hexValue? b with
      | some high, some low => some (UInt8.ofNat (16 * high + low), rest)
      | _, _ => none
  | _ => none

/-- The number of octets that encode a character, by the first of them. -/
def encodedLength? (octet : UInt8) : Option Nat :=
  if octet < 0x80 then some 1
  else if octet &&& 0xe0 == 0xc0 then some 2
  else if octet &&& 0xf0 == 0xe0 then some 3
  else if octet &&& 0xf8 == 0xf0 then some 4
  else none

/-- A number of octets, and the text behind them. -/
def readOctets : Nat → List Char → Option (List UInt8 × List Char)
  | 0, text => some ([], text)
  | n + 1, text => do
      let (octet, rest) ← readOctet text
      let (more, rest) ← readOctets n rest
      some (octet :: more, rest)

/-- A character written as its octets, and the text behind it. -/
def readEncoded (text : List Char) : Option (List Char × List Char) := do
  let (first, _) ← readOctet text
  let length ← encodedLength? first
  let (octets, rest) ← readOctets length text
  let decoded ← String.fromUTF8? ⟨octets.toArray⟩
  some (decoded.toList, rest)

/-- The longest stretch of address characters, and the text behind it; `fuel` bounds
their number. -/
def readAddress (enclosed : Bool) : Nat → List Char → Option (List Char × List Char)
  | 0, _ => none
  | fuel + 1, text =>
      match text with
      | '%' :: _ => do
          let (decoded, rest) ← readEncoded text
          let (more, rest) ← readAddress enclosed fuel rest
          some (decoded ++ more, rest)
      | c :: rest =>
          if isAddressChar enclosed c then
            (readAddress enclosed fuel rest).map fun (more, rest) => (c :: more, rest)
          else some ([], text)
      | [] => some ([], [])

/-- A handle: a name between exclamation marks, the second of which may be absent when
it is not a handle after all. -/
def readHandle : List Char → Option (List Char × List Char)
  | '!' :: text =>
      let name := text.takeWhile isNameChar
      match text.dropWhile isNameChar with
      | '!' :: rest => some ('!' :: name ++ ['!'], rest)
      | rest => some ('!' :: name, rest)
  | _ => none

/-- A tag as handle and suffix; the handle is empty when the suffix is the whole tag. -/
structure WrittenTag where
  handle : String
  suffix : String
  deriving DecidableEq, Repr

/-- A tag that is written in full, behind `!<`. -/
def readEnclosedTag (text : List Char) : Option (WrittenTag × List Char) :=
  match readAddress true (text.length + 1) text with
  | some (address, '>' :: rest) =>
      if address.isEmpty then none else some (⟨"", String.ofList address⟩, rest)
  | _ => none

/-- A tag with a handle. -/
def readHandledTag (text : List Char) : Option (WrittenTag × List Char) := do
  let (handle, rest) ← readHandle text
  let (address, after) ← readAddress false (rest.length + 1) rest
  if 1 < handle.length && handle.getLast? == some '!' then
    if address.isEmpty then none
    else some (⟨String.ofList handle, String.ofList address⟩, after)
  else
    let suffix := handle.drop 1 ++ address
    if suffix.isEmpty then some (⟨"", "!"⟩, after) else some (⟨"!", String.ofList suffix⟩, after)

/-- A tag and the place behind it; between brackets a comma may follow directly. -/
def readTag (flow : Bool) (cursor : Cursor) : Option (WrittenTag × Cursor) := do
  let (tag, rest) ← match cursor.rest with
    | '!' :: '<' :: text => readEnclosedTag text
    | text => readHandledTag text
  if startsBlank rest || (flow && rest.take 1 == [',']) then
    some (tag, cursor.advance (cursor.rest.length - rest.length))
  else none

/-! ## Directives -/

/-- What the lines in front of a document announce. -/
inductive Directive where
  | version (major minor : Nat)
  /-- A handle stands for the start of an address. -/
  | handle (name : String) (address : String)
  deriving DecidableEq, Repr

/-- Digits of a version number, at most nine of them. -/
def readVersionNumber (text : List Char) : Option (Nat × List Char) :=
  let digits := text.takeWhile Char.isDigit
  if digits.isEmpty || 9 < digits.length then none
  else some (Decimal.ofDigits digits, text.drop digits.length)

def readVersion (text : List Char) : Option (Directive × List Char) := do
  let (major, rest) ← readVersionNumber (text.dropWhile isBlank)
  match rest with
  | '.' :: rest =>
      let (minor, rest) ← readVersionNumber rest
      some (.version major minor, rest)
  | _ => none

def readHandleMeaning (text : List Char) : Option (Directive × List Char) := do
  let (handle, rest) ← readHandle (text.dropWhile isBlank)
  if handle.length != 1 && handle.getLast? != some '!' then none
  if !(rest.take 1).any isBlank then none
  let (address, rest) ← readAddress true (rest.length + 1) (rest.dropWhile isBlank)
  if address.isEmpty || !startsBlank rest then none
  some (.handle (String.ofList handle) (String.ofList address), rest)

/-- A directive behind its percent sign, and the place at the end of its line. -/
def readDirective (cursor : Cursor) : Option (Directive × Cursor) := do
  let name := cursor.rest.takeWhile isNameChar
  let text := cursor.rest.drop name.length
  if !startsBlank text then none
  let (directive, rest) ←
    if name = "YAML".toList then readVersion text
    else if name = "TAG".toList then readHandleMeaning text
    else none
  let after := cursor.advance (cursor.rest.length - rest.length)
  let endOfLine := (after.skipWhile isBlank).skipComment
  if startsBreak endOfLine.rest then some (directive, endOfLine) else none

end Reshape.Yaml
