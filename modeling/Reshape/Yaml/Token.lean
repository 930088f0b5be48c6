/-
Module: Reshape.Yaml.Token
Purpose: the tokens of YAML text, with the structure that indentation and simple keys
  imply made explicit.
Main exports: Yaml.Token, Yaml.tokenize?
Trusted boundary: stands for the parser of YAML that the program is given and that is no part of it
-/
import Reshape.Yaml.ScalarText
import Reshape.Yaml.Tag

/-!
# Tokens of YAML text

Indentation becomes tokens at the start and the end of block collections. Whether a
text is a key shows only at the colon behind it, so every place where a key may have
started is kept until then; the tokens for it go in front of the text. Such a key stands
on one line and is at most 1024 characters long.
-/

namespace Reshape.Yaml

inductive Token where
  | directive (directive : Directive)
  | documentStart
  | documentEnd
  | blockSequenceStart
  | blockMappingStart
  | blockEnd
  | flowSequenceStart
  | flowSequenceEnd
  | flowMappingStart
  | flowMappingEnd
  | blockEntry
  | flowEntry
  | key
  | value
  | alias (name : String)
  | anchor (name : String)
  | tag (tag : WrittenTag)
  | scalar (plain : Bool) (text : String)
  deriving DecidableEq, Repr

/-- A place where a key may have started. -/
structure KeyStart where
  /-- The number of tokens in front of it. -/
  number : Nat
  line : Nat
  index : Nat
  column : Nat
  /-- Nothing but a key can stand here. -/
  required : Bool

/-- Tokens so far and the state between them. -/
structure Scan where
  cursor : Cursor
  /-- The tokens so far, last one first. -/
  tokens : List Token
  /-- The column of the innermost block collection, −1 outside of all. -/
  indent : Int
  /-- The columns of the block collections around it. -/
  indents : List Int
  /-- Where a key may have started, within the innermost brackets. -/
  keyStart : Option KeyStart
  /-- The same for every pair of brackets around them, and for the block outside of all. -/
  outerKeyStarts : List (Option KeyStart)
  /-- Whether a key may start here. -/
  keyAllowed : Bool

namespace Scan

/-- The state before a text. A byte order mark at its start takes up a column. -/
def start (text : List Char) : Scan :=
  let cursor := Cursor.start text
  let cursor := if text.take 1 = ['\ufeff'] then cursor.advance 1 else cursor
  ⟨cursor, [], -1, [], none, [], true⟩

/-- Whether the place is inside of brackets. -/
def inFlow (scan : Scan) : Bool :=
  !scan.outerKeyStarts.isEmpty

/-- Add a token and go to the place behind it. -/
def pushUpTo (token : Token) (cursor : Cursor) (scan : Scan) : Scan :=
  { scan with tokens := token :: scan.tokens, cursor := cursor }

/-! ## Blanks -/

/-- The place of the next token and whether a key may start there. A tab may stand in
front of it only where no key may start. -/
def skipGap (flow : Bool) : Nat → Bool → Cursor → Bool × Cursor
  | 0, keyAllowed, cursor => (keyAllowed, cursor)
  | fuel + 1, keyAllowed, cursor =>
      let here := (cursor.skipWhile fun c => c == ' ' || ((flow || !keyAllowed) && c == '\t')).skipComment
      match here.takeBreak? with
      | some (_, after) => skipGap flow fuel (keyAllowed || !flow) after
      | none => (keyAllowed, here)

def toNextToken (scan : Scan) : Scan :=
  let (keyAllowed, cursor) :=
    skipGap scan.inFlow (scan.cursor.rest.length + 1) scan.keyAllowed scan.cursor
  { scan with keyAllowed, cursor }

/-! ## Keys -/

/-- Give up a place where a key may have started. -/
def KeyStart.giveUp? (keyStart : Option KeyStart) : Option (Option KeyStart) :=
  if keyStart.any (·.required) then none else some none

/-- Give up a place that a key cannot have started at any more. -/
def KeyStart.review? (cursor : Cursor) (keyStart : Option KeyStart) : Option (Option KeyStart) :=
  if keyStart.any fun k => k.line < cursor.line || k.index + 1024 < cursor.index then
    KeyStart.giveUp? keyStart
  else some keyStart

/-- Give up all places that keys cannot have started at any more. -/
def reviewKeys? (scan : Scan) : Option Scan := do
  let keyStart ← KeyStart.review? scan.cursor scan.keyStart
  let outerKeyStarts ← scan.outerKeyStarts.mapM (KeyStart.review? scan.cursor)
  some { scan with keyStart, outerKeyStarts }

/-- Give up the place within the innermost brackets. -/
def dropKey? (scan : Scan) : Option Scan := do
  let keyStart ← KeyStart.giveUp? scan.keyStart
  some { scan with keyStart }

/-- Note that a key may start here. -/
def saveKey? (scan : Scan) : Option Scan :=
  if scan.keyAllowed then do
    let scan ← scan.dropKey?
    let keyStart := some {
      number := scan.tokens.length
      line := scan.cursor.line
      index := scan.cursor.index
      column := scan.cursor.column
      required := !scan.inFlow && scan.indent == scan.cursor.column }
    some { scan with keyStart }
  else some scan

/-! ## Indentation -/

/-- End the block collections that stand further right than `column`. -/
def endBlocks (column : Int) (indent : Int) (tokens : List Token) : List Int → Int × List Int × List Token
  | [] => (indent, [], tokens)
  | outer :: rest =>
      if column < indent then endBlocks column outer (.blockEnd :: tokens) rest
      else (indent, outer :: rest, tokens)

/-- End the block collections that a token at `column` does not belong to. -/
def unindent (column : Int) (scan : Scan) : Scan :=
  if scan.inFlow then scan
  else
    let (indent, indents, tokens) := endBlocks column scan.indent scan.tokens scan.indents
    { scan with indent, indents, tokens }

/-- Put tokens, the last one first, in front of those from `number` on. -/
def insertAt (number : Nat) (inserted tokens : List Token) : List Token :=
  let later := tokens.length - number
  tokens.take later ++ inserted ++ tokens.drop later

/-- Put a token in front of those from `number` on, and start a block collection there
when the column is further right than the one it stands in. -/
def openBlock (first : Token) (column number : Nat) (after : List Token) (scan : Scan) : Scan :=
  if !scan.inFlow && scan.indent < column then
    { scan with
      indent := column
      indents := scan.indent :: scan.indents
      tokens := insertAt number (after ++ [first]) scan.tokens }
  else { scan with tokens := insertAt number after scan.tokens }

/-- Start a block collection here, when this column is further right. -/
def openBlockHere (first : Token) (scan : Scan) : Scan :=
  scan.openBlock first scan.cursor.column scan.tokens.length []

/-! ## Signs -/

/-- The place one character further on. -/
def next (scan : Scan) : Cursor :=
  scan.cursor.advance 1

/-- A document marker. -/
def marker? (token : Token) (scan : Scan) : Option Scan := do
  let scan ← (scan.unindent (-1)).dropKey?
  some { scan.pushUpTo token (scan.cursor.advance 3) with keyAllowed := false }

def directive? (scan : Scan) : Option Scan := do
  let scan ← (scan.unindent (-1)).dropKey?
  let (directive, after) ← readDirective scan.next
  some { scan.pushUpTo (.directive directive) after with keyAllowed := false }

/-- An opening bracket. -/
def openFlow? (token : Token) (scan : Scan) : Option Scan := do
  let scan ← scan.saveKey?
  some { scan.pushUpTo token scan.next with
    keyStart := none
    outerKeyStarts := scan.keyStart :: scan.outerKeyStarts
    keyAllowed := true }

/-- A closing bracket. -/
def closeFlow? (token : Token) (scan : Scan) : Option Scan := do
  let scan ← scan.dropKey?
  let closed := { scan.pushUpTo token scan.next with keyAllowed := false }
  match scan.outerKeyStarts with
  | [] => some closed
  | keyStart :: outerKeyStarts => some { closed with keyStart, outerKeyStarts }

/-- A comma. -/
def flowEntry? (scan : Scan) : Option Scan := do
  let scan ← scan.dropKey?
  some { scan.pushUpTo .flowEntry scan.next with keyAllowed := true }

/-- A hyphen. -/
def blockEntry? (scan : Scan) : Option Scan := do
  if !scan.inFlow && !scan.keyAllowed then none
  let scan ← (scan.openBlockHere .blockSequenceStart).dropKey?
  some { scan.pushUpTo .blockEntry scan.next with keyAllowed := true }

/-- A question mark. -/
def key? (scan : Scan) : Option Scan := do
  if !scan.inFlow && !scan.keyAllowed then none
  let scan ← (scan.openBlockHere .blockMappingStart).dropKey?
  some { scan.pushUpTo .key scan.next with keyAllowed := !scan.inFlow }

/-- A colon: what stands in front of it on the line is a key, or it belongs to a key
behind a question mark. -/
def value? (scan : Scan) : Option Scan :=
  match scan.keyStart with
  | some start =>
      let scan := scan.openBlock .blockMappingStart start.column start.number [.key]
      some { scan.pushUpTo .value scan.next with keyStart := none, keyAllowed := false }
  | none =>
      if !scan.inFlow && !scan.keyAllowed then none
      else
        let scan := scan.openBlockHere .blockMappingStart
        some { scan.pushUpTo .value scan.next with keyAllowed := !scan.inFlow }

/-! ## Names and scalars -/

/-- An alias or an anchor. -/
def name? (token : String → Token) (scan : Scan) : Option Scan := do
  let scan ← scan.saveKey?
  let (name, after) ← readAnchor scan.next
  some { scan.pushUpTo (token name) after with keyAllowed := false }

def tag? (scan : Scan) : Option Scan := do
  let scan ← scan.saveKey?
  let (tag, after) ← readTag scan.inFlow scan.cursor
  some { scan.pushUpTo (.tag tag) after with keyAllowed := false }

def block? (literal : Bool) (scan : Scan) : Option Scan := do
  let scan ← scan.dropKey?
  let (text, after) ← readBlock literal scan.indent scan.next
  some { scan.pushUpTo (.scalar false (String.ofList text)) after with keyAllowed := true }

def quoted? (double : Bool) (scan : Scan) : Option Scan := do
  let scan ← scan.saveKey?
  let (text, after) ← readQuoted double (scan.cursor.rest.length + 2) [] scan.next
  some { scan.pushUpTo (.scalar false (String.ofList text)) after with keyAllowed := false }

/-- Plain text; a key may start behind it on a new line. -/
def plain? (scan : Scan) : Option Scan := do
  let scan ← scan.saveKey?
  let (text, after, broken) ←
    readPlain scan.inFlow (scan.indent + 1) (scan.cursor.rest.length + 2) [] .none scan.cursor
  some { scan.pushUpTo (.scalar true (String.ofList text)) after with keyAllowed := broken }

/-! ## The next token -/

/-- The signs that plain text does not start with. -/
def isSign (c : Char) : Bool :=
  ['-', '?', ':', ',', '[', ']', '\x7b', '\x7d', '#', '&', '*', '!', '|', '>', '\'', '"', '%', '@',
    '\x60'].contains c

/-- Whether plain text starts here: without a sign, with a hyphen in front of other text,
or, outside of brackets, with a question mark or colon in front of other text. -/
def startsPlain (flow : Bool) : List Char → Bool
  | [] => false
  | c :: rest =>
      !(isBlank c || isBreak c || isSign c) || (c == '-' && !(rest.take 1).any isBlank) ||
        (!flow && (c == '?' || c == ':') && !startsBlank rest)

/-- The token at a place, by its first character. -/
def token? (scan : Scan) : Option Scan :=
  let cursor := scan.cursor
  let flow := scan.inFlow
  let separate := startsBlank (cursor.rest.drop 1)
  match cursor.rest with
  | [] => none
  | c :: _ =>
      if c == '%' && cursor.column == 0 then scan.directive?
      else if cursor.atMarker '-' then scan.marker? .documentStart
      else if cursor.atMarker '.' then scan.marker? .documentEnd
      else if c == '[' then scan.openFlow? .flowSequenceStart
      else if c == '\x7b' then scan.openFlow? .flowMappingStart
      else if c == ']' then scan.closeFlow? .flowSequenceEnd
      else if c == '\x7d' then scan.closeFlow? .flowMappingEnd
      else if c == ',' then scan.flowEntry?
      else if c == '-' && separate then scan.blockEntry?
      else if c == '?' && (flow || separate) then scan.key?
      else if c == ':' && (flow || separate) then scan.value?
      else if c == '*' then scan.name? .alias
      else if c == '&' then scan.name? .anchor
      else if c == '!' then scan.tag?
      else if c == '|' && !flow then scan.block? true
      else if c == '>' && !flow then scan.block? false
      else if c == '\'' then scan.quoted? false
      else if c == '"' then scan.quoted? true
      else if startsPlain flow cursor.rest then scan.plain?
      else none

/-- All tokens from a place on, last one first. At the end of the text all blocks end, and
no key may be pending that has to be one. -/
def run? : Nat → Scan → Option (List Token)
  | 0, _ => none
  | fuel + 1, scan => do
      let scan ← scan.toNextToken.reviewKeys?
      if scan.cursor.rest.isEmpty then
        let scan ← (scan.unindent (-1)).dropKey?
        some scan.tokens
      else
        let scan ← (scan.unindent scan.cursor.column).token?
        run? fuel scan

end Scan

/-- The tokens of a text. -/
def tokenize? (text : List Char) : Option (List Token) :=
  if text.all isAllowed then
    (Scan.run? (text.length + 2) (Scan.start text)).map List.reverse
  else none

end Reshape.Yaml
