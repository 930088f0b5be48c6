/-
Module: Reshape.Yaml.Printer
Purpose: JSON values as YAML text.
Main exports: Yaml.Style, Yaml.styleOf, Json.yaml
Trusted boundary: stands for the printer of YAML that the program is given and that is no part of it
-/
import Reshape.Json.Printer
import Reshape.Yaml.Cursor
import Reshape.Yaml.Scalar

/-!
# YAML text

Collections are written in blocks with two columns a level, items of a sequence at the
column of the key that they stand under. A string is plain where it reads back as itself,
literal where it has several lines, and quoted otherwise. Lines have no bound on their
length.
-/

namespace Reshape.Yaml

/-! ## Styles -/

/-- How a string is written. -/
inductive Style where
  | plain
  | single
  | double
  | literal
  deriving DecidableEq, Repr

/-- The characters that stand for themselves outside of double quotes. -/
def isPrintable (c : Char) : Bool :=
  c == '\n' || (' ' ≤ c && c ≤ '~') ||
    ('\u00a0' ≤ c && c != '\ufeff' && c != '\ufffe' && c != '\uffff')

/-- The signs that mean something at the start of a plain scalar. -/
def isLeadingSign (c : Char) : Bool :=
  ['#', ',', '[', ']', '\x7b', '\x7d', '&', '*', '!', '|', '>', '\'', '"', '%', '@', '\x60'].contains c

/-- Whether text would not be read as a plain scalar because of what it starts with. -/
def startsWithSign (s : List Char) : Bool :=
  s.take 3 == ['-', '-', '-'] || s.take 3 == ['.', '.', '.'] || (s.take 1).any isLeadingSign ||
    (['?', '-'].contains (s.headD ' ') && startsBlank (s.drop 1))

/-- Whether a colon or a comment sign inside of text would end a plain scalar; `blank`
tells whether a blank stands in front. -/
def holdsSign : Bool → List Char → Bool
  | _, [] => false
  | blank, c :: rest =>
      (c == ':' && startsBlank rest) || (c == '#' && blank) ||
        holdsSign (isBlank c || isBreak c) rest

/-- Whether two adjacent characters fulfil a condition. -/
def anyAdjacent (p : Char → Char → Bool) (s : List Char) : Bool :=
  (s.zip (s.drop 1)).any fun (c, d) => p c d

/-- Whether a blank stands in front of a break. -/
def hasTrailingBlank (s : List Char) : Bool :=
  anyAdjacent (fun c d => c == ' ' && isBreak d) s

/-- Whether a blank stands behind a break. -/
def hasIndentedLine (s : List Char) : Bool :=
  anyAdjacent (fun c d => isBreak c && d == ' ') s

def startsWith (p : Char → Bool) (s : List Char) : Bool :=
  s.head?.any p

def endsWith (p : Char → Bool) (s : List Char) : Bool :=
  s.getLast?.any p

/-- Whether only double quotes can hold a text. -/
def needsDouble (s : List Char) : Bool :=
  !s.all isPrintable || hasTrailingBlank s

/-- Whether a plain scalar can hold a text. -/
def fitsPlain (s : List Char) : Bool :=
  !(s.any isBreak || startsWith (· == ' ') s || endsWith (· == ' ') s || startsWithSign s ||
    holdsSign false s)

/-- The style of a string. -/
def styleOf (text : String) : Style :=
  let s := text.toList
  if s.contains '\n' then
    if needsDouble s || endsWith (· == ' ') s then .double else .literal
  else if needsDouble s then .double
  else if !isAmbiguous text && fitsPlain s then .plain
  else if hasIndentedLine s then .double
  else .single

/-! ## Scalars -/

/-- A hexadecimal digit in upper case. -/
def upperHexDigit (n : Nat) : Char :=
  (Nat.digitChar n).toUpper

/-- A code in a given number of hexadecimal digits. -/
def upperHex : Nat → Nat → List Char
  | 0, _ => []
  | width + 1, n => upperHex width (n / 16) ++ [upperHexDigit (n % 16)]

/-- A character in double quotes. -/
def escapeChar (c : Char) : List Char :=
  match c with
  | '\x00' => ['\\', '0']
  | '\x07' => ['\\', 'a']
  | '\x08' => ['\\', 'b']
  | '\t' => ['\\', 't']
  | '\n' => ['\\', 'n']
  | '\x0b' => ['\\', 'v']
  | '\x0c' => ['\\', 'f']
  | '\r' => ['\\', 'r']
  | '\x1b' => ['\\', 'e']
  | '"' => ['\\', '"']
  | '\\' => ['\\', '\\']
  | '\u0085' => ['\\', 'N']
  | '\u2028' => ['\\', 'L']
  | '\u2029' => ['\\', 'P']
  | _ =>
      if isPrintable c then [c]
      else if c.toNat ≤ 0xff then '\\' :: 'x' :: upperHex 2 c.toNat
      else '\\' :: 'u' :: upperHex 4 c.toNat

/-- Blanks up to a column. -/
def pad (column : Nat) : List Char :=
  List.replicate column ' '

/-- Text with the characters of each line, and not its break, behind `column` blanks;
`atStart` tells whether it starts a line. -/
def indentLines (column : Nat) : Bool → List Char → List Char
  | _, [] => []
  | atStart, c :: rest =>
      if isBreak c then c :: indentLines column true rest
      else (if atStart then pad column else []) ++ c :: indentLines column false rest

/-- Text between single quotes; the lines behind a break are indented. -/
def singleQuoted (column : Nat) (s : List Char) : List Char :=
  '\'' :: indentLines column false (s.flatMap fun c => if c == '\'' then ['\'', '\''] else [c]) ++
    (if endsWith isBreak s then pad column else []) ++ ['\'']

/-- The signs of a literal scalar: two for the indent when the text starts with a blank or
a break, then what to do with the breaks at its end. -/
def literalHeader (s : List Char) : List Char :=
  let indent := if startsWith (fun c => c == ' ' || isBreak c) s then ['2'] else []
  let chomping :=
    match s.reverse with
    | last :: before :: _ => if !isBreak last then ['-'] else if isBreak before then ['+'] else []
    | [last] => if isBreak last then ['+'] else ['-']
    | [] => ['-']
  '|' :: indent ++ chomping

/-- A string whose further lines start at `column`. -/
def writeString (column : Nat) (text : String) : List Char :=
  let s := text.toList
  match styleOf text with
  | .plain => s
  | .single => singleQuoted column s
  | .double => '"' :: s.flatMap escapeChar ++ ['"']
  | .literal => literalHeader s ++ '\n' :: indentLines column true s

def writeNumber : Json.Number → List Char
  | .integer value _ => (toString value).toList
  | .double value => (Layout.yamlText.write value).toList

/-- A value that is no collection, whose further lines start at `column`. -/
def writeFlat (column : Nat) : Json → List Char
  | .bool b => if b then "true".toList else "false".toList
  | .number n => writeNumber n
  | .string s => writeString column s
  | _ => "null".toList

/-! ## Blocks -/

/-- End the line, unless text has ended it. -/
def endLine (s : List Char) : List Char :=
  if endsWith isBreak s then s else s ++ ['\n']

/-- The longest key, in UTF-8, that stands in front of its colon on one line. -/
def maxKeyLength : Nat := 128

/-- Whether a key stands on one line with its colon. -/
def isSimpleKey (key : String) : Bool :=
  !key.toList.any isBreak && key.utf8ByteSize ≤ maxKeyLength

mutual

/-- Whole lines for a value that starts at `column`. -/
def writeHere (column : Nat) : Json → List Char
  | .array items => if items.isEmpty then "[]\n".toList else writeItems column true items
  | .object entries =>
      if entries.isEmpty then "\x7b\x7d\n".toList else writeEntries column true entries
  | other => endLine (writeFlat column other)

/-- Whole lines for what stands behind a key at `column` and its colon: the items of a
sequence at the same column, the entries of a mapping further right. -/
def afterKey (column : Nat) : Json → List Char
  | .array items =>
      if items.isEmpty then " []\n".toList else '\n' :: writeItems column false items
  | .object entries =>
      if entries.isEmpty then " \x7b\x7d\n".toList
      else '\n' :: writeEntries (column + 2) false entries
  | other => ' ' :: endLine (writeFlat (column + 2) other)

/-- The lines of a sequence; the blanks in front of the first one are left out if
asked for. -/
def writeItems (column : Nat) (here : Bool) : List Json → List Char
  | [] => []
  | item :: rest =>
      (if here then [] else pad column) ++ '-' :: ' ' :: writeHere (column + 2) item ++
        writeItems column false rest

/-- The lines of a mapping; the blanks in front of the first one are left out if asked
for. -/
def writeEntries (column : Nat) (here : Bool) : List (String × Json) → List Char
  | [] => []
  | (key, value) :: rest =>
      (if here then [] else pad column) ++
        (if isSimpleKey key then
          writeString (column + 2) key ++ ':' :: afterKey column value
        else
          '?' :: ' ' :: endLine (writeString (column + 2) key) ++ pad column ++
            ':' :: ' ' :: writeHere (column + 2) value) ++
        writeEntries column false rest

end

end Reshape.Yaml

namespace Reshape.Json

/-- The lines of a YAML document. -/
def yaml : Json → String
  | .string s => String.ofList (Yaml.endLine (Yaml.writeString 2 s))
  | other => String.ofList (Yaml.writeHere 0 other)

end Reshape.Json
