/-
Module: Reshape.Query.Printer
Purpose: query documents as text.
Main exports: Query.Document.write
Trusted boundary: stands for the printer of query documents that the program is given and that is
  no part of it
-/
import Reshape.Decimal.Layout
import Reshape.Query.Basic
import Reshape.Text.Blank
import Reshape.Text.Search
import Reshape.Text.Split

/-!
# Printing query documents

Every selection stands on its own line, two blanks deeper than what it belongs to,
and an empty line stands between definitions. A string with a line break and nothing
but characters up to U+FFFF is written as a block string.
-/

namespace Reshape.Query

/-- The blanks in front of a line. -/
def indentation (depth : Nat) : List Char :=
  List.replicate (2 * depth) ' '

/-! ## Strings -/

/-- A character that a string holds as itself or by a letter escape. -/
def isPrintable (c : Char) : Bool :=
  c == '\r' || c == '\n' || c == '\t' || (0x20 ≤ c.toNat && c.toNat ≤ 0xffff)

/-- Decimal digits, at least four. -/
def fourDigits (n : Nat) : List Char :=
  let digits := (toString n).toList
  List.replicate (4 - digits.length) '0' ++ digits

/-- A character between quotes. -/
def writeChar (c : Char) : List Char :=
  match c with
  | '\r' => ['\\', 'r']
  | '\n' => ['\\', 'n']
  | '\t' => ['\\', 't']
  | '"' => ['\\', '"']
  | '\\' => ['\\', '\\']
  | _ => if isPrintable c then [c] else '\\' :: 'u' :: fourDigits c.toNat

/-- A line of a block string; blank lines are left empty. -/
def writeBlockLine (depth : Nat) (line : List Char) : List Char :=
  (if line.all Text.isBlank then []
    else indentation depth ++ Text.replaceAll "\"\"\"".toList "\\\"\"\"".toList line) ++ ['\n']

/-- A string, on lines of its own when it has a line break. -/
def writeString (depth : Nat) (s : String) : List Char :=
  let chars := s.toList
  if chars.contains '\n' && chars.all isPrintable then
    "\"\"\"\n".toList ++ (Text.lines chars).flatMap (writeBlockLine (depth + 1)) ++
      indentation depth ++ "\"\"\"".toList
  else '"' :: chars.flatMap writeChar ++ ['"']

/-! ## Values and annotations -/

/-- A double; one beyond the range of decimal digits is a word. -/
def writeDouble (x : Float) : List Char :=
  if Binary.isFinite x then (Layout.plain.write x).toList
  else if x < 0 then "-inf".toList
  else "inf".toList

mutual

/-- A value in a line of the given depth. -/
def writeValue (depth : Nat) : Value → List Char
  | .variable name => '$' :: name.toList
  | .integer i => (toString i).toList
  | .double x => writeDouble x
  | .string s => writeString depth s
  | .bool b => if b then "true".toList else "false".toList
  | .null => "null".toList
  | .enumeration name => name.toList
  | .list items => '[' :: writeItems depth items
  | .object fields => '\x7b' :: writeFields depth fields

/-- Items up to the closing bracket. -/
def writeItems (depth : Nat) : List Value → List Char
  | [] => [']']
  | [item] => writeValue depth item ++ [']']
  | item :: rest => writeValue depth item ++ ',' :: ' ' :: writeItems depth rest

/-- Fields up to the closing brace. -/
def writeFields (depth : Nat) : List (String × Value) → List Char
  | [] => ['\x7d']
  | [(name, value)] => name.toList ++ ':' :: ' ' :: writeValue depth value ++ ['\x7d']
  | (name, value) :: rest =>
      name.toList ++ ':' :: ' ' :: writeValue depth value ++ ',' :: ' ' :: writeFields depth rest

end

/-- Arguments in parentheses; nothing when there are none. -/
def writeArguments (depth : Nat) (arguments : Arguments) : List Char :=
  if arguments.isEmpty then []
  else
    '(' :: [',', ' '].intercalate
      (arguments.map fun (name, value) => name.toList ++ ':' :: ' ' :: writeValue depth value) ++ [')']

/-- Directives, each behind a blank. -/
def writeDirectives (depth : Nat) (directives : List Directive) : List Char :=
  directives.flatMap fun d => ' ' :: '@' :: d.name.toList ++ writeArguments depth d.arguments

/-! ## Selections -/

/-- An opening brace at the end of a line. -/
def openBrace : List Char := ['\x7b', '\n']

/-- A closing brace on a line of its own. -/
def closeBrace (depth : Nat) : List Char :=
  indentation depth ++ ['\x7d', '\n']

mutual

/-- A selection, with its line break. -/
def writeSelection (depth : Nat) : Selection → List Char
  | .field alias? name arguments directives selections =>
      indentation depth ++ (alias?.map fun text => text.toList ++ [':', ' ']).getD [] ++
        name.toList ++ writeArguments depth arguments ++ writeDirectives depth directives ++
        (match selections with
          | [] => ['\n']
          | _ :: _ =>
              ' ' :: openBrace ++ writeSelections (depth + 1) selections ++ closeBrace depth)
  | .spread fragment directives =>
      indentation depth ++ "...".toList ++ fragment.toList ++ writeDirectives depth directives ++
        ['\n']
  | .inline condition directives selections =>
      indentation depth ++ "...".toList ++
        (condition.map fun type => " on ".toList ++ type.toList).getD [] ++
        writeDirectives depth directives ++ ' ' :: openBrace ++
        writeSelections (depth + 1) selections ++ closeBrace depth

def writeSelections (depth : Nat) : List Selection → List Char
  | [] => []
  | selection :: rest => writeSelection depth selection ++ writeSelections depth rest

end

/-! ## Definitions -/

namespace TypeRef

def write : TypeRef → List Char
  | .named name => name.toList
  | .list item => '[' :: item.write ++ [']']
  | .nonNull inner => inner.write ++ ['!']

end TypeRef

namespace Variable

/-- A declaration: name, type and default value. -/
def write (v : Variable) : List Char :=
  '$' :: v.name.toList ++ ':' :: ' ' :: v.type.write ++
    (v.default?.map fun value => " = ".toList ++ writeValue 0 value).getD []

end Variable

namespace OperationKind

def word : OperationKind → String
  | .query => "query"
  | .mutation => "mutation"
  | .subscription => "subscription"

end OperationKind

namespace Header

/-- The part of an operation before its braces. -/
def write (h : Header) : List Char :=
  h.kind.word.toList ++ (h.name.map fun text => ' ' :: text.toList).getD [] ++
    (if h.declared.isEmpty then []
      else '(' :: [',', ' '].intercalate (h.declared.map Variable.write) ++ [')']) ++
    writeDirectives 0 h.directives

end Header

/-- Selections between braces. -/
def writeBlock (selections : List Selection) : List Char :=
  openBrace ++ writeSelections 1 selections ++ closeBrace 0

namespace Definition

def write : Definition → List Char
  | .operation none selections => writeBlock selections
  | .operation (some header) selections => header.write ++ ' ' :: writeBlock selections
  | .fragment name condition directives selections =>
      "fragment ".toList ++ name.toList ++ " on ".toList ++ condition.toList ++
        writeDirectives 0 directives ++ ' ' :: writeBlock selections

end Definition

/-- A document as text. -/
def Document.write (document : Document) : String :=
  String.ofList (['\n'].intercalate (document.map Definition.write))

end Reshape.Query
