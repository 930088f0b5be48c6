/-
Module: Reshape.Json.Printer
Purpose: JSON values as text, compact and indented.
Main exports: Json.compact, Json.indented, Json.quote
Trusted boundary: stands for the printer of JSON that the program is given and that is no part of it
-/
import Reshape.Json.Basic
import Reshape.Decimal.Layout

namespace Reshape.Json

/-- A hexadecimal digit in lower case. -/
def hexDigit (n : Nat) : Char :=
  Nat.digitChar n

/-- A character inside a quoted string: the two delimiters and the characters
below U+0020 are escaped, all others stand for themselves. -/
def escapeChar (c : Char) : List Char :=
  match c with
  | '"' => ['\\', '"']
  | '\\' => ['\\', '\\']
  | '\x08' => ['\\', 'b']
  | '\x0c' => ['\\', 'f']
  | '\n' => ['\\', 'n']
  | '\r' => ['\\', 'r']
  | '\t' => ['\\', 't']
  | _ =>
      if c.toNat < 0x20 then
        ['\\', 'u', '0', '0', hexDigit (c.toNat / 16), hexDigit (c.toNat % 16)]
      else [c]

/-- A string in quotes. -/
def quote (s : String) : List Char :=
  '"' :: s.toList.flatMap escapeChar ++ ['"']

/-- A number; a double always shows a point or an exponent. -/
def Number.write : Number → String
  | .integer value _ => toString value
  | .double value => Layout.jsonText.write value

mutual

/-- Text without any blanks, followed by `rest`. -/
def compactOnto (rest : List Char) : Json → List Char
  | .null => "null".toList ++ rest
  | .bool b => (if b then "true".toList else "false".toList) ++ rest
  | .number n => n.write.toList ++ rest
  | .string s => quote s ++ rest
  | .array items => '[' :: compactItems rest items
  | .object members => '\x7b' :: compactMembers rest members

/-- Items up to the closing bracket. -/
def compactItems (rest : List Char) : List Json → List Char
  | [] => ']' :: rest
  | [item] => item.compactOnto (']' :: rest)
  | item :: more => item.compactOnto (',' :: compactItems rest more)

/-- Members up to the closing brace. -/
def compactMembers (rest : List Char) : List (String × Json) → List Char
  | [] => '\x7d' :: rest
  | [(key, value)] => quote key ++ ':' :: value.compactOnto ('\x7d' :: rest)
  | (key, value) :: more =>
      quote key ++ ':' :: value.compactOnto (',' :: compactMembers rest more)

end

/-- JSON text without blanks. -/
def compact (v : Json) : String :=
  String.ofList (v.compactOnto [])

/-- A line break followed by two blanks for every level. -/
def newline (depth : Nat) : List Char :=
  '\n' :: List.replicate (2 * depth) ' '

mutual

/-- Text with one item or member a line, followed by `rest`. -/
def indentedOnto (depth : Nat) (rest : List Char) : Json → List Char
  | .array [] => "[]".toList ++ rest
  | .array items => '[' :: newline (depth + 1) ++ indentedItems depth rest items
  | .object [] => "\x7b\x7d".toList ++ rest
  | .object members => '\x7b' :: newline (depth + 1) ++ indentedMembers depth rest members
  | other => other.compactOnto rest

/-- Items up to the closing bracket, which stands on a line of its own. -/
def indentedItems (depth : Nat) (rest : List Char) : List Json → List Char
  | [] => newline depth ++ ']' :: rest
  | [item] => item.indentedOnto (depth + 1) (newline depth ++ ']' :: rest)
  | item :: more =>
      item.indentedOnto (depth + 1) (',' :: newline (depth + 1) ++ indentedItems depth rest more)

/-- Members up to the closing brace, which stands on a line of its own. -/
def indentedMembers (depth : Nat) (rest : List Char) : List (String × Json) → List Char
  | [] => newline depth ++ '\x7d' :: rest
  | [(key, value)] =>
      quote key ++ ':' :: ' ' :: value.indentedOnto (depth + 1) (newline depth ++ '\x7d' :: rest)
  | (key, value) :: more =>
      quote key ++ ':' :: ' ' ::
        value.indentedOnto (depth + 1)
          (',' :: newline (depth + 1) ++ indentedMembers depth rest more)

end

/-- JSON text with two blanks a level; empty arrays and objects stay on one line. -/
def indented (v : Json) : String :=
  String.ofList (v.indentedOnto 0 [])

end Reshape.Json
