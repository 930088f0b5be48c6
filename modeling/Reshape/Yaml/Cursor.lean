/-
Module: Reshape.Yaml.Cursor
Purpose: the characters of YAML text that structure it, and a place in such a text.
Main exports: Yaml.isBlank, Yaml.isBreak, Yaml.Cursor
Trusted boundary: stands for the parser of YAML that the program is given and that is no part of it
-/

namespace Reshape.Yaml

/-- A blank within a line. -/
def isBlank (c : Char) : Bool :=
  c == ' ' || c == '\t'

/-- A line break; a carriage return and the line feed behind it are one break. -/
def isBreak (c : Char) : Bool :=
  c == '\n' || c == '\r' || c == '\u0085' || c == '\u2028' || c == '\u2029'

/-- Whether a text is at its end or goes on with a blank or a break. -/
def startsBlank : List Char → Bool
  | [] => true
  | c :: _ => isBlank c || isBreak c

/-- Whether a text is at its end or goes on with a break. -/
def startsBreak : List Char → Bool
  | [] => true
  | c :: _ => isBreak c

/-- The characters that may stand in YAML text. -/
def isAllowed (c : Char) : Bool :=
  c == '\t' || c == '\n' || c == '\r' || (' ' ≤ c && c ≤ '~') || c == '\u0085' ||
    ('\u00a0' ≤ c && c != '\ufffe' && c != '\uffff')

/-- A place in a text: what follows it, and its index, line and column, all of which
count from zero. -/
structure Cursor where
  rest : List Char
  index : Nat
  line : Nat
  column : Nat

namespace Cursor

/-- The place before a text. -/
def start (text : List Char) : Cursor :=
  ⟨text, 0, 0, 0⟩

/-- The place some characters further on in the same line. -/
def advance (count : Nat) (cursor : Cursor) : Cursor :=
  { cursor with
    rest := cursor.rest.drop count
    index := cursor.index + count
    column := cursor.column + count }

/-- The place `count` characters further on, where a new line starts. -/
def newLine (count : Nat) (cursor : Cursor) : Cursor :=
  ⟨cursor.rest.drop count, cursor.index + count, cursor.line + 1, 0⟩

/-- The text of the line break at a place, and the place behind it. Only the two Unicode
separators are kept as they are. -/
def takeBreak? (cursor : Cursor) : Option (Char × Cursor) :=
  match cursor.rest with
  | '\r' :: '\n' :: _ => some ('\n', cursor.newLine 2)
  | c :: _ =>
      if isBreak c then
        some (if c == '\u2028' || c == '\u2029' then c else '\n', cursor.newLine 1)
      else none
  | [] => none

/-- The place behind the longest stretch of characters of a kind, none a break. -/
def skipWhile (p : Char → Bool) (cursor : Cursor) : Cursor :=
  cursor.advance (cursor.rest.takeWhile fun c => p c && !isBreak c).length

/-- The place at the end of the line, when a comment starts here. -/
def skipComment (cursor : Cursor) : Cursor :=
  match cursor.rest with
  | '#' :: _ => cursor.skipWhile fun _ => true
  | _ => cursor

/-- Whether a document marker of three equal signs starts here, at the start of a
line. -/
def atMarker (sign : Char) (cursor : Cursor) : Bool :=
  cursor.column == 0 && cursor.rest.take 3 == [sign, sign, sign] && startsBlank (cursor.rest.drop 3)

/-- Whether either document marker starts here. -/
def atAnyMarker (cursor : Cursor) : Bool :=
  cursor.atMarker '-' || cursor.atMarker '.'

end Cursor

end Reshape.Yaml
