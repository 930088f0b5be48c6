/-
Module: Reshape.Yaml.ScalarText
Purpose: the text of YAML scalars: plain, quoted, and in blocks of lines.
Main exports: Yaml.readPlain, Yaml.readQuoted, Yaml.readBlock
Trusted boundary: stands for the parser of YAML that the program is given and that is no part of it
-/
import Reshape.Json.Reader
import Reshape.Yaml.Cursor

/-!
# Text of scalars

Inside plain and quoted text a line break together with the blanks around it folds
into one blank, and further breaks are kept. In a block, literal text keeps its
breaks, and folded text folds them between lines that start without a blank.

The readers take `fuel`, a bound on their steps that the length of the text always
pays for.
-/

namespace Reshape.Yaml

/-! ## Gaps -/

/-- A stretch of blanks and breaks inside a scalar. -/
structure Gap where
  /-- The blanks, as long as there is no break. -/
  blanks : List Char
  /-- A break has been met. -/
  broken : Bool
  /-- The first break; none when it was escaped. -/
  first : List Char
  /-- The breaks after the first one. -/
  more : List Char

namespace Gap

def none : Gap := ⟨[], false, [], []⟩

/-- The gap that an escaped break starts. -/
def escaped : Gap := ⟨[], true, [], []⟩

/-- What a gap leaves in the text. -/
def fold (gap : Gap) : List Char :=
  if !gap.broken then gap.blanks
  else if gap.first = ['\n'] then (if gap.more.isEmpty then [' '] else gap.more)
  else gap.first ++ gap.more

end Gap

/-- The gap at a place, added to one that has begun, and the place behind it. Tabs must
not stand before column `least` of a line. -/
def readGap (least : Int) : Nat → Gap → Cursor → Option (Gap × Cursor)
  | 0, _, _ => none
  | fuel + 1, gap, cursor =>
      match cursor.takeBreak? with
      | some (c, after) =>
          if gap.broken then readGap least fuel { gap with more := gap.more ++ [c] } after
          else readGap least fuel ⟨[], true, [c], []⟩ after
      | none =>
          match cursor.rest with
          | c :: _ =>
              if isBlank c then
                if gap.broken then
                  if c == '\t' && cursor.column < least then none
                  else readGap least fuel gap (cursor.advance 1)
                else readGap least fuel { gap with blanks := gap.blanks ++ [c] } (cursor.advance 1)
              else some (gap, cursor)
          | [] => some (gap, cursor)

/-! ## Plain scalars -/

/-- The signs that end a plain scalar inside brackets. -/
def isFlowSign (c : Char) : Bool :=
  c == ',' || c == '[' || c == ']' || c == '\x7b' || c == '\x7d'

/-- The characters of a plain scalar up to the next blank or sign. Inside brackets a
colon must not stand in front of a sign. -/
def takePlain (flow : Bool) : List Char → Option (List Char)
  | [] => some []
  | c :: rest =>
      if isBlank c || isBreak c then some []
      else if flow && c == ':' && (rest.take 1).any (fun d => isFlowSign d || d == '?') then none
      else if (c == ':' && startsBlank rest) || (flow && isFlowSign c) then some []
      else (takePlain flow rest).map (c :: ·)

/-- A plain scalar, the place behind it, and whether a break stands before that place.
Outside of brackets, later lines start at column `least` or further right. -/
def readPlain (flow : Bool) (least : Int) :
    Nat → List Char → Gap → Cursor → Option (List Char × Cursor × Bool)
  | 0, _, _, _ => none
  | fuel + 1, text, gap, cursor =>
      if cursor.atAnyMarker || cursor.rest.take 1 == ['#'] then some (text, cursor, gap.broken)
      else
        match takePlain flow cursor.rest with
        | none => none
        | some run =>
            let grown := if run.isEmpty then text else text ++ gap.fold ++ run
            let pending := if run.isEmpty then gap else Gap.none
            let after := cursor.advance run.length
            if after.rest.isEmpty || !startsBlank after.rest then
              some (grown, after, pending.broken)
            else
              match readGap least fuel pending after with
              | none => none
              | some (next, there) =>
                  if !flow && there.column < least then some (grown, there, next.broken)
                  else readPlain flow least fuel grown next there

/-! ## Quoted scalars -/

/-- The character that a backslash and a letter stand for. -/
def escapedChar? : Char → Option Char
  | '0' => some '\x00'
  | 'a' => some '\x07'
  | 'b' => some '\x08'
  | 't' => some '\t'
  | '\t' => some '\t'
  | 'n' => some '\n'
  | 'v' => some '\x0b'
  | 'f' => some '\x0c'
  | 'r' => some '\r'
  | 'e' => some '\x1b'
  | ' ' => some ' '
  | '"' => some '"'
  | '/' => some '/'
  | '\\' => some '\\'
  | 'N' => some '\u0085'
  | '_' => some '\u00a0'
  | 'L' => some '\u2028'
  | 'P' => some '\u2029'
  | _ => none

/-- The number of hexadecimal digits behind a backslash and a letter. -/
def codeLength : Char → Nat
  | 'x' => 2
  | 'u' => 4
  | 'U' => 8
  | _ => 0

/-- The character with a hexadecimal code of the given length. -/
def codedChar? (length : Nat) (digits : List Char) : Option Char :=
  let taken := digits.take length
  if taken.length < length then none
  else
    (taken.foldlM (fun acc c => (Json.hexValue? c).map (16 * acc + ·)) 0).bind fun n =>
      if n.isValidChar then some (Char.ofNat n) else none

/-- The text behind an opening quote and the place behind the closing one. -/
def readQuoted (double : Bool) : Nat → List Char → Cursor → Option (List Char × Cursor)
  | 0, _, _ => none
  | fuel + 1, text, cursor =>
      if cursor.atAnyMarker then none
      else if startsBlank cursor.rest then
        if cursor.rest.isEmpty then none
        else
          match readGap 0 fuel .none cursor with
          | some (gap, after) => readQuoted double fuel (text ++ gap.fold) after
          | none => none
      else if double then
        match cursor.rest with
        | '"' :: _ => some (text, cursor.advance 1)
        | '\\' :: c :: more =>
            if isBreak c then
              match (cursor.advance 1).takeBreak? with
              | some (_, after) =>
                  match readGap 0 fuel .escaped after with
                  | some (gap, there) => readQuoted double fuel (text ++ gap.fold) there
                  | none => none
              | none => none
            else if codeLength c = 0 then
              match escapedChar? c with
              | some d => readQuoted double fuel (text ++ [d]) (cursor.advance 2)
              | none => none
            else
              match codedChar? (codeLength c) more with
              | some d => readQuoted double fuel (text ++ [d]) (cursor.advance (2 + codeLength c))
              | none => none
        | ['\\'] => none
        | c :: _ => readQuoted double fuel (text ++ [c]) (cursor.advance 1)
        | [] => none
      else
        match cursor.rest with
        | '\'' :: '\'' :: _ => readQuoted double fuel (text ++ ['\'']) (cursor.advance 2)
        | '\'' :: _ => some (text, cursor.advance 1)
        | c :: _ => readQuoted double fuel (text ++ [c]) (cursor.advance 1)
        | [] => none

/-! ## Block scalars -/

/-- What to do with the breaks at the end of a block scalar. -/
inductive Chomping where
  | strip
  | clip
  | keep
  deriving DecidableEq, Repr

/-- The sign for the breaks at the end. -/
def readChomping : List Char → Option Chomping
  | '+' :: _ => some .keep
  | '-' :: _ => some .strip
  | _ => none

/-- A digit that gives the indent; zero gives none. -/
def readIndent : List Char → Option Nat
  | c :: _ => if c.isDigit then some (c.toNat - 48) else none
  | [] => none

/-- The two optional signs behind the sign of a block scalar, in either order, and the
place behind them. -/
def readBlockHeader (cursor : Cursor) : Option (Chomping × Nat × Cursor) :=
  match readChomping cursor.rest with
  | some chomping =>
      match readIndent (cursor.rest.drop 1) with
      | some 0 => none
      | some n => some (chomping, n, cursor.advance 2)
      | none => some (chomping, 0, cursor.advance 1)
  | none =>
      match readIndent cursor.rest with
      | some 0 => none
      | some n =>
          match readChomping (cursor.rest.drop 1) with
          | some chomping => some (chomping, n, cursor.advance 2)
          | none => some (.clip, n, cursor.advance 1)
      | none => some (.clip, 0, cursor)

/-- The breaks of blank lines, the column of the widest of them, and the place where the
next line has content or falls short of `indent`; an `indent` of zero is not known
yet. -/
def readBlankLines (indent : Nat) :
    Nat → Nat → List Char → Cursor → Option (List Char × Nat × Cursor)
  | 0, _, _, _ => none
  | fuel + 1, widest, breaks, cursor =>
      let room := if indent = 0 then cursor.rest.length else indent - cursor.column
      let spaces := ((cursor.rest.take room).takeWhile (· == ' ')).length
      let here := cursor.advance spaces
      let widest := max widest here.column
      if (indent = 0 || here.column < indent) && here.rest.take 1 == ['\t'] then none
      else
        match here.takeBreak? with
        | some (c, after) => readBlankLines indent fuel widest (breaks ++ [c]) after
        | none => some (breaks, widest, here)

/-- The lines of a block scalar. `pending` is the break before the next line, `blank`
tells whether the line before it started with a blank, `breaks` are those of blank
lines. The result ends before the last breaks, which come apart. -/
def readBlockLines (literal : Bool) (indent : Nat) :
    Nat → List Char → List Char → Bool → List Char → Cursor →
      Option (List Char × List Char × List Char × Cursor)
  | 0, _, _, _, _, _ => none
  | fuel + 1, text, pending, blank, breaks, cursor =>
      if cursor.column != indent || cursor.rest.isEmpty then some (text, pending, breaks, cursor)
      else
        let startsWithBlank := (cursor.rest.take 1).any isBlank
        let joint :=
          if !literal && pending == ['\n'] && !blank && !startsWithBlank then
            (if breaks.isEmpty then [' '] else []) ++ breaks
          else pending ++ breaks
        let line := cursor.rest.takeWhile (!isBreak ·)
        let (next, after) := match (cursor.advance line.length).takeBreak? with
          | some (c, there) => ([c], there)
          | none => ([], cursor.advance line.length)
        match readBlankLines indent fuel 0 [] after with
        | none => none
        | some (more, _, there) =>
            readBlockLines literal indent fuel (text ++ joint ++ line) next startsWithBlank more there

/-- The text of a block scalar and the place behind it. `parent` is the indent of the
collection that the scalar stands in, −1 when it stands in none. -/
def readBlock (literal : Bool) (parent : Int) (cursor : Cursor) : Option (List Char × Cursor) := do
  let fuel := cursor.rest.length + 2
  let (chomping, given, afterHeader) ← readBlockHeader cursor
  let endOfLine := (afterHeader.skipWhile isBlank).skipComment
  if !startsBreak endOfLine.rest then none
  let firstLine := match endOfLine.takeBreak? with
    | some (_, after) => after
    | none => endOfLine
  let known := if given = 0 then 0 else (if 0 ≤ parent then parent.toNat else 0) + given
  let (breaks, widest, content) ← readBlankLines known fuel 0 [] firstLine
  let indent := if known = 0 then max widest (max (parent + 1).toNat 1) else known
  let (text, last, trailing, after) ← readBlockLines literal indent fuel [] [] false breaks content
  some (text ++ (if chomping = .strip then [] else last) ++ (if chomping = .keep then trailing else []),
    after)

end Reshape.Yaml
