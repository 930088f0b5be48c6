/-
Module: Reshape.Pattern.Reader
Purpose: patterns from their written form.
Main exports: Pattern.Flags, Pattern.parse?
Trusted boundary: stands in for a library of patterns, which is no part of the program; what is
  proved of programs holds for any such library. It knows the properties of characters listed
  beside it and no others, and bounds the size of a pattern by an estimate of its own
-/
import Reshape.Decimal.Range
import Reshape.Pattern.Basic
import Reshape.Pattern.Library

/-!
# Reading patterns

The written form has alternatives `a|b`, groups `(…)`, `(?:…)` and `(?<name>…)`,
repetitions `?`, `*`, `+` and counts in braces, bracketed sets with ranges and set
operations, classes such as `\d` and `\pL`, conditions such as `^` and `\b`, and
flags `(?i)` that hold to the end of their group. There are no back references and
no conditions on what stands further away.
-/

namespace Reshape.Pattern

open Reshape.Text

/-- The options of a pattern, and those that only the pattern itself can change. -/
structure Flags extends Options where
  /-- Lines may end with a carriage return. -/
  anyLineBreak : Bool := false
  /-- Classes hold the characters of all scripts. -/
  unicode : Bool := true

/-- What is left to read. -/
structure Cursor where
  rest : List Char
  flags : Flags
  /-- The group names that are taken. -/
  names : List (List Char)

/-- A piece of a sequence: a pattern, or a change of flags, which cannot be repeated. -/
inductive Piece where
  | pattern (p : Pattern)
  | flags

namespace Cursor

def skipComment : List Char → List Char
  | [] => []
  | '\n' :: rest => rest
  | _ :: rest => skipComment rest

/-- Skip blanks and comments in text of at most the given length. -/
def skipExtended : Nat → List Char → List Char
  | 0, s => s
  | _ + 1, [] => []
  | n + 1, c :: rest =>
      if isBlank c then skipExtended n rest
      else if c = '#' then skipExtended n (skipComment rest)
      else c :: rest

/-- Without the blanks and comments in front, where these are passed over. -/
def skip (c : Cursor) : Cursor :=
  if c.flags.extended then { c with rest := skipExtended (c.rest.length + 1) c.rest } else c

/-- After the next character and what is skipped behind it. -/
def next (c : Cursor) : Cursor :=
  { c with rest := c.rest.drop 1 }.skip

end Cursor

/-- Sequence of pieces, given last one first. -/
def sequence (pieces : List Piece) : Pattern :=
  pieces.foldl (fun acc piece =>
    match piece, acc with
    | .flags, acc => acc
    | .pattern p, .nothing => p
    | .pattern p, acc => .andThen p acc) .nothing

namespace Flags

/-- All forms of a set under the flags. -/
def fold (flags : Flags) (set : CharSet) : CharSet :=
  if flags.anyCase then (if flags.unicode then .anyCase set else .anyAsciiCase set) else set

def complement (negated : Bool) (set : CharSet) : CharSet :=
  if negated then .except set else set

/-- A class of its own. Where characters are matched byte by byte, no class may
reach beyond ASCII. -/
def charClass? (flags : Flags) (set : CharSet) : Option Pattern :=
  if flags.unicode || set.isAsciiOnly then some (.char set) else none

def literal (flags : Flags) (c : Char) : Pattern :=
  .char (if flags.anyCase then flags.fold (.single c) else .single c)

def dot? (flags : Flags) : Option Pattern :=
  let excluded : CharSet :=
    if flags.dotAll then .empty
    else if flags.anyLineBreak then .ranges [(10, 10), (13, 13)]
    else .ranges [(10, 10)]
  if flags.unicode then some (.char (.except excluded)) else none

def start (flags : Flags) : Pattern :=
  .look (if !flags.multiLine then .textStart
    else if flags.anyLineBreak then .anyLineStart else .lineStart)

def stop (flags : Flags) : Pattern :=
  .look (if !flags.multiLine then .textEnd
    else if flags.anyLineBreak then .anyLineEnd else .lineEnd)

/-- The word characters for conditions and classes. -/
def wordSet (flags : Flags) : CharSet :=
  if flags.unicode then .word else .asciiWord

end Flags

/-- What one element of a set or a sequence denotes. -/
inductive Element where
  | literal (c : Char)
  | set (s : CharSet)
  | condition (l : Look)

/-! ## Escapes -/

/-- Characters that have a meaning when they are not escaped. -/
def isMeta (c : Char) : Bool :=
  "\\.+*?()|[]\x7b\x7d^$#&-~".toList.contains c

/-- Characters that may be escaped to stand for themselves. -/
def isEscapeable (c : Char) : Bool :=
  isMeta c || (c.toNat < 0x80 && !c.isAlphanum && c != '<' && c != '>')

def hexValue? (c : Char) : Option Nat :=
  if c.isDigit then some (c.toNat - 48)
  else if 'a' ≤ c ∧ c ≤ 'f' then some (c.toNat - 87)
  else if 'A' ≤ c ∧ c ≤ 'F' then some (c.toNat - 55)
  else none

/-- The character with a code point, surrogates excluded. -/
def charOf? (n : Nat) : Option Char :=
  if n < 0xD800 ∨ (0xDFFF < n ∧ n ≤ 0x10FFFF) then some (Char.ofNat n) else none

/-- A fixed number of hexadecimal digits. -/
def readHex? : Nat → Nat → Cursor → Option (Char × Cursor)
  | 0, acc, cur => (charOf? acc).map (·, cur)
  | n + 1, acc, cur =>
      match cur.rest with
      | c :: _ => (hexValue? c).bind fun d => readHex? n (16 * acc + d) cur.next
      | [] => none

/-- Hexadecimal digits up to a closing brace. -/
def readBracedHex? : Nat → Bool → Nat → Cursor → Option (Char × Cursor)
  | 0, _, _, _ => none
  | fuel + 1, started, acc, cur =>
      match cur.rest with
      | '\x7d' :: rest => if started then (charOf? acc).map (·, { cur with rest := rest }) else none
      | c :: _ =>
          (hexValue? c).bind fun d =>
            if 16 * acc + d ≤ maxUInt32 then readBracedHex? fuel true (16 * acc + d) cur.next else none
      | [] => none

/-- The text up to a closing brace, blanks left out where they are passed over. -/
def takeName : Nat → List Char → Cursor → Option (List Char × Cursor)
  | 0, _, _ => none
  | fuel + 1, acc, cur =>
      match cur.rest with
      | '\x7d' :: rest => some (acc.reverse, { cur with rest := rest })
      | c :: _ => takeName fuel (c :: acc) cur.next
      | [] => none

/-- Cut a name at the first occurrence of a sign. -/
def cutName? (sign : List Char) : List Char → Option (List Char × List Char)
  | [] => none
  | c :: rest =>
      if sign.isPrefixOf (c :: rest) then some ([], (c :: rest).drop sign.length)
      else (cutName? sign rest).map fun (a, b) => (c :: a, b)

/-- The set that a named class stands for; a value is given after `=`, `:` or `!=`. -/
def namedClass? (name : List Char) : Option CharSet :=
  match cutName? ['!', '='] name with
  | some (kind, value) => (CharSet.propertyValue? kind value).map .except
  | none =>
      match cutName? [':'] name with
      | some (kind, value) => CharSet.propertyValue? kind value
      | none =>
          match cutName? ['='] name with
          | some (kind, value) => CharSet.propertyValue? kind value
          | none => CharSet.property? name

/-- A class named after `\p` or `\P`. -/
def readNamedClass? (negated : Bool) (cur : Cursor) : Option (Element × Cursor) := do
  let (name, after) ← match cur.rest with
    | '\x7b' :: _ => takeName (cur.rest.length + 1) [] cur.next
    | '\\' :: _ => none
    | c :: _ => some ([c], cur.next)
    | [] => none
  let flags := cur.flags
  let set ← namedClass? name
  if flags.unicode then some (.set (Flags.complement negated (flags.fold set)), after) else none

/-- The class that a letter after a backslash stands for. -/
def letterClass? (flags : Flags) : Char → Option CharSet
  | 'd' => some (if flags.unicode then .digits else .asciiDigits)
  | 's' => some (if flags.unicode then .blanks else .asciiBlanks)
  | 'w' => some flags.wordSet
  | 'D' => some (.except (if flags.unicode then .digits else .asciiDigits))
  | 'S' => some (.except (if flags.unicode then .blanks else .asciiBlanks))
  | 'W' => some (.except flags.wordSet)
  | _ => none

/-- The control characters that letters after a backslash stand for. -/
def controlLetter? : Char → Option Char
  | 'a' => some '\x07'
  | 'f' => some '\x0c'
  | 't' => some '\t'
  | 'n' => some '\n'
  | 'r' => some '\r'
  | 'v' => some '\x0b'
  | _ => none

/-- The name in braces after `\b`; nothing when the braces hold a count. -/
def boundaryName (cur : Cursor) : Option (Option (List Char × Cursor)) :=
  let isNameChar (c : Char) : Bool := c.isAlpha || c == '-'
  match cur.rest with
  | '\x7b' :: _ =>
      match cur.next.rest with
      | [] => none
      | c :: _ =>
          if isNameChar c then
            match takeName (cur.rest.length + 1) [] cur.next with
            | some (name, after) => if name.all isNameChar then some (some (name, after)) else none
            | none => none
          else some none
  | _ => some none

/-- What stands after a backslash. -/
def readEscape? (cur : Cursor) : Option (Element × Cursor) :=
  match cur.rest with
  | [] => none
  | c :: rest =>
      let after : Cursor := { cur with rest := rest }
      let word := cur.flags.wordSet
      if c = 'x' ∨ c = 'u' ∨ c = 'U' then
        let opened := cur.next
        match opened.rest with
        | '\x7b' :: _ =>
            (readBracedHex? (opened.rest.length + 1) false 0 opened.next).map fun (d, k) => (.literal d, k)
        | _ =>
            let width := if c = 'x' then 2 else if c = 'u' then 4 else 8
            (readHex? width 0 opened).map fun (d, k) => (.literal d, k)
      else if c = 'p' ∨ c = 'P' then readNamedClass? (c == 'P') cur.next
      else if isEscapeable c then some (.literal c, after)
      else
        match letterClass? cur.flags c with
        | some set => some (.set set, after)
        | none =>
            match controlLetter? c with
            | some d => some (.literal d, after)
            | none =>
                match c with
                | 'A' => some (.condition .textStart, after)
                | 'z' => some (.condition .textEnd, after)
                | 'B' => some (.condition (.noWordBoundary word), after)
                | '<' => some (.condition (.wordStart word), after)
                | '>' => some (.condition (.wordEnd word), after)
                | 'b' =>
                    match boundaryName after with
                    | none => none
                    | some none => some (.condition (.wordBoundary word), after)
                    | some (some (name, k)) =>
                        match String.ofList name with
                        | "start" => some (.condition (.wordStart word), k)
                        | "end" => some (.condition (.wordEnd word), k)
                        | "start-half" => some (.condition (.wordStartHalf word), k)
                        | "end-half" => some (.condition (.wordEndHalf word), k)
                        | _ => none
                | _ => none

/-! ## Bracketed sets -/

/-- The operators between the parts of a bracketed set. -/
inductive SetOperator where
  | both
  | difference
  | symmetricDifference

def SetOperator.apply (op : SetOperator) (flags : Flags) (left right : CharSet) : CharSet :=
  let l := flags.fold left
  let r := flags.fold right
  match op with
  | .both => .both l r
  | .difference => .difference l r
  | .symmetricDifference => .symmetricDifference l r

/-- Finish the part that an operator waits for. -/
def closePart (flags : Flags) (waiting : Option (CharSet × SetOperator)) (part : CharSet) : CharSet :=
  match waiting with
  | some (left, op) => op.apply flags left part
  | none => part

/-- One element of a bracketed set, before it is known to begin a range. -/
def readSetElement? (cur : Cursor) : Option (Element × Cursor) :=
  match cur.rest with
  | [] => none
  | '\\' :: rest => readEscape? { cur with rest := rest }
  | c :: rest => some (.literal c, { cur with rest := rest })

/-- An element or a range of a bracketed set. -/
def readSetItem? (cur : Cursor) : Option (CharSet × Cursor) := do
  let (first, after) ← readSetElement? cur
  let after := after.skip
  let asItem : Option (CharSet × Cursor) := match first with
    | .literal c => some (.single c, after)
    | .set s => some (s, after)
    | .condition _ => none
  match after.rest with
  | [] => none
  | '-' :: _ =>
      match after.next.rest with
      | ']' :: _ => asItem
      | '-' :: _ => asItem
      | [] => none
      | _ => do
          let (last, done) ← readSetElement? after.next
          match first, last with
          | .literal a, .literal b =>
              if a ≤ b then some (.ranges [(a.toNat, b.toNat)], done) else none
          | _, _ => none
  | _ => asItem

/-- A class in colons, `[:alpha:]` or `[:^alpha:]`, at the front. -/
def readColonClass? (cur : Cursor) : Option (CharSet × Cursor) :=
  match cur.rest with
  | '[' :: ':' :: rest =>
      let (negated, named) := match rest with
        | '^' :: more => (true, more)
        | more => (false, more)
      match named.dropWhile (· != ':') with
      | ':' :: ']' :: after =>
          (CharSet.asciiClass? (String.ofList (named.takeWhile (· != ':')))).map fun set =>
            (Flags.complement negated set, { cur with rest := after })
      | _ => none
  | _ => none

/-- Hyphens at the start of a bracketed set stand for themselves. -/
def readHyphens : Nat → CharSet → Cursor → CharSet × Cursor
  | 0, set, cur => (set, cur)
  | fuel + 1, set, cur =>
      match cur.rest with
      | '-' :: _ => readHyphens fuel (.union set (.single '-')) cur.next
      | _ => (set, cur)

/-- Read a bracketed set after its opening bracket. Each step uses up a character. -/
def readSet? : Nat → Cursor → Option (CharSet × Cursor)
  | 0, _ => none
  | fuel + 1, cur =>
      let (negated, cur) := match cur.rest with
        | '^' :: _ => (true, cur.next)
        | _ => (false, cur)
      let hyphens := match cur.rest with
        | '-' :: _ => true
        | _ => false
      let (set, cur) := readHyphens (cur.rest.length + 1) .empty cur
      let (set, cur) := match hyphens, cur.rest with
        | false, ']' :: _ => (.union set (.single ']'), cur.next)
        | _, _ => (set, cur)
      readSetItems fuel negated none set cur
where
  /-- The items up to the closing bracket; `waiting` is an operator with what stands
  on its left. -/
  readSetItems : Nat → Bool → Option (CharSet × SetOperator) → CharSet → Cursor →
      Option (CharSet × Cursor)
    | 0, _, _, _, _ => none
    | fuel + 1, negated, waiting, set, cur =>
        let cur := cur.skip
        let flags := cur.flags
        match cur.rest with
        | [] => none
        | ']' :: rest =>
            let whole := closePart flags waiting set
            some (Flags.complement negated (flags.fold whole), { cur with rest := rest })
        | '[' :: _ =>
            match readColonClass? cur with
            | some (inner, after) => readSetItems fuel negated waiting (.union set inner) after
            | none =>
                match readSet? fuel cur.next with
                | some (inner, after) => readSetItems fuel negated waiting (.union set inner) after
                | none => none
        | '&' :: '&' :: rest =>
            readSetItems fuel negated (some (closePart flags waiting set, .both)) .empty
              { cur with rest := rest }
        | '-' :: '-' :: rest =>
            readSetItems fuel negated (some (closePart flags waiting set, .difference)) .empty
              { cur with rest := rest }
        | '~' :: '~' :: rest =>
            readSetItems fuel negated (some (closePart flags waiting set, .symmetricDifference)) .empty
              { cur with rest := rest }
        | _ =>
            match readSetItem? cur with
            | some (item, after) => readSetItems fuel negated waiting (.union set item) after
            | none => none

/-! ## Groups and repetitions -/

/-- Read flags up to `:` or `)`, which is left to read. Each flag is named once, and
a hyphen, at most one, turns off the flags after it. -/
def readFlags? : Nat → Flags → List Char → Bool → Bool → List Char →
    Option (Flags × Bool × List Char)
  | 0, _, _, _, _, _ => none
  | fuel + 1, flags, seen, negated, dangling, s =>
      match s with
      | [] => none
      | c :: rest =>
          if c = ':' ∨ c = ')' then (if dangling then none else some (flags, !seen.isEmpty, c :: rest))
          else if c = '-' then
            if negated then none else readFlags? fuel flags ('-' :: seen) true true rest
          else if seen.contains c then none
          else
            let on := !negated
            let more (f : Flags) := readFlags? fuel f (c :: seen) negated false rest
            match c with
            | 'i' => more { flags with anyCase := on }
            | 'm' => more { flags with multiLine := on }
            | 's' => more { flags with dotAll := on }
            | 'x' => more { flags with extended := on }
            | 'R' => more { flags with anyLineBreak := on }
            | 'u' => more { flags with unicode := on }
            | 'U' => more flags
            | _ => none

/-- A letter of any script, by which a group name may begin. -/
def isNameLetter (c : Char) : Bool :=
  c.isAlpha || (0x80 ≤ c.toNat && isWordChar c && !isDecimalDigit c)

/-- Characters of a group name. -/
def isGroupNameChar (first : Bool) (c : Char) : Bool :=
  if first then c == '_' || isNameLetter c
  else c == '_' || c == '.' || c == '[' || c == ']' || c.isDigit || isDecimalDigit c || isNameLetter c

/-- The name of a group, up to the closing angle. -/
def readGroupName? (s : List Char) : Option (List Char × List Char) :=
  let name := s.takeWhile (· != '>')
  match name, s.dropWhile (· != '>') with
  | c :: more, '>' :: rest =>
      if isGroupNameChar true c && more.all (isGroupNameChar false) then some (name, rest) else none
  | _, _ => none

/-- The start of a group, after its parenthesis. -/
inductive Opening where
  /-- A group whose contents begin at the cursor. -/
  | group (inside : Cursor)
  /-- A change of flags for the rest of the enclosing group. -/
  | change (after : Cursor)

def readOpening? (cur : Cursor) : Option Opening :=
  let cur := cur.skip
  let named (s : List Char) : Option Opening :=
    match readGroupName? s with
    | some (name, rest) =>
        if cur.names.contains name then none
        else some (.group { cur with rest := rest, names := name :: cur.names })
    | none => none
  match cur.rest with
  | '?' :: '=' :: _ | '?' :: '!' :: _ | '?' :: '<' :: '=' :: _ | '?' :: '<' :: '!' :: _ => none
  | '?' :: 'P' :: '<' :: rest => named rest
  | '?' :: '<' :: rest => named rest
  | '?' :: rest =>
      match readFlags? (rest.length + 1) cur.flags [] false false rest with
      | some (flags, some_, ':' :: more) =>
          let _ := some_
          some (.group { cur with rest := more, flags := flags })
      | some (flags, true, ')' :: more) => some (.change { cur with rest := more, flags := flags })
      | _ => none
  | _ => some (.group cur)

/-- A number with blanks around it. -/
def readCount? (cur : Cursor) : Option (Nat × Cursor) :=
  let s := trimStart cur.rest
  let digits := s.takeWhile Char.isDigit
  let value := digits.foldl (fun acc c => 10 * acc + (c.toNat - 48)) 0
  if digits.isEmpty || maxUInt32 < value then none
  else some (value, { cur with rest := trimStart (s.dropWhile Char.isDigit) })

/-- Counts in braces, after the opening one. -/
def readCounts? (cur : Cursor) : Option (Nat × Option Nat × Cursor) := do
  let cur := cur.skip
  let (least, after) ← readCount? cur
  match after.rest with
  | '\x7d' :: _ => some (least, some least, after.next)
  | ',' :: _ =>
      let open_ := after.next
      match open_.rest with
      | '\x7d' :: _ => some (least, none, open_.next)
      | _ => do
          let (most, done) ← readCount? open_
          match done.rest with
          | '\x7d' :: _ => if least ≤ most then some (least, some most, done.next) else none
          | _ => none
  | _ => none

/-- A question mark after a repetition only changes which match is preferred. -/
def skipLazy (cur : Cursor) : Cursor :=
  match cur.rest with
  | '?' :: rest => { cur with rest := rest }
  | _ => cur

/-- Repeat the last piece of a sequence. -/
def repeatLast? (least : Nat) (most : Option Nat) : List Piece → Option (List Piece)
  | .pattern p :: pieces => some (.pattern (.repeated least most p) :: pieces)
  | _ => none

mutual

/-- Alternatives up to a closing parenthesis or the end, neither of which is taken. -/
def readAlternatives? : Nat → Cursor → Option (Pattern × Cursor)
  | 0, _ => none
  | fuel + 1, cur =>
      match readPieces? fuel [] cur with
      | none => none
      | some (p, after) =>
          match after.rest with
          | '|' :: rest =>
              match readAlternatives? fuel { after with rest := rest } with
              | some (q, done) => some (.orElse p q, done)
              | none => none
          | _ => some (p, after)

/-- A sequence; the pieces read so far are given last one first. -/
def readPieces? : Nat → List Piece → Cursor → Option (Pattern × Cursor)
  | 0, _, _ => none
  | fuel + 1, pieces, cur =>
      let cur := cur.skip
      let continue_ (piece : Piece) (after : Cursor) := readPieces? fuel (piece :: pieces) after
      let repeated (least : Nat) (most : Option Nat) (after : Cursor) :=
        match repeatLast? least most pieces with
        | some grown => readPieces? fuel grown (skipLazy after)
        | none => none
      match cur.rest with
      | [] => some (sequence pieces, cur)
      | c :: rest =>
          let after : Cursor := { cur with rest := rest }
          if c = ')' ∨ c = '|' then some (sequence pieces, cur)
          else if c = '(' then
            match readOpening? after with
            | none => none
            | some (.change changed) => continue_ .flags changed
            | some (.group inside) =>
                match readAlternatives? fuel inside with
                | some (p, done) =>
                    match done.rest with
                    | ')' :: more =>
                        continue_ (.pattern p) { done with rest := more, flags := cur.flags }
                    | _ => none
                | none => none
          else if c = '[' then
            match readSet? (cur.rest.length + 1) cur.next with
            | some (set, done) =>
                match cur.flags.charClass? set with
                | some p => continue_ (.pattern p) done
                | none => none
            | none => none
          else if c = '?' then repeated 0 (some 1) after
          else if c = '*' then repeated 0 none after
          else if c = '+' then repeated 1 none after
          else if c = '\x7b' then
            match readCounts? after with
            | some (least, most, done) => repeated least most done
            | none => none
          else if c = '.' then
            match cur.flags.dot? with
            | some p => continue_ (.pattern p) after
            | none => none
          else if c = '^' then continue_ (.pattern cur.flags.start) after
          else if c = '$' then continue_ (.pattern cur.flags.stop) after
          else if c = '\\' then
            match readEscape? after with
            | some (.literal d, done) => continue_ (.pattern (cur.flags.literal d)) done
            | some (.set set, done) =>
                match cur.flags.charClass? set with
                | some p => continue_ (.pattern p) done
                | none => none
            | some (.condition l, done) => continue_ (.pattern (.look l)) done
            | none => none
          else continue_ (.pattern (cur.flags.literal c)) after

end

/-- The pattern that a text denotes, under the given flags. -/
def parse? (flags : Flags) (text : List Char) : Option Pattern :=
  match readAlternatives? (2 * text.length + 4) ⟨text, flags, []⟩ with
  | some (p, after) => if after.rest.isEmpty && p.size ≤ maxSize then some p else none
  | none => none

/-- The library that the program runs with. -/
instance standard : Library where
  build? options text :=
    (parse? { toOptions := options } text.toList).map fun pattern s => pattern.occursIn s.toList

end Reshape.Pattern
