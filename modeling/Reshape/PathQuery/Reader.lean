/-
Module: Reshape.PathQuery.Reader
Purpose: path queries from strict path expressions.
Main exports: PathQuery.Query.parse?
Trusted boundary: stands for the parser of path queries that the program is given and that is no
  part of it
-/
import Reshape.Json.Reader
import Reshape.PathQuery.Query

/-!
# Reading strict path expressions

The grammar is that of RFC 9535 with the functions `length`, `count`, `value`,
`match` and `search`. Every reader returns what it has read and the text after it.
The readers of nested parts take `fuel`, a bound on their steps that the length of
the expression always pays for.
-/

namespace Reshape.PathQuery

/-! ## Names, texts and numbers -/

/-- A character a member name may start with when it is not quoted. -/
def isNameFirst (c : Char) : Bool :=
  c.isAlpha || c == '_' || 0x80 ≤ c.toNat

/-- A character of a member name that is not quoted. -/
def isNameChar (c : Char) : Bool :=
  isNameFirst c || c.isDigit

/-- A member name without quotes. -/
def readName : List Char → Option (String × List Char)
  | [] => none
  | c :: rest =>
      if isNameFirst c then
        some (String.ofList (c :: rest.takeWhile isNameChar), rest.dropWhile isNameChar)
      else none

/-- The character that a backslash and one letter stand for between quotes of the
given kind. -/
def escapedChar? (quote c : Char) : Option Char :=
  if c = quote then some c
  else if c = '"' then none
  else Json.simpleEscape? c

/-- The rest of a quoted text after its opening quote; `acc` holds the characters
read, last one first. -/
def readQuoted (quote : Char) (acc : List Char) : Nat → List Char → Option (String × List Char)
  | 0, _ => none
  | _ + 1, [] => none
  | fuel + 1, c :: rest =>
      if c = quote then some (String.ofList acc.reverse, rest)
      else if c = '\\' then
        match rest with
        | 'u' :: more =>
            match Json.readUnicode more with
            | some (d, after) => readQuoted quote (d :: acc) fuel after
            | none => none
        | e :: more =>
            match escapedChar? quote e with
            | some d => readQuoted quote (d :: acc) fuel more
            | none => none
        | [] => none
      else if c.toNat < 0x20 then none
      else readQuoted quote (c :: acc) fuel rest

/-- A text in single or double quotes. -/
def readText : List Char → Option (String × List Char)
  | c :: rest => if c = '\'' ∨ c = '"' then readQuoted c [] (rest.length + 1) rest else none
  | [] => none

/-- The digits of a natural number without leading zeros. -/
def readDigits (s : List Char) : Option (List Char × List Char) :=
  let digits := s.takeWhile Char.isDigit
  match digits with
  | [] => none
  | '0' :: _ => some (['0'], s.drop 1)
  | _ => some (digits, s.dropWhile Char.isDigit)

/-- An integer of 64 bits; there is no negative zero. -/
def readInteger (s : List Char) : Option (Int × List Char) :=
  match s with
  | '-' :: rest =>
      match readDigits rest with
      | some (digits, after) =>
          let n := Decimal.ofDigits digits
          if n = 0 ∨ (-n : Int) < minInt64 then none else some (-n, after)
      | none => none
  | _ =>
      match readDigits s with
      | some (digits, after) =>
          let n := Decimal.ofDigits digits
          if n ≤ maxInt64 then some (n, after) else none
      | none => none

/-- One or more digits behind `mark`, with the mark; nothing when they are missing. -/
def fractionOf : List Char → List Char
  | '.' :: rest =>
      match rest.takeWhile Char.isDigit with
      | [] => []
      | digits => '.' :: digits
  | _ => []

/-- The exponent part at the start of a text; nothing when it is incomplete. -/
def exponentOf : List Char → List Char
  | c :: rest =>
      if c = 'e' ∨ c = 'E' then
        let sign := (rest.take 1).filter fun d => d == '+' || d == '-'
        match (rest.drop sign.length).takeWhile Char.isDigit with
        | [] => []
        | digits => c :: (sign ++ digits)
      else []
  | [] => []

/-- A number literal. -/
def readNumber (s : List Char) : Option (Json × List Char) :=
  let sign := (s.take 1).filter (· == '-')
  match readDigits (s.drop sign.length) with
  | none => none
  | some (digits, afterDigits) =>
      let fraction := fractionOf afterDigits
      let afterFraction := afterDigits.drop fraction.length
      let exponent := exponentOf afterFraction
      match Json.Number.read (sign ++ digits ++ fraction ++ exponent) with
      | some (number, []) => some (.number number, afterFraction.drop exponent.length)
      | _ => none

/-- A literal value. -/
def readLiteral (s : List Char) : Option (Json × List Char) :=
  match readText s with
  | some (text, rest) => some (.string text, rest)
  | none =>
      match Json.readWord "true" (.bool true) s with
      | some found => some found
      | none =>
          match Json.readWord "false" (.bool false) s with
          | some found => some found
          | none =>
              match Json.readWord "null" .null s with
              | some found => some found
              | none => readNumber s

/-- A relation sign. -/
def readRelation : List Char → Option (Relation × List Char)
  | '=' :: '=' :: rest => some (.equal, rest)
  | '!' :: '=' :: rest => some (.notEqual, rest)
  | '<' :: '=' :: rest => some (.lessOrEqual, rest)
  | '>' :: '=' :: rest => some (.greaterOrEqual, rest)
  | '<' :: rest => some (.less, rest)
  | '>' :: rest => some (.greater, rest)
  | _ => none

/-- The name of a function and the text after its opening parenthesis. -/
def readFunctionName (s : List Char) : Option (String × List Char) :=
  let isNamePart := fun c : Char => c.isLower || c.isDigit || c == '_'
  match s with
  | c :: _ =>
      if c.isLower then
        match s.dropWhile isNamePart with
        | '(' :: rest => some (String.ofList (s.takeWhile isNamePart), rest)
        | _ => none
      else none
  | [] => none

/-! ## Selectors without conditions -/

/-- An optional integer and the blanks after it. -/
def readBound (s : List Char) : Option Int × List Char :=
  match readInteger s with
  | some (i, rest) => (some i, Json.skipBlanks rest)
  | none => (none, s)

/-- A slice: two bounds around a colon, and a step behind a second one. -/
def readSlice (s : List Char) : Option (Selector × List Char) :=
  match readBound s with
  | (start, ':' :: rest) =>
      match readBound (Json.skipBlanks rest) with
      | (stop, ':' :: more) =>
          match readInteger (Json.skipBlanks more) with
          | some (step, after) => some (.slice start stop step, after)
          | none => some (.slice start stop 1, more)
      | (stop, after) => some (.slice start stop 1, after)
  | _ => none

/-- A selector that holds no condition. -/
def readPlainSelector (s : List Char) : Option (Selector × List Char) :=
  match s with
  | '*' :: rest => some (.wildcard, rest)
  | _ =>
      match readText s with
      | some (key, rest) => some (.name key, rest)
      | none =>
          match readSlice s with
          | some found => some found
          | none => (readInteger s).map fun (i, rest) => (.index i, rest)

/-- The start of a query. -/
def readOrigin : List Char → Option (Bool × List Char)
  | '$' :: rest => some (true, rest)
  | '@' :: rest => some (false, rest)
  | _ => none

/-- A segment that leads to at most one node, without blanks inside its brackets. -/
def readSingularSegment (s : List Char) : Option (Segment × List Char) :=
  match s with
  | '.' :: rest => (readName rest).map fun (key, after) => (.child [.name key], after)
  | '[' :: rest =>
      match readText rest with
      | some (key, ']' :: after) => some (.child [.name key], after)
      | some _ => none
      | none =>
          match readInteger rest with
          | some (i, ']' :: after) => some (.child [.index i], after)
          | _ => none
  | _ => none

/-- The longest run of such segments; blanks may stand before each of them. -/
def readSingularSegments : Nat → List Char → List Segment × List Char
  | 0, s => ([], s)
  | fuel + 1, s =>
      match readSingularSegment (Json.skipBlanks s) with
      | some (segment, rest) =>
          let (segments, after) := readSingularSegments fuel rest
          (segment :: segments, after)
      | none => ([], s)

/-- The longest query at the start of a text that leads to at most one node. -/
def readSingular (s : List Char) : Option (Query × List Char) :=
  (readOrigin s).map fun (fromRoot, rest) =>
    let (segments, after) := readSingularSegments rest.length rest
    (.mk fromRoot segments, after)

/-! ## Functions -/

/-- An argument of a function. -/
inductive Argument where
  | operand (value : Operand)
  | query (value : Query)

/-- The argument as a single value. -/
def Argument.value? : Argument → Option Operand
  | .operand value => some value
  | .query q => if q.isSingular then some (.only q) else none

/-- What a call stands for. -/
inductive Called where
  | operand (value : Operand)
  | condition (value : Condition)

/-- The meaning of a function applied to arguments of the right kinds. -/
def applied? (name : String) (arguments : List Argument) : Option Called :=
  match arguments with
  | [argument] =>
      if name = "length" then argument.value?.map fun v => .operand (.lengthOf v)
      else
        match argument with
        | .query q =>
            if name = "count" then some (.operand (.countOf q))
            else if name = "value" then some (.operand (.only q))
            else none
        | .operand _ => none
  | [text, pattern] =>
      match text.value?, pattern.value? with
      | some t, some p =>
          if name = "match" then some (.condition (.hasForm t p))
          else if name = "search" then some (.condition (.occurs t p))
          else none
      | _, _ => none
  | _ => none

/-! ## Queries and conditions -/

mutual

/-- A query. -/
def readQuery : Nat → List Char → Option (Query × List Char)
  | 0, _ => none
  | fuel + 1, s =>
      match readOrigin s with
      | none => none
      | some (fromRoot, rest) =>
          (readSegments fuel rest).map fun (segments, after) => (.mk fromRoot segments, after)

/-- Segments up to a character that starts none. -/
def readSegments : Nat → List Char → Option (List Segment × List Char)
  | 0, _ => none
  | fuel + 1, s =>
      match readSegment fuel (Json.skipBlanks s) with
      | none => some ([], s)
      | some (segment, rest) =>
          (readSegments fuel rest).map fun (segments, after) => (segment :: segments, after)

/-- A segment. -/
def readSegment : Nat → List Char → Option (Segment × List Char)
  | 0, _ => none
  | fuel + 1, s =>
      match s with
      | '.' :: '.' :: '*' :: rest => some (.descendant [.wildcard], rest)
      | '.' :: '.' :: '[' :: rest =>
          (readSelectors fuel (Json.skipBlanks rest)).map fun (selectors, after) =>
            (.descendant selectors, after)
      | '.' :: '.' :: rest => (readName rest).map fun (key, after) => (.descendant [.name key], after)
      | '.' :: '*' :: rest => some (.child [.wildcard], rest)
      | '.' :: rest => (readName rest).map fun (key, after) => (.child [.name key], after)
      | '[' :: rest =>
          (readSelectors fuel (Json.skipBlanks rest)).map fun (selectors, after) =>
            (.child selectors, after)
      | _ => none

/-- Selectors up to the closing bracket. -/
def readSelectors : Nat → List Char → Option (List Selector × List Char)
  | 0, _ => none
  | fuel + 1, s =>
      match readSelector fuel s with
      | none => none
      | some (selector, rest) =>
          match Json.skipBlanks rest with
          | ',' :: more =>
              (readSelectors fuel (Json.skipBlanks more)).map fun (selectors, after) =>
                (selector :: selectors, after)
          | ']' :: after => some ([selector], after)
          | _ => none

/-- A selector. -/
def readSelector : Nat → List Char → Option (Selector × List Char)
  | 0, _ => none
  | fuel + 1, s =>
      match s with
      | '?' :: rest =>
          (readEither fuel (Json.skipBlanks rest)).map fun (condition, after) =>
            (.filter condition, after)
      | _ => readPlainSelector s

/-- Conditions with `||` between them. -/
def readEither : Nat → List Char → Option (Condition × List Char)
  | 0, _ => none
  | fuel + 1, s =>
      match readBoth fuel s with
      | none => none
      | some (first, rest) =>
          match Json.skipBlanks rest with
          | '|' :: '|' :: more =>
              (readEither fuel (Json.skipBlanks more)).map fun (second, after) =>
                (.either first second, after)
          | _ => some (first, rest)

/-- Conditions with `&&` between them. -/
def readBoth : Nat → List Char → Option (Condition × List Char)
  | 0, _ => none
  | fuel + 1, s =>
      match readBasic fuel s with
      | none => none
      | some (first, rest) =>
          match Json.skipBlanks rest with
          | '&' :: '&' :: more =>
              (readBoth fuel (Json.skipBlanks more)).map fun (second, after) =>
                (.both first second, after)
          | _ => some (first, rest)

/-- A condition without connectives outside of parentheses. -/
def readBasic : Nat → List Char → Option (Condition × List Char)
  | 0, _ => none
  | fuel + 1, s =>
      match s with
      | '!' :: rest =>
          match Json.skipBlanks rest with
          | '(' :: more =>
              (readParenthesized fuel more).map fun (condition, after) =>
                (.negation condition, after)
          | more =>
              (readTest fuel more).map fun (condition, after) => (.negation condition, after)
      | '(' :: rest => readParenthesized fuel rest
      | _ =>
          match readOperand fuel s with
          | none => readTest fuel s
          | some (left, rest) =>
              match readRelation (Json.skipBlanks rest) with
              | none => readTest fuel s
              | some (relation, more) =>
                  (readOperand fuel (Json.skipBlanks more)).map fun (right, after) =>
                    (.related relation left right, after)

/-- A condition up to the closing parenthesis. -/
def readParenthesized : Nat → List Char → Option (Condition × List Char)
  | 0, _ => none
  | fuel + 1, s =>
      match readEither fuel (Json.skipBlanks s) with
      | none => none
      | some (condition, rest) =>
          match Json.skipBlanks rest with
          | ')' :: after => some (condition, after)
          | _ => none

/-- A condition that compares nothing: a query that selects something, or a function. -/
def readTest : Nat → List Char → Option (Condition × List Char)
  | 0, _ => none
  | fuel + 1, s =>
      match readQuery fuel s with
      | some (query, rest) => some (.found query, rest)
      | none =>
          match readCall fuel s with
          | some (.condition condition, rest) => some (condition, rest)
          | _ => none

/-- What stands on a side of a relation. -/
def readOperand : Nat → List Char → Option (Operand × List Char)
  | 0, _ => none
  | fuel + 1, s =>
      match readLiteral s with
      | some (value, rest) => some (.literal value, rest)
      | none =>
          match readSingular s with
          | some (query, rest) => some (.only query, rest)
          | none =>
              match readCall fuel s with
              | some (.operand operand, rest) => some (operand, rest)
              | _ => none

/-- A call of a function. -/
def readCall : Nat → List Char → Option (Called × List Char)
  | 0, _ => none
  | fuel + 1, s =>
      match readFunctionName s with
      | none => none
      | some (name, rest) =>
          match readArguments fuel (Json.skipBlanks rest) with
          | none => none
          | some (arguments, after) => (applied? name arguments).map fun called => (called, after)

/-- Arguments up to the closing parenthesis. -/
def readArguments : Nat → List Char → Option (List Argument × List Char)
  | 0, _ => none
  | fuel + 1, s =>
      match readArgument fuel s with
      | none => none
      | some (argument, rest) =>
          match Json.skipBlanks rest with
          | ',' :: more =>
              (readArguments fuel (Json.skipBlanks more)).map fun (arguments, after) =>
                (argument :: arguments, after)
          | ')' :: after => some ([argument], after)
          | _ => none

/-- An argument of a function. -/
def readArgument : Nat → List Char → Option (Argument × List Char)
  | 0, _ => none
  | fuel + 1, s =>
      match readLiteral s with
      | some (value, rest) => some (.operand (.literal value), rest)
      | none =>
          match readQuery fuel s with
          | some (query, rest) => some (.query query, rest)
          | none =>
              match readCall fuel s with
              | some (.operand operand, rest) => some (.operand operand, rest)
              | _ => none

end

/-- The query that the whole of a text writes. -/
def Query.parse? (text : List Char) : Option Query :=
  match readQuery (10 * text.length + 10) text with
  | some (.mk true segments, []) => some (.mk true segments)
  | _ => none

end Reshape.PathQuery
