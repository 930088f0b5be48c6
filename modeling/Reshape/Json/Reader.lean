/-
Module: Reshape.Json.Reader
Purpose: JSON values from text.
Main exports: Json.parse?, Json.parseRaw?
Trusted boundary: stands for the parser of JSON that the program is given and that is no part of it
-/
import Reshape.Json.Basic
import Reshape.Decimal.Reading

/-!
# Reading JSON text

Arrays and objects nest at most 127 deep. Numbers are scaled in two rounded steps:
the leading digits that fit 64 bits become a double, which is then multiplied or
divided by a power of ten. A double beyond the range is an error, one below it
is zero.

`parseRaw?` keeps members as written, repeated keys included, for readers that
have to notice a repetition; `parse?` collapses them.
-/

namespace Reshape.Json

/-- What a reader returns: a value and the text after it. -/
abbrev Read (α : Type) := Option (α × List Char)

/-- Blanks between tokens. -/
def isBlank (c : Char) : Bool :=
  c == ' ' || c == '\n' || c == '\t' || c == '\r'

def skipBlanks (s : List Char) : List Char :=
  s.dropWhile isBlank

namespace Number

/-- Take decimal digits into a significand as long as it stays up to `maxUInt64`;
also returns how many digits were taken and what follows them. -/
def takeDigits (significand taken : Nat) : List Char → Nat × Nat × List Char
  | [] => (significand, taken, [])
  | c :: rest =>
      match Decimal.digitValue? c with
      | none => (significand, taken, c :: rest)
      | some d =>
          if significand * 10 + d ≤ maxUInt64 then takeDigits (significand * 10 + d) (taken + 1) rest
          else (significand, taken, c :: rest)

/-- A double times a power of ten, in rounded steps. -/
def scale (x : Float) (exponent : Int) : Option Float :=
  if exponent < -308 then
    if x == 0 then some x else scale (x / Float.ofScientific 1 false 308) (exponent + 308)
  else if exponent < 0 then some (x / Float.ofScientific 1 false (-exponent).toNat)
  else if exponent ≤ 308 then
    let y := x * Float.ofScientific 1 false exponent.toNat
    if Binary.isFinite y then some y else none
  else if x == 0 then some x
  else none
termination_by (-exponent).toNat
decreasing_by omega

/-- The double `significand · 10 ^ exponent`, negated if asked for. -/
def double? (negative : Bool) (significand : Nat) (exponent : Int) : Option Number :=
  (scale (UInt64.ofNat significand).toFloat exponent).map fun x =>
    .double (if negative then -x else x)

/-- The number after its sign: an exponent part, then the end. -/
def finish (negative : Bool) (significand : Nat) (exponent : Int) : List Char → Read Number
  | c :: rest =>
      if c = 'e' ∨ c = 'E' then
        let (down, digits) := Decimal.splitSign rest
        let written := digits.takeWhile Char.isDigit
        if written.isEmpty then none
        else
          let e : Int := Decimal.ofDigits written
          (double? negative significand (exponent + if down then -e else e)).map
            (·, digits.dropWhile Char.isDigit)
      else (double? negative significand exponent).map (·, c :: rest)
  | [] => (double? negative significand exponent).map (·, [])

/-- The digits after a point; those that the significand has no room for are
passed over. -/
def readFraction (negative : Bool) (significand : Nat) (exponent : Int) (s : List Char) :
    Read Number :=
  match s with
  | [] => none
  | c :: _ =>
      if c.isDigit then
        let (grown, taken, rest) := takeDigits significand 0 s
        finish negative grown (exponent - taken) (rest.dropWhile Char.isDigit)
      else none

/-- A number, after its sign. A leading zero stands alone. -/
def readUnsigned (negative : Bool) (s : List Char) : Read Number :=
  let zeros := s.take 1 == ['0']
  let (significand, taken, rest) := if zeros then (0, 1, s.drop 1) else takeDigits 0 0 s
  if taken = 0 || (zeros && (rest.take 1).all Char.isDigit && !rest.isEmpty) then none
  else
    let surplus := rest.takeWhile Char.isDigit
    match rest.dropWhile Char.isDigit with
    | '.' :: more => readFraction negative significand surplus.length more
    | after =>
        if (after.take 1).any (fun c => c == 'e' || c == 'E') || !surplus.isEmpty then
          finish negative significand surplus.length after
        else
          let i : Int := if negative then -(significand : Int) else significand
          match (if negative && (significand = 0 : Bool) then none else ofInt? i) with
          | some n => some (n, after)
          | none => (double? negative significand 0).map (·, after)

/-- A number. -/
def read : List Char → Read Number
  | '-' :: rest => readUnsigned true rest
  | s => readUnsigned false s

end Number

/-- The value of a hexadecimal digit of either case. -/
def hexValue? (c : Char) : Option Nat :=
  if c.isDigit then some (c.toNat - 48)
  else if 'a' ≤ c ∧ c ≤ 'f' then some (c.toNat - 87)
  else if 'A' ≤ c ∧ c ≤ 'F' then some (c.toNat - 55)
  else none

/-- Four hexadecimal digits. -/
def readHex4 : List Char → Option (Nat × List Char)
  | a :: b :: c :: d :: rest => do
      let w ← hexValue? a
      let x ← hexValue? b
      let y ← hexValue? c
      let z ← hexValue? d
      some (w * 4096 + x * 256 + y * 16 + z, rest)
  | _ => none

/-- A character written with `\u`: a code unit, or two that form a pair. A half
of a pair on its own is refused. -/
def readUnicode (s : List Char) : Option (Char × List Char) := do
  let (unit, rest) ← readHex4 s
  if 0xD800 ≤ unit ∧ unit ≤ 0xDBFF then
    match rest with
    | '\\' :: 'u' :: more => do
        let (low, after) ← readHex4 more
        if 0xDC00 ≤ low ∧ low ≤ 0xDFFF then
          some (Char.ofNat (0x10000 + (unit - 0xD800) * 1024 + (low - 0xDC00)), after)
        else none
    | _ => none
  else if 0xDC00 ≤ unit ∧ unit ≤ 0xDFFF then none
  else some (Char.ofNat unit, rest)

/-- The character a one-letter escape stands for. -/
def simpleEscape? : Char → Option Char
  | '"' => some '"'
  | '\\' => some '\\'
  | '/' => some '/'
  | 'b' => some '\x08'
  | 'f' => some '\x0c'
  | 'n' => some '\n'
  | 'r' => some '\r'
  | 't' => some '\t'
  | _ => none

/-- The rest of a string after its opening quote. `acc` holds the characters read,
last one first; every character of the text pays for at most one step. -/
def readString (acc : List Char) : Nat → List Char → Read String
  | 0, _ => none
  | _ + 1, [] => none
  | fuel + 1, c :: rest =>
      if c = '"' then some (String.ofList acc.reverse, rest)
      else if c = '\\' then
        match rest with
        | 'u' :: more =>
            match readUnicode more with
            | some (d, after) => readString (d :: acc) fuel after
            | none => none
        | e :: more =>
            match simpleEscape? e with
            | some d => readString (d :: acc) fuel more
            | none => none
        | [] => none
      else if c.toNat < 0x20 then none
      else readString (c :: acc) fuel rest

/-- A fixed word at the front. -/
def readWord (word : String) (value : Json) (s : List Char) : Read Json :=
  if word.toList.isPrefixOf s then some (value, s.drop word.length) else none

mutual

/-- A value. `depth` is how many containers may still be opened; `fuel` bounds the
steps and the length of the text is always enough. -/
def readValue (depth : Nat) : Nat → List Char → Read Json
  | 0, _ => none
  | fuel + 1, s =>
      match skipBlanks s with
      | [] => none
      | c :: rest =>
          if c = '"' then (readString [] (rest.length + 1) rest).map fun (t, after) => (.string t, after)
          else if c = '[' then
            match depth with
            | 0 => none
            | depth + 1 =>
                match skipBlanks rest with
                | ']' :: after => some (.array [], after)
                | _ => readItems depth [] fuel rest
          else if c = '\x7b' then
            match depth with
            | 0 => none
            | depth + 1 =>
                match skipBlanks rest with
                | '\x7d' :: after => some (.object [], after)
                | _ => readMembers depth [] fuel rest
          else if c = 'n' then readWord "null" .null (c :: rest)
          else if c = 't' then readWord "true" (.bool true) (c :: rest)
          else if c = 'f' then readWord "false" (.bool false) (c :: rest)
          else (Number.read (c :: rest)).map fun (n, after) => (.number n, after)

/-- Items of an array up to its closing bracket. -/
def readItems (depth : Nat) (acc : List Json) : Nat → List Char → Read Json
  | 0, _ => none
  | fuel + 1, s =>
      match readValue depth fuel s with
      | none => none
      | some (item, after) =>
          match skipBlanks after with
          | ',' :: more => readItems depth (item :: acc) fuel more
          | ']' :: more => some (.array (item :: acc).reverse, more)
          | _ => none

/-- Members of an object up to its closing brace. -/
def readMembers (depth : Nat) (acc : List (String × Json)) : Nat → List Char → Read Json
  | 0, _ => none
  | fuel + 1, s =>
      match skipBlanks s with
      | '"' :: rest =>
          match readString [] (rest.length + 1) rest with
          | none => none
          | some (key, after) =>
              match skipBlanks after with
              | ':' :: more =>
                  match readValue depth fuel more with
                  | none => none
                  | some (value, after) =>
                      match skipBlanks after with
                      | ',' :: more => readMembers depth ((key, value) :: acc) fuel more
                      | '\x7d' :: more => some (.object ((key, value) :: acc).reverse, more)
                      | _ => none
              | _ => none
      | _ => none

end

/-- How deep arrays and objects may nest. -/
def maxDepth : Nat := 127

/-- The value a text holds, with the members of objects as written. -/
def parseRaw? (text : String) : Option Json :=
  let s := text.toList
  match readValue maxDepth (2 * s.length + 2) s with
  | some (value, rest) => if (skipBlanks rest).isEmpty then some value else none
  | none => none

/-- The value a text holds. -/
def parse? (text : String) : Option Json :=
  (parseRaw? text).map collapse

end Reshape.Json
