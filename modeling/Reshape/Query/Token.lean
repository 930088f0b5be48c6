/-
Module: Reshape.Query.Token
Purpose: the tokens of query text.
Main exports: Query.Token, Query.tokens?
Trusted boundary: stands for the parser of query documents that the program is given and that is no
  part of it
-/
import Reshape.Decimal.Reading
import Reshape.Json.Reader
import Reshape.Text.Blank
import Reshape.Text.Search
import Reshape.Text.Split

/-!
# Tokens

Blanks, commas, byte order marks and comments separate tokens. A number reaches up
to the next separator or bracket and has to be a number as a whole. Brackets may
be open at most 50 deep.
-/

namespace Reshape.Query

/-- A word, sign or literal. -/
inductive Token where
  /-- One of the signs `! $ : = @ | & ( ) [ ] { }`. -/
  | sign (char : Char)
  | ellipsis
  | name (text : String)
  | integer (value : Int)
  | double (value : Float)
  | string (value : String)
  deriving Inhabited

/-! ## Characters -/

/-- Characters between tokens. -/
def isSeparator (c : Char) : Bool :=
  c == ' ' || c == ',' || c == '\n' || c == '\t' || c == '\r' || c == '\ufeff'

def isOpening (c : Char) : Bool :=
  c == '(' || c == '[' || c == '\x7b'

def isClosing (c : Char) : Bool :=
  c == ')' || c == ']' || c == '\x7d'

def isSign (c : Char) : Bool :=
  isOpening c || isClosing c || "!$:=@|&".toList.contains c

def isNameFirst (c : Char) : Bool :=
  c.isAlpha || c == '_'

def isNameChar (c : Char) : Bool :=
  c.isAlphanum || c == '_'

/-- Characters that end a number. -/
def endsNumber (c : Char) : Bool :=
  isSign c || c == '#' || (isSeparator c && c != '\ufeff')

/-! ## Numbers -/

/-- Whether a text is an integer without leading zeros. -/
def isInteger (s : List Char) : Bool :=
  match s with
  | '-' :: digits => isUnsigned digits
  | digits => isUnsigned digits
where
  isUnsigned (digits : List Char) : Bool :=
    digits == ['0'] || (!digits.isEmpty && digits.head? != some '0' && digits.all Char.isDigit)

/-- Whether a text may follow the letter of an exponent. Without a sign it may begin
neither with zero nor with nine. -/
def isExponent : List Char → Bool
  | [] => false
  | c :: rest => (c == '+' || c == '-' || ('0' < c && c < '9')) && rest.all Char.isDigit

/-- The number that a text writes: an integer of 64 bits with sign when it has
neither point nor exponent, else a double with digits on both sides of its point. -/
def number? (s : List Char) : Option Token :=
  let mantissa := s.takeWhile fun c => c != 'e' && c != 'E'
  let whole := mantissa.takeWhile (· != '.')
  let fraction := mantissa.drop whole.length
  let behind := s.drop mantissa.length
  if !isInteger whole then none
  else if whole.length = s.length then
    let i : Int := match s with
      | '-' :: digits => -(Decimal.ofDigits digits : Int)
      | digits => Decimal.ofDigits digits
    if minInt64 ≤ i ∧ i ≤ maxInt64 then some (.integer i) else none
  else if (fraction.isEmpty || (fraction.length > 1 && (fraction.drop 1).all Char.isDigit)) &&
      (behind.isEmpty || isExponent (behind.drop 1)) then
    (Decimal.readFloat? s).map .double
  else none

/-! ## Strings -/

/-- The value of up to eight hexadecimal digits, which a plus sign may precede. -/
def hexNumber? (s : List Char) : Option Nat :=
  let digits := match s with
    | '+' :: rest => rest
    | rest => rest
  if digits.isEmpty then none
  else digits.foldlM (fun acc c => (Json.hexValue? c).map (16 * acc + ·)) 0

/-- The character that a backslash and a letter stand for. -/
def escapedChar? : Char → Option Char
  | '"' => some '"'
  | '\\' => some '\\'
  | '/' => some '/'
  | 'b' => some '\x10'
  | 'f' => some '\x0c'
  | 'n' => some '\n'
  | 'r' => some '\r'
  | 't' => some '\t'
  | _ => none

/-- The text between quotes with its escapes replaced. -/
def unescape? : List Char → Option (List Char)
  | [] => some []
  | '\\' :: 'u' :: a :: b :: c :: d :: rest =>
      match hexNumber? [a, b, c, d] with
      | some n => if n.isValidChar then (unescape? rest).map (Char.ofNat n :: ·) else none
      | none => none
  | '\\' :: c :: rest =>
      match escapedChar? c with
      | some d => (unescape? rest).map (d :: ·)
      | none => none
  | ['\\'] => none
  | c :: rest => (unescape? rest).map (c :: ·)

/-- The text up to the closing quote, and the text after it. A backslash keeps the
next character from closing the string; a line break may not stand in it. -/
def takeString? : List Char → Option (List Char × List Char)
  | [] => none
  | '"' :: rest => some ([], rest)
  | '\n' :: _ => none
  | '\\' :: '\n' :: _ => none
  | '\\' :: c :: rest =>
      (takeString? rest).map fun (inside, after) => ('\\' :: c :: inside, after)
  | c :: rest => (takeString? rest).map fun (inside, after) => (c :: inside, after)

/-- The text up to three closing quotes, and the text after them. Three quotes with a
backslash in front are part of the text. -/
def takeBlock? : List Char → Option (List Char × List Char)
  | [] => none
  | '\\' :: '"' :: '"' :: '"' :: rest =>
      (takeBlock? rest).map fun (inside, after) => ("\\\"\"\"".toList ++ inside, after)
  | '"' :: '"' :: '"' :: rest => some ([], rest)
  | c :: rest => (takeBlock? rest).map fun (inside, after) => (c :: inside, after)

/-- The length of a text in UTF-8. -/
def byteLength : List Char → Nat
  | [] => 0
  | c :: rest => c.utf8Size + byteLength rest

/-- How far a line is indented, in bytes; a blank line has no indent. -/
def indent? (line : List Char) : Option Nat :=
  if line.all Text.isBlank then none
  else some (byteLength (line.takeWhile Text.isBlank))

/-- A line without its first `count` bytes, if it is that long. -/
def dropBytes (count : Nat) : List Char → List Char
  | [] => []
  | c :: rest => if count = 0 then c :: rest else dropBytes (count - c.utf8Size) rest

/-- A line with the escaped quotes of a block string restored. -/
def restoreQuotes (line : List Char) : List Char :=
  Text.replaceAll "\\\"\"\"".toList "\"\"\"".toList line

/-- The value of a block string: blank lines at both ends are left out, and so is the
indent that all lines but the first have in common. -/
def blockValue (s : List Char) : String :=
  let lines := Text.lines s
  let common := ((lines.drop 1).filterMap indent?).min?
  let unindented := match common with
    | some n => lines.take 1 ++ (lines.drop 1).map fun line =>
        if byteLength line ≥ n then dropBytes n line else line
    | none => lines
  let flagged := lines.zip unindented
  let started := flagged.dropWhile fun (line, _) => (indent? line).isNone
  let kept := (started.reverse.dropWhile fun (line, _) => (indent? line).isNone).reverse
  String.ofList (['\n'].intercalate (kept.map fun (_, line) => restoreQuotes line))

/-! ## The tokens of a text -/

/-- The tokens of a text, when all of it is tokens. -/
def scan : Nat → List Char → Option (List Token)
  | 0, _ => none
  | _ + 1, [] => some []
  | fuel + 1, c :: rest =>
      if isSeparator c then scan fuel rest
      else if c = '#' then scan fuel (rest.dropWhile fun d => d != '\n' && d != '\r')
      else if isSign c then (scan fuel rest).map (.sign c :: ·)
      else if c = '.' then
        match rest with
        | '.' :: '.' :: more => (scan fuel more).map (.ellipsis :: ·)
        | _ => none
      else if isNameFirst c then
        (scan fuel (rest.dropWhile isNameChar)).map
          (.name (String.ofList (c :: rest.takeWhile isNameChar)) :: ·)
      else if c = '-' ∨ c.isDigit then
        match number? (c :: rest.takeWhile (!endsNumber ·)) with
        | some token => (scan fuel (rest.dropWhile (!endsNumber ·))).map (token :: ·)
        | none => none
      else if c = '"' then
        match rest with
        | '"' :: '"' :: more =>
            match takeBlock? more with
            | some (inside, after) => (scan fuel after).map (.string (blockValue inside) :: ·)
            | none => none
        | _ =>
            match takeString? rest with
            | some (inside, after) =>
                match unescape? inside with
                | some value => (scan fuel after).map (.string (String.ofList value) :: ·)
                | none => none
            | none => none
      else none

/-- How deep brackets may be open. -/
def maxOpen : Nat := 50

/-- Whether no more than `room` brackets more than now are ever open. -/
def staysWithin (room : Nat) : List Token → Bool
  | [] => true
  | .sign c :: rest =>
      if isOpening c then
        match room with
        | 0 => false
        | room + 1 => staysWithin room rest
      else if isClosing c then staysWithin (room + 1) rest
      else staysWithin room rest
  | _ :: rest => staysWithin room rest

/-- The tokens of query text. -/
def tokens? (text : String) : Option (List Token) :=
  match scan (text.length + 1) text.toList with
  | some tokens => if staysWithin maxOpen tokens then some tokens else none
  | none => none

end Reshape.Query
