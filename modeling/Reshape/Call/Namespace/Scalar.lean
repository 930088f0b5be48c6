/-
Module: Reshape.Call.Namespace.Scalar
Purpose: the namespaces Number, String and Boolean.
Main exports: Namespace.number?, Namespace.string?, Namespace.boolean?,
  Namespace.parseInteger
Trusted boundary: none
-/
import Reshape.Call.Error
import Reshape.Call.Namespace.Invocation
import Reshape.Json.Coercion
import Reshape.Text.Word

namespace Reshape.Namespace

/-- The argument at a position, null when missing. -/
def arg (args : List Json) (position : Nat) : Json :=
  args[position]?.getD .null

/-! ## Number -/

/-- The longest start of a text that looks like an exponent: a letter, an optional
sign and digits of any script. -/
def exponentPrefix (s : List Char) : List Char :=
  match s with
  | e :: rest =>
      let sign := (rest.take 1).filter fun c => c == '+' || c == '-'
      let digits := (rest.drop sign.length).takeWhile Text.isDecimalDigit
      if (e = 'e' ∨ e = 'E') ∧ digits ≠ [] then e :: sign ++ digits else []
  | [] => []

/-- The longest start of a text that looks like a number without sign. -/
def unsignedPrefix (s : List Char) : List Char :=
  let whole := s.takeWhile Text.isDecimalDigit
  let rest := s.drop whole.length
  let fraction := match rest with
    | '.' :: more => '.' :: more.takeWhile Text.isDecimalDigit
    | _ => []
  if whole ≠ [] then whole ++ fraction ++ exponentPrefix (rest.drop fraction.length)
  else if fraction.length ≥ 2 then fraction ++ exponentPrefix (rest.drop fraction.length)
  else if "Infinity".toList.isPrefixOf s then "Infinity".toList
  else []

/-- The number at the start of a text; null when there is none. -/
def parseDouble (text : String) : Json :=
  let s := Text.trimStart text.toList
  let sign := (s.take 1).filter fun c => c == '+' || c == '-'
  match unsignedPrefix (s.drop sign.length) with
  | [] => .null
  | found =>
      match Decimal.readFloat? (sign ++ found) with
      | some x => .ofFloat x
      | none => .null

/-- The value of a digit in a radix up to 36; letters of both cases count from ten. -/
def radixDigit? (radix : Nat) (c : Char) : Option Nat :=
  let value :=
    if c.isDigit then c.toNat - 48
    else if c.isLower then c.toNat - 87
    else if c.isUpper then c.toNat - 55
    else 36
  if value < radix then some value else none

/-- The natural number that the digits at the start of a text write, and how many
digits there are. -/
def readDigits (radix : Nat) (acc count : Nat) : List Char → Nat × Nat
  | [] => (acc, count)
  | c :: rest =>
      match radixDigit? radix c with
      | some d => readDigits radix (radix * acc + d) (count + 1) rest
      | none => (acc, count)

/-- Without the mark of hexadecimal digits. -/
def dropHexMark : List Char → List Char
  | '0' :: 'x' :: rest => rest
  | '0' :: 'X' :: rest => rest
  | s => s

/-- The integer at the start of a text; null when there is none or its magnitude is
above `maxInt64`. -/
def parseInteger (text : String) (radix : Nat) : Json :=
  let (negative, rest) := Decimal.splitSign (Text.trimStart text.toList)
  let digits := if radix = 16 then dropHexMark rest else rest
  let (n, count) := readDigits radix 0 0 digits
  if count = 0 ∨ maxInt64 < n then .null
  else .ofInt (if negative then -(n : Int) else n)

/-- The radix that an argument gives: ten unless it is from 2 to 36. -/
def radixOf (argument : Option Json) : Nat :=
  match argument with
  | some value =>
      let r := value.toNumber
      if 2 ≤ r && r ≤ 36 then (Double.toInt64 r).toNat else 10
  | none => 10

def number? (use : Invocation) (args : List Json) : Option Json :=
  match use with
  | .construct | .call => some (.ofFloat (arg args 0).toNumber)
  | .static "isInteger" =>
      some (.bool ((arg args 0).number?.any fun n => Double.isWhole n.toFloat))
  | .static "isFinite" =>
      some (.bool ((arg args 0).number?.any fun n => Binary.isFinite n.toFloat))
  | .static "isNaN" => some (.bool ((arg args 0).number?.any fun n => n.toFloat.isNaN))
  | .static "parseFloat" => some (parseDouble (arg args 0).display)
  | .static "parseInt" => some (parseInteger (arg args 0).display (radixOf args[1]?))
  | .static _ => none

/-! ## String -/

/-- The character with a code point; surrogates and numbers beyond the last
character have none. -/
def charOfCode? (n : Nat) : Option Char :=
  if n < 0xD800 ∨ (0xDFFF < n ∧ n ≤ 0x10FFFF) then some (Char.ofNat n) else none

def string? (use : Invocation) (args : List Json) : Option Json :=
  match use with
  | .construct | .call => some (.string ((args.head?.map Json.display).getD ""))
  | .static "fromCharCode" =>
      some (.string (String.ofList (args.filterMap fun code =>
        charOfCode? (Double.toUInt32 code.toNumber))))
  | .static _ => none

/-! ## Boolean -/

def boolean? (use : Invocation) (args : List Json) : Option Json :=
  match use with
  | .construct | .call => some (.bool (args.head?.any Json.isTruthy))
  | .static _ => none

end Reshape.Namespace
