/-
Module: Reshape.Call.Member.Text
Purpose: the members of strings.
Main exports: Member.ofText?
Trusted boundary: none
-/
import Reshape.Call.Error
import Reshape.Json.Coercion
import Reshape.Text.LetterCase
import Reshape.Text.Search

/-!
# Members of strings

Positions and lengths count characters. An argument that is missing or null is left
at its default; any other is read as text or as an integer.
-/

namespace Reshape.Member

open Reshape.Json (index? sliceRange)

/-- The argument at a position as text; null counts as missing. -/
def textArg? (args : List Json) (position : Nat) : Option String :=
  match args[position]? with
  | none | some .null => none
  | some value => some value.display

/-- The argument at a position as characters, empty when missing. -/
def charsArg (args : List Json) (position : Nat) : List Char :=
  ((textArg? args position).getD "").toList

/-- The stretch between two positions. -/
def between {α : Type} (start stop : Nat) (xs : List α) : List α :=
  (xs.drop start).take (stop - start)

def ofChars (s : List Char) : Json :=
  .string (String.ofList s)

/-- The parts of a text around a separator: the whole text when there is none, and
single characters when it is empty. -/
def splitBy (separator : Option String) (s : List Char) : List (List Char) :=
  match separator with
  | none => [s]
  | some sep => if h : sep.toList = [] then s.map ([·]) else Text.splitOn sep.toList h s

/-- A position that counts from the end when it is negative; none is before the
start. -/
def positionOf? (index : Int) (length : Nat) : Option Nat :=
  let position := if index < 0 then (length : Int) + index else index
  if position < 0 then none else some position.toNat

/-- An integer argument moved into a text of the given length. -/
def clampArg (argument : Option Json) (default length : Nat) : Nat :=
  match index? argument with
  | some i => (clampInt 0 length i).toNat
  | none => default

/-- `length` characters of a text that is repeated without end. -/
def cycleTake (fill : List Char) (hf : fill ≠ []) (length : Nat) : List Char :=
  if _h : length ≤ fill.length then fill.take length
  else fill ++ cycleTake fill hf (length - fill.length)
termination_by length
decreasing_by
  have := List.length_pos_iff.2 hf
  omega

/-- Extend a text to a length with a fill on one side. -/
def pad (atStart : Bool) (s : List Char) (args : List Json) : Except CallError Json :=
  let target := (max ((index? args[0]?).getD 0) 0).toNat
  let fill := ((textArg? args 1).getD " ").toList
  if hf : fill = [] then .ok (ofChars s)
  else if target ≤ s.length then .ok (ofChars s)
  else (builtLength target "padded string").map fun target =>
    let padding := cycleTake fill hf (target - s.length)
    ofChars (if atStart then padding ++ s else s ++ padding)

/-- A text a number of times. -/
def repeated (s : List Char) (args : List Json) : Except CallError Json :=
  let count := (index? args[0]?).getD 0
  if count < 0 then .error (.negativeRepeat count)
  else if s = [] ∨ count = 0 then .ok (.string "")
  else (builtLength (s.length * count.toNat) "repeated string").map fun _ =>
    ofChars (List.replicate count.toNat s).flatten

/-- The part of a text between two positions in either order. -/
def substring (s : List Char) (args : List Json) : List Char :=
  let a := clampArg args[0]? 0 s.length
  let b : Nat := match (args[1]? : Option Json) with
    | none | some .null => s.length
    | some value => clampArg (some value) s.length s.length
  between (min a b) (max a b) s

def slice (s : List Char) (args : List Json) : List Char :=
  let range := sliceRange args[0]? args[1]? s.length
  between range.1 range.2 s

/-- The character at a position from the start. -/
def charAt (s : List Char) (args : List Json) : List Char :=
  let index := (index? args[0]?).getD 0
  if index < 0 then [] else (s[index.toNat]?.map ([·])).getD []

/-- The character at a position from either end, or null. -/
def charFrom (s : List Char) (args : List Json) : Json :=
  match (positionOf? ((index? args[0]?).getD 0) s.length).bind (s[·]?) with
  | some c => ofChars [c]
  | none => .null

/-- The position of the leftmost occurrence, or -1. -/
def indexOf (s : List Char) (args : List Json) : Json :=
  match Text.indexOf? (charsArg args 0) s with
  | some position => .ofInt position
  | none => .ofInt (-1)

/-- The parts of a text, at most as many as the second argument says. -/
def split (s : List Char) (args : List Json) : Json :=
  let parts := splitBy (textArg? args 0) s
  let limited := match index? args[1]? with
    | some n => parts.take (max n 0).toNat
    | none => parts
  .array (limited.map ofChars)

/-- The member of a string with a given name, applied to arguments. -/
def ofText? (text : String) (name : String) (args : List Json) : Option (Except CallError Json) :=
  let s := text.toList
  match name with
  | "toUpperCase" => some (.ok (ofChars (Text.upper s)))
  | "toLowerCase" => some (.ok (ofChars (Text.lower s)))
  | "trim" => some (.ok (ofChars (Text.trim s)))
  | "trimStart" => some (.ok (ofChars (Text.trimStart s)))
  | "trimEnd" => some (.ok (ofChars (Text.trimEnd s)))
  | "toString" => some (.ok (.string text))
  | "split" => some (.ok (split s args))
  | "slice" => some (.ok (ofChars (slice s args)))
  | "substring" => some (.ok (ofChars (substring s args)))
  | "charAt" => some (.ok (ofChars (charAt s args)))
  | "at" => some (.ok (charFrom s args))
  | "indexOf" => some (.ok (indexOf s args))
  | "includes" => some (.ok (.bool (Text.cut? (charsArg args 0) s).isSome))
  | "startsWith" => some (.ok (.bool ((charsArg args 0).isPrefixOf s)))
  | "endsWith" => some (.ok (.bool ((charsArg args 0).isSuffixOf s)))
  | "replace" => some (.ok (ofChars (Text.replaceFirst (charsArg args 0) (charsArg args 1) s)))
  | "replaceAll" => some (.ok (ofChars (Text.replaceAll (charsArg args 0) (charsArg args 1) s)))
  | "concat" => some (.ok (ofChars (s ++ args.flatMap (·.display.toList))))
  | "padStart" => some (pad true s args)
  | "padEnd" => some (pad false s args)
  | "repeat" => some (repeated s args)
  | _ => none

end Reshape.Member
