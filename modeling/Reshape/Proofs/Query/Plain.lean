/-
Module: Reshape.Proofs.Query.Plain
Purpose: documents that can be seen to print exactly, character by character.
Main exports: Query.Document.isPlain, Query.Document.printsExactly_of_isPlain
Trusted boundary: the parser and the printer of query documents that the program is given, for
  which those here stand
-/
import Reshape.Proofs.Query.Printed

/-!
# Plain strings

Between quotes a character stands for itself, or is escaped by a letter, or by its number in
decimal digits, which are read as hexadecimal ones. The number is read as it was written when
it has one digit. So a string prints exactly if it has no line break and of the characters
that need their number only the first ten.
-/

namespace Reshape.Query

/-- A character other than a line break that is scanned as it was. -/
def isPlainChar (c : Char) : Bool :=
  (isPrintable c && c != '\n') || c.toNat < 10

mutual

/-- Whether a value has no doubles, and strings of plain characters only. -/
def Value.isPlain : Value → Bool
  | .double _ => false
  | .string s => s.toList.all isPlainChar
  | .list items => Value.areItemsPlain items
  | .object fields => Value.areFieldsPlain fields
  | .variable _ | .integer _ | .bool _ | .null | .enumeration _ => true

def Value.areItemsPlain : List Value → Bool
  | [] => true
  | item :: rest => item.isPlain && Value.areItemsPlain rest

def Value.areFieldsPlain : List (String × Value) → Bool
  | [] => true
  | (_, value) :: rest => value.isPlain && Value.areFieldsPlain rest

end

def Directive.arePlain (directives : List Directive) : Bool :=
  directives.all fun directive => Value.areFieldsPlain directive.arguments

mutual

def Selection.isPlain : Selection → Bool
  | .field _ _ arguments directives selections =>
      Value.areFieldsPlain arguments && Directive.arePlain directives &&
        Selection.arePlain selections
  | .spread _ directives => Directive.arePlain directives
  | .inline _ directives selections =>
      Directive.arePlain directives && Selection.arePlain selections

def Selection.arePlain : List Selection → Bool
  | [] => true
  | selection :: rest => selection.isPlain && Selection.arePlain rest

end

def Header.isPlain (header : Header) : Bool :=
  header.declared.all (fun v => v.default?.all Value.isPlain) &&
    Directive.arePlain header.directives

def Definition.isPlain : Definition → Bool
  | .operation header selections => header.all Header.isPlain && Selection.arePlain selections
  | .fragment _ _ directives selections =>
      Directive.arePlain directives && Selection.arePlain selections

/-- Whether every value in a document is plain. -/
def Document.isPlain (document : Document) : Bool :=
  document.all Definition.isPlain

/-! ### Characters -/

/-- A text that is taken as a whole between quotes, and stands for a character there. -/
def StandsFor (text : List Char) (c : Char) : Prop :=
  ∀ rest, takeString? (text ++ rest) =
      (takeString? rest).map (fun (inside, after) => (text ++ inside, after)) ∧
    unescape? (text ++ rest) = (unescape? rest).map (c :: ·)

theorem standsFor_self {c : Char} (quote : c ≠ '"') (escape : c ≠ '\\') (newline : c ≠ '\n') :
    StandsFor [c] c := by
  intro rest
  constructor
  · rw [List.singleton_append, takeString?]
    · rfl
    all_goals simp [quote, escape, newline]
  · rw [List.singleton_append, unescape?]
    all_goals simp [escape]

theorem standsFor_number {n : Nat} (small : n < 10) :
    StandsFor ('\\' :: 'u' :: fourDigits n) (Char.ofNat n) := by
  have digits : ∀ n < 10, fourDigits n = ['0', '0', '0', Nat.digitChar n] := by decide
  rw [digits n small]
  intro rest
  match n, small with
  | 0, _ | 1, _ | 2, _ | 3, _ | 4, _ | 5, _ | 6, _ | 7, _ | 8, _ | 9, _ =>
      exact ⟨by simp [takeString?, Nat.digitChar, Function.comp_def], rfl⟩

theorem standsFor_writeChar {c : Char} (plain : isPlainChar c = true) :
    StandsFor (writeChar c) c := by
  unfold writeChar
  split
  · exact fun rest => ⟨rfl, rfl⟩
  · cases plain
  · exact fun rest => ⟨rfl, rfl⟩
  · exact fun rest => ⟨rfl, rfl⟩
  · exact fun rest => ⟨rfl, rfl⟩
  · next _ newline _ quote escape =>
      split
      · exact standsFor_self quote escape newline
      · next unprintable =>
          have small : c.toNat < 10 := by simpa [isPlainChar, unprintable] using plain
          have number := standsFor_number small
          rwa [Char.ofNat_toNat] at number

/-- The text of plain characters is taken up to the quote behind it, and stands for them. -/
theorem takeString?_flatMap {chars : List Char} (plain : ∀ c ∈ chars, isPlainChar c = true) :
    takeString? (chars.flatMap writeChar ++ ['"']) = some (chars.flatMap writeChar, []) ∧
      unescape? (chars.flatMap writeChar) = some chars := by
  induction chars with
  | nil => exact ⟨rfl, rfl⟩
  | cons c rest ih =>
      have first := standsFor_writeChar (plain c (List.mem_cons_self ..))
      obtain ⟨taken, value⟩ := ih fun d inside => plain d (List.mem_cons_of_mem _ inside)
      rw [List.flatMap_cons, List.append_assoc, (first _).1, (first _).2, taken, value]
      exact ⟨rfl, rfl⟩

theorem head?_flatMap_ne_quote (chars : List Char) (more : List Char) :
    chars.flatMap writeChar ++ ['"'] ≠ '"' :: '"' :: more := by
  cases chars with
  | nil => simp
  | cons c rest =>
      rw [List.flatMap_cons]
      unfold writeChar
      split
      case h_6 => split <;> simp_all
      all_goals simp

/-- A string of plain characters is scanned as it was. -/
theorem token?_writeString {s : String} (plain : ∀ c ∈ s.toList, isPlainChar c = true)
    (depth : Nat) : token? (writeString depth s) = some (.string s, []) := by
  have oneLine : s.toList.contains '\n' = false := by
    apply Bool.eq_false_iff.2
    intro newline
    have isPlain := plain '\n' (by simpa using newline)
    cases isPlain
  have text : writeString depth s = '"' :: (s.toList.flatMap writeChar ++ ['"']) := by
    simp only [writeString, oneLine, Bool.false_and, Bool.false_eq_true, if_false, List.cons_append]
  obtain ⟨taken, value⟩ := takeString?_flatMap plain
  have read : stringToken? (s.toList.flatMap writeChar ++ ['"']) = some (.string s, []) := by
    rw [stringToken?, taken]
    · simp [value]
    · exact head?_flatMap_ne_quote _
  have quoted : ∀ rest, token? ('"' :: rest) = stringToken? rest := fun _ => rfl
  rw [text, quoted, read]

/-! ### Documents -/

mutual

theorem Value.printsExactly_of_isPlain {v : Value} (plain : v.isPlain = true) (depth : Nat) :
    v.PrintsExactly depth := by
  match v with
  | .double _ => cases plain
  | .string s => exact token?_writeString (List.all_eq_true.1 plain) depth
  | .list items => exact Value.itemsPrintExactly_of_arePlain plain depth
  | .object fields => exact Value.fieldsPrintExactly_of_arePlain plain depth
  | .variable _ | .integer _ | .bool _ | .null | .enumeration _ => trivial

theorem Value.itemsPrintExactly_of_arePlain {items : List Value}
    (plain : Value.areItemsPlain items = true) (depth : Nat) :
    Value.ItemsPrintExactly depth items := by
  match items with
  | [] => trivial
  | item :: rest =>
      obtain ⟨first, others⟩ := Bool.and_eq_true_iff.1 plain
      exact ⟨Value.printsExactly_of_isPlain first depth,
        Value.itemsPrintExactly_of_arePlain others depth⟩

theorem Value.fieldsPrintExactly_of_arePlain {fields : List (String × Value)}
    (plain : Value.areFieldsPlain fields = true) (depth : Nat) :
    Value.FieldsPrintExactly depth fields := by
  match fields with
  | [] => trivial
  | (_, value) :: rest =>
      obtain ⟨first, others⟩ := Bool.and_eq_true_iff.1 plain
      exact ⟨Value.printsExactly_of_isPlain first depth,
        Value.fieldsPrintExactly_of_arePlain others depth⟩

end

theorem directivesPrintExactly_of_arePlain {directives : List Directive}
    (plain : Directive.arePlain directives = true) (depth : Nat) :
    DirectivesPrintExactly depth directives := by
  intro directive inside
  exact Value.fieldsPrintExactly_of_arePlain (List.all_eq_true.1 plain directive inside) depth

mutual

theorem Selection.printsExactly_of_isPlain {selection : Selection}
    (plain : selection.isPlain = true) (depth : Nat) : selection.PrintsExactly depth := by
  match selection with
  | .field _ _ arguments directives selections =>
      obtain ⟨both, inner⟩ := Bool.and_eq_true_iff.1 plain
      obtain ⟨plainArguments, plainDirectives⟩ := Bool.and_eq_true_iff.1 both
      exact ⟨Value.fieldsPrintExactly_of_arePlain plainArguments depth,
        directivesPrintExactly_of_arePlain plainDirectives depth,
        Selection.allPrintExactly_of_arePlain inner (depth + 1)⟩
  | .spread _ directives => exact directivesPrintExactly_of_arePlain plain depth
  | .inline _ directives selections =>
      obtain ⟨plainDirectives, inner⟩ := Bool.and_eq_true_iff.1 plain
      exact ⟨directivesPrintExactly_of_arePlain plainDirectives depth,
        Selection.allPrintExactly_of_arePlain inner (depth + 1)⟩

theorem Selection.allPrintExactly_of_arePlain {selections : List Selection}
    (plain : Selection.arePlain selections = true) (depth : Nat) :
    Selection.AllPrintExactly depth selections := by
  match selections with
  | [] => trivial
  | selection :: rest =>
      obtain ⟨first, others⟩ := Bool.and_eq_true_iff.1 plain
      exact ⟨Selection.printsExactly_of_isPlain first depth,
        Selection.allPrintExactly_of_arePlain others depth⟩

end

theorem Header.printsExactly_of_isPlain {header : Header} (plain : header.isPlain = true) :
    header.PrintsExactly := by
  obtain ⟨declared, directives⟩ := Bool.and_eq_true_iff.1 plain
  refine ⟨?_, directivesPrintExactly_of_arePlain directives 0⟩
  intro v inside value default
  have plainDefault := List.all_eq_true.1 declared v inside
  rw [default] at plainDefault
  exact value.printsExactly_of_isPlain plainDefault 0

theorem Definition.printsExactly_of_isPlain {definition : Definition}
    (plain : definition.isPlain = true) : definition.PrintsExactly := by
  match definition with
  | .operation header selections =>
      obtain ⟨plainHeader, inner⟩ := Bool.and_eq_true_iff.1 plain
      refine ⟨?_, Selection.allPrintExactly_of_arePlain inner 1⟩
      rintro h rfl
      exact h.printsExactly_of_isPlain plainHeader
  | .fragment _ _ directives selections =>
      obtain ⟨plainDirectives, inner⟩ := Bool.and_eq_true_iff.1 plain
      exact ⟨directivesPrintExactly_of_arePlain plainDirectives 0,
        Selection.allPrintExactly_of_arePlain inner 1⟩

/-- The values in a plain document print exactly. -/
theorem Document.printsExactly_of_isPlain {document : Document}
    (plain : document.isPlain = true) : document.PrintsExactly := by
  intro definition inside
  exact definition.printsExactly_of_isPlain (List.all_eq_true.1 plain definition inside)

end Reshape.Query
