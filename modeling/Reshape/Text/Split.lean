/-
Module: Reshape.Text.Split
Purpose: the stretches of a text between the occurrences of a character, its lines, and
  its two parts around the last occurrence of a character.
Main exports: splitChar, lines, cutLast?
Trusted boundary: none
-/

namespace Reshape.Text

/-- The stretches between the occurrences of one character; one more than there
are occurrences. -/
def splitChar (separator : Char) : List Char → List (List Char)
  | [] => [[]]
  | c :: s =>
      if c = separator then [] :: splitChar separator s
      else
        match splitChar separator s with
        | [] => [[c]]
        | first :: more => (c :: first) :: more

/-- A line without the carriage return in front of its line break. -/
def dropReturn (line : List Char) : List Char :=
  if line.getLast? = some '\r' then line.dropLast else line

/-- The lines of a text without their line breaks. What follows the last line break is
a line only when it is not empty. -/
def lines (s : List Char) : List (List Char) :=
  let pieces := splitChar '\n' s
  let last := pieces.getLast?.getD []
  pieces.dropLast.map dropReturn ++ (if last.isEmpty then [] else [last])

/-- The text before the last occurrence of a character, and the text after it. -/
def cutLast? (separator : Char) : List Char → Option (List Char × List Char)
  | [] => none
  | c :: s =>
      match cutLast? separator s with
      | some (before, after) => some (c :: before, after)
      | none => if c = separator then some ([], s) else none

theorem cutLast?_eq_none_iff {separator : Char} {s : List Char} :
    cutLast? separator s = none ↔ separator ∉ s := by
  induction s with
  | nil => simp [cutLast?]
  | cons c s ih =>
      rw [cutLast?]
      cases cut : cutLast? separator s with
      | some parts =>
          rw [cut] at ih
          simp_all
      | none =>
          have absent := ih.1 cut
          by_cases here : c = separator <;> simp [here, absent, Ne.symm]

theorem cutLast?_append {separator : Char} {before after : List Char}
    (last : separator ∉ after) :
    cutLast? separator (before ++ separator :: after) = some (before, after) := by
  induction before with
  | nil => simp [cutLast?, cutLast?_eq_none_iff.2 last]
  | cons c before ih => simp [cutLast?, ih]

theorem eq_append_of_cutLast? {separator : Char} {s before after : List Char}
    (cut : cutLast? separator s = some (before, after)) :
    s = before ++ separator :: after ∧ separator ∉ after := by
  induction s generalizing before with
  | nil => cases cut
  | cons c s ih =>
      rw [cutLast?] at cut
      split at cut
      · next found =>
          cases cut
          obtain ⟨rfl, last⟩ := ih found
          exact ⟨rfl, last⟩
      · next absent =>
          split at cut
          · next same =>
              cases cut
              exact ⟨same ▸ rfl, cutLast?_eq_none_iff.1 absent⟩
          · cases cut

end Reshape.Text
