/-
Module: Reshape.Proofs.Text.Classes
Purpose: runs of characters of one class, blanks at the ends of a text, and which classes of
  characters exclude each other.
Main exports: Text.takeWhile_run, Text.dropWhile_run, Text.trim_eq_self,
  Text.CharRange.covers_of_apart
Trusted boundary: none
-/
import Mathlib.Data.List.TakeWhile
import Reshape.Text.Blank
import Reshape.Text.Word

/-!
# Classes of characters

The classes are given by ranges of code points. Two of them exclude each other when their
ranges lie apart.
-/

namespace Reshape.Text

/-! ### Runs -/

/-- A run of a class ends where a character comes that is not in the class. -/
theorem takeWhile_run {inClass : Char → Bool} {run rest : List Char}
    (all : ∀ c ∈ run, inClass c = true) (stops : ∀ c ∈ rest.head?, inClass c = false) :
    (run ++ rest).takeWhile inClass = run := by
  rw [List.takeWhile_append_of_pos all]
  cases rest with
  | nil => simp
  | cons c rest => simp [stops c rfl]

theorem dropWhile_run {inClass : Char → Bool} {run rest : List Char}
    (all : ∀ c ∈ run, inClass c = true) (stops : ∀ c ∈ rest.head?, inClass c = false) :
    (run ++ rest).dropWhile inClass = rest := by
  rw [List.dropWhile_append_of_pos all]
  cases rest with
  | nil => rfl
  | cons c rest => simp [stops c rfl]

/-- What follows a run does not go on with its class. -/
theorem head?_dropWhile (inClass : Char → Bool) (s : List Char) :
    ∀ c ∈ (s.dropWhile inClass).head?, inClass c = false := by
  intro c first
  have stops := List.head?_dropWhile_not inClass s
  rwa [Option.mem_def.1 first] at stops

/-! ### Blanks at the ends -/

/-- Behind a trimmed text no blank is left. -/
theorem getLast?_trim (s : List Char) : ∀ c ∈ (trim s).getLast?, isBlank c = false := by
  intro c last
  rw [trim, trimEnd, List.getLast?_reverse] at last
  exact head?_dropWhile _ _ c last

/-- Nor is one left in front of it. -/
theorem head?_trim (s : List Char) : ∀ c ∈ (trim s).head?, isBlank c = false := by
  intro c first
  have isPrefix : trim s <+: trimStart s :=
    List.reverse_suffix.1 (by
      rw [trim, trimEnd, List.reverse_reverse]
      exact List.dropWhile_suffix _)
  obtain ⟨rest, whole⟩ := List.head?_eq_some_iff.1 first
  obtain ⟨more, start⟩ := isPrefix
  refine head?_dropWhile _ s c ?_
  rw [← trimStart, ← start, whole]
  rfl

/-- A text without blanks at its ends stays as it is. -/
theorem trim_eq_self {s : List Char} (first : ∀ c ∈ s.head?, isBlank c = false)
    (last : ∀ c ∈ s.getLast?, isBlank c = false) : trim s = s := by
  have start : trimStart s = s := @dropWhile_run _ [] s nofun first
  rw [← List.head?_reverse] at last
  have stop : s.reverse.dropWhile isBlank = s.reverse := @dropWhile_run _ [] _ nofun last
  rw [trim, start, trimEnd, stop, List.reverse_reverse]

theorem trim_trim (s : List Char) : trim (trim s) = trim s :=
  trim_eq_self (head?_trim s) (getLast?_trim s)

/-! ### Ranges -/

namespace CharRange

theorem covers_eq_true {ranges : List CharRange} {point : Nat} :
    covers ranges point = true ↔ ∃ range ∈ ranges, range.1 ≤ point ∧ point ≤ range.2 := by
  simp [covers]

/-- Ranges that lie apart pair by pair have no code point in common. -/
theorem covers_of_apart {ranges others : List CharRange} {point : Nat}
    (apart : (ranges.all fun range => others.all fun other =>
      decide (range.2 < other.1) || decide (other.2 < range.1)) = true)
    (inside : covers ranges point = true) : covers others point = false := by
  obtain ⟨range, listed, low, high⟩ := covers_eq_true.1 inside
  refine Bool.eq_false_iff.2 fun covered => ?_
  obtain ⟨other, others, low', high'⟩ := covers_eq_true.1 covered
  have between := List.all_eq_true.1 (List.all_eq_true.1 apart range listed) other others
  simp only [Bool.or_eq_true, decide_eq_true_eq] at between
  omega

end CharRange

theorem isDecimalDigit_of_isDigit {c : Char} (digit : c.isDigit = true) :
    isDecimalDigit c = true := by
  simp only [Char.isDigit, Bool.and_eq_true, decide_eq_true_eq, UInt32.le_iff_toNat_le] at digit
  exact CharRange.covers_eq_true.2 ⟨(0x30, 0x39), by decide, digit⟩

/-- The decimal digits are those of ASCII and others far beyond. -/
theorem isDigit_of_isDecimalDigit {c : Char} (digit : isDecimalDigit c = true)
    (ascii : c.toNat < 0x80) : c.isDigit = true := by
  have apart : CharRange.covers [(0x0, 0x2f), (0x3a, 0x7f)] c.toNat = false :=
    CharRange.covers_of_apart (by decide) digit
  simp [CharRange.covers] at apart
  simp only [Char.isDigit, Bool.and_eq_true, decide_eq_true_eq, UInt32.le_iff_toNat_le]
  change 0x30 ≤ c.toNat ∧ c.toNat ≤ 0x39
  omega

theorem isBlank_of_isDecimalDigit {c : Char} (digit : isDecimalDigit c = true) :
    isBlank c = false :=
  CharRange.covers_of_apart (by decide) digit

/-- The letters of ASCII. -/
theorem toNat_of_isAlpha {c : Char} (letter : c.isAlpha = true) :
    (0x41 ≤ c.toNat ∧ c.toNat ≤ 0x5a) ∨ (0x61 ≤ c.toNat ∧ c.toNat ≤ 0x7a) := by
  have either : (decide (0x41 ≤ c.val ∧ c.val ≤ 0x5a) ||
      (decide (0x61 ≤ c.val) && decide (c.val ≤ 0x7a))) = true := letter
  simp only [Bool.or_eq_true, Bool.and_eq_true, decide_eq_true_eq, UInt32.le_iff_toNat_le] at either
  exact either

theorem isNameStart_of_isDecimalDigit {c : Char} (digit : isDecimalDigit c = true) :
    isNameStart c = false := by
  have apart : CharRange.covers [(0x41, 0x5a), (0x5f, 0x5f), (0x61, 0x7a)] c.toNat = false :=
    CharRange.covers_of_apart (by decide) digit
  refine Bool.eq_false_iff.2 fun starts => ?_
  rw [Bool.eq_false_iff] at apart
  refine apart (CharRange.covers_eq_true.2 ?_)
  rw [isNameStart, Bool.or_eq_true] at starts
  rcases starts with letter | low
  · rcases toNat_of_isAlpha letter with upper | lower
    · exact ⟨(0x41, 0x5a), by decide, upper⟩
    · exact ⟨(0x61, 0x7a), by decide, lower⟩
  · obtain rfl : c = '_' := by simpa using low
    exact ⟨(0x5f, 0x5f), by decide, by decide⟩

end Reshape.Text
