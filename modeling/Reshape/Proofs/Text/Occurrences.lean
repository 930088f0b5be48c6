/-
Module: Reshape.Proofs.Text.Occurrences
Purpose: which occurrences of a pattern a search from left to right meets, and that splitting
  and replacing meet the same ones.
Main exports: Text.Leftmost, Text.Separated, Text.splitOn_eq_iff,
  Text.replaceEach_eq_intercalate, Text.replaceFirst_of_leftmost
Trusted boundary: none
-/
import Mathlib.Data.List.Basic
import Reshape.Text.Search

/-!
# Occurrences of a pattern

A pattern may overlap itself, so not all of its occurrences can be cut out of a text. The ones
that are lie apart: the leftmost one, then the leftmost one in what follows it. `Separated` says
so without a search, and the text is split, and its occurrences are replaced, along it.
-/

namespace Reshape.Text

variable {pattern replacement s before after : List Char} {parts : List (List Char)}

/-! ### The leftmost occurrence -/

/-- No occurrence of the pattern in `s` begins before the one between `before` and `after`. -/
structure Leftmost (pattern s before after : List Char) : Prop where
  text : s = before ++ pattern ++ after
  first : ∀ front back, s = front ++ pattern ++ back → before.length ≤ front.length

/-- There is one leftmost occurrence at most. -/
theorem Leftmost.unique {front back : List Char} (one : Leftmost pattern s before after)
    (other : Leftmost pattern s front back) : before = front ∧ after = back := by
  have sameLength : before.length = front.length :=
    Nat.le_antisymm (one.first _ _ other.text) (other.first _ _ one.text)
  have sameText : before ++ (pattern ++ after) = front ++ (pattern ++ back) := by
    rw [← List.append_assoc, ← List.append_assoc, ← one.text, ← other.text]
  obtain ⟨sameFront, sameRest⟩ := List.append_inj sameText sameLength
  exact ⟨sameFront, List.append_cancel_left sameRest⟩

/-- A cut is made at an occurrence before which no other begins. -/
theorem leftmost_of_cut? (found : cut? pattern s = some (before, after)) :
    Leftmost pattern s before after := by
  refine ⟨eq_append_of_cut? found, ?_⟩
  induction s generalizing before with
  | nil =>
      obtain ⟨rfl, -⟩ := List.append_eq_nil_iff.1
        (List.append_eq_nil_iff.1 (eq_append_of_cut? found).symm).1
      simp
  | cons c s ih =>
      intro front back occurs
      simp only [cut?] at found
      split at found
      · obtain ⟨rfl, -⟩ := Prod.mk.inj (Option.some.inj found)
        simp
      · next apart =>
          obtain ⟨⟨rest, after⟩, later, same⟩ := Option.map_eq_some_iff.1 found
          obtain ⟨rfl, rfl⟩ := Prod.mk.inj same
          cases front with
          | nil => simp [occurs, List.isPrefixOf_iff_prefix] at apart
          | cons d front =>
              obtain ⟨-, occurs⟩ := List.cons.inj occurs
              simpa using ih later front back occurs

theorem cut?_eq_none_iff : cut? pattern s = none ↔ ¬ pattern <:+: s := by
  constructor
  · rintro missing ⟨front, back, rfl⟩
    induction front with
    | nil =>
        cases pattern with
        | nil => cases back <;> simp [cut?] at missing
        | cons p pattern =>
            have here : (p :: pattern).isPrefixOf (p :: pattern ++ back) = true :=
              List.isPrefixOf_iff_prefix.2 (List.prefix_append _ _)
            rw [List.cons_append] at here
            rw [List.nil_append, List.cons_append, cut?, if_pos here] at missing
            simp at missing
    | cons c front ih =>
        simp only [List.cons_append, cut?] at missing
        split at missing
        · simp at missing
        · exact ih (by simpa using missing)
  · intro absent
    cases found : cut? pattern s with
    | none => rfl
    | some stretches => exact absurd ⟨_, _, (eq_append_of_cut? found).symm⟩ absent

theorem cut?_eq_some_iff :
    cut? pattern s = some (before, after) ↔ Leftmost pattern s before after := by
  refine ⟨leftmost_of_cut?, fun leftmost => ?_⟩
  cases found : cut? pattern s with
  | none => exact absurd ⟨_, _, leftmost.text.symm⟩ (cut?_eq_none_iff.1 found)
  | some stretches =>
      obtain ⟨rfl, rfl⟩ := (leftmost_of_cut? found).unique leftmost
      rfl

/-! ### The stretches between occurrences -/

/-- `parts` are the stretches of a text between the occurrences that lie apart. -/
inductive Separated (pattern : List Char) : List Char → List (List Char) → Prop where
  /-- Without an occurrence the text is one stretch. -/
  | whole {s : List Char} (absent : ¬ pattern <:+: s) : Separated pattern s [s]
  /-- The first stretch ends at the leftmost occurrence, the others lie behind it. -/
  | part {s before after : List Char} {parts : List (List Char)}
      (leftmost : Leftmost pattern s before after) (others : Separated pattern after parts) :
      Separated pattern s (before :: parts)

theorem Separated.ne_nil (separated : Separated pattern s parts) : parts ≠ [] := by
  cases separated <;> simp

/-- The occurrences put back between the stretches give the text. -/
theorem Separated.intercalate_eq (separated : Separated pattern s parts) :
    pattern.intercalate parts = s := by
  induction separated with
  | whole absent => simp
  | part leftmost others ih =>
      rw [List.intercalate_cons_of_ne_nil others.ne_nil, ih, leftmost.text]

theorem splitOn_of_cut?_none (hp : pattern ≠ []) (missing : cut? pattern s = none) :
    splitOn pattern hp s = [s] := by
  rw [splitOn.eq_def]
  split <;> simp_all

theorem splitOn_of_cut?_some (hp : pattern ≠ []) (found : cut? pattern s = some (before, after)) :
    splitOn pattern hp s = before :: splitOn pattern hp after := by
  rw [splitOn.eq_def]
  split <;> simp_all

/-- Splitting gives the stretches between the occurrences that lie apart, and these alone. -/
theorem splitOn_eq_iff (hp : pattern ≠ []) :
    splitOn pattern hp s = parts ↔ Separated pattern s parts := by
  constructor
  · rintro rfl
    induction s using splitOn.induct pattern hp with
    | case1 s missing =>
        rw [splitOn_of_cut?_none hp missing]
        exact .whole (cut?_eq_none_iff.1 missing)
    | case2 s before after found ih =>
        rw [splitOn_of_cut?_some hp found]
        exact .part (leftmost_of_cut? found) ih
  · intro separated
    induction separated with
    | whole absent => exact splitOn_of_cut?_none hp (cut?_eq_none_iff.2 absent)
    | part leftmost others ih =>
        rw [splitOn_of_cut?_some hp (cut?_eq_some_iff.2 leftmost), ih]

theorem separated_splitOn (hp : pattern ≠ []) : Separated pattern s (splitOn pattern hp s) :=
  (splitOn_eq_iff hp).1 rfl

/-- The single characters of a text, put together. -/
theorem intercalate_singletons (s : List Char) : [].intercalate (s.map ([·])) = s := by
  induction s with
  | nil => rfl
  | cons c rest ih => cases rest <;> simp_all

/-! ### Replacing -/

/-- To replace every occurrence is to join the stretches with something else. -/
theorem replaceEach_eq_intercalate (hp : pattern ≠ []) :
    replaceEach pattern replacement hp s = replacement.intercalate (splitOn pattern hp s) := by
  induction s using splitOn.induct pattern hp with
  | case1 s missing =>
      rw [splitOn_of_cut?_none hp missing, replaceEach.eq_def]
      split <;> simp_all
  | case2 s before after found ih =>
      rw [splitOn_of_cut?_some hp found,
        List.intercalate_cons_of_ne_nil (separated_splitOn hp).ne_nil, ← ih, replaceEach.eq_def]
      split <;> simp_all

/-- The first occurrence that is replaced is the leftmost one. -/
theorem replaceFirst_of_leftmost (leftmost : Leftmost pattern s before after) :
    replaceFirst pattern replacement s = before ++ replacement ++ after := by
  simp [replaceFirst, cut?_eq_some_iff.2 leftmost]

theorem replaceFirst_of_absent (absent : ¬ pattern <:+: s) :
    replaceFirst pattern replacement s = s := by
  simp [replaceFirst, cut?_eq_none_iff.2 absent]

end Reshape.Text
