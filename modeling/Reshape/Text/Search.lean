/-
Module: Reshape.Text.Search
Purpose: leftmost occurrences of one text in another, and what is built on them:
  splitting and replacing.
Main exports: cut?, splitOn, replaceFirst, replaceAll, indexOf?
Trusted boundary: none
-/

/-!
# Occurrences

Texts are lists of characters, so every position counts characters. All
functions agree on the same occurrences: the leftmost one, then the leftmost one
in what follows it. Main statement: `eq_append_of_cut?`, a cut loses nothing.
-/

namespace Reshape.Text

/-- The text before the leftmost occurrence of `pattern`, and the text after it. -/
def cut? (pattern : List Char) : List Char → Option (List Char × List Char)
  | [] => if pattern = [] then some ([], []) else none
  | c :: s =>
      if pattern.isPrefixOf (c :: s) then some ([], (c :: s).drop pattern.length)
      else (cut? pattern s).map fun (before, after) => (c :: before, after)

theorem eq_append_of_cut? {pattern s before after : List Char}
    (h : cut? pattern s = some (before, after)) : s = before ++ pattern ++ after := by
  induction s generalizing before with
  | nil =>
    by_cases hp : pattern = []
    · simp [cut?, hp] at h
      simp [hp, h]
    · simp [cut?, hp] at h
  | cons c s ih =>
    simp only [cut?] at h
    split at h
    · next starts =>
      obtain ⟨rfl, rfl⟩ := Prod.mk.inj (Option.some.inj h)
      exact (List.prefix_iff_eq_append.1 (List.isPrefixOf_iff_prefix.1 starts)).symm
    · obtain ⟨⟨b, a⟩, hs, he⟩ := Option.map_eq_some_iff.1 h
      obtain ⟨rfl, rfl⟩ := Prod.mk.inj he
      simp [ih hs]

/-- After a cut at a non-empty pattern less text is left. -/
theorem length_lt_of_cut? {pattern s before after : List Char} (hp : pattern ≠ [])
    (h : cut? pattern s = some (before, after)) : after.length < s.length := by
  have hl : 0 < pattern.length := List.length_pos_iff.2 hp
  rw [eq_append_of_cut? h]
  simp only [List.length_append]
  omega

/-- The stretches between the occurrences of a non-empty pattern. -/
def splitOn (pattern : List Char) (hp : pattern ≠ []) (s : List Char) : List (List Char) :=
  match _h : cut? pattern s with
  | none => [s]
  | some (before, after) => before :: splitOn pattern hp after
termination_by s.length
decreasing_by exact length_lt_of_cut? hp _h

/-- The text with its first occurrence of `pattern` replaced. -/
def replaceFirst (pattern replacement s : List Char) : List Char :=
  match cut? pattern s with
  | none => s
  | some (before, after) => before ++ replacement ++ after

/-- The text with every occurrence of a non-empty pattern replaced. -/
def replaceEach (pattern replacement : List Char) (hp : pattern ≠ []) (s : List Char) :
    List Char :=
  match _h : cut? pattern s with
  | none => s
  | some (before, after) => before ++ replacement ++ replaceEach pattern replacement hp after
termination_by s.length
decreasing_by exact length_lt_of_cut? hp _h

/-- The text with every occurrence of `pattern` replaced. The empty pattern occurs
before and after every character. -/
def replaceAll (pattern replacement s : List Char) : List Char :=
  if hp : pattern = [] then replacement ++ s.flatMap (· :: replacement)
  else replaceEach pattern replacement hp s

/-- The position of the leftmost occurrence of `pattern`. -/
def indexOf? (pattern s : List Char) : Option Nat :=
  (cut? pattern s).map (·.1.length)

end Reshape.Text
