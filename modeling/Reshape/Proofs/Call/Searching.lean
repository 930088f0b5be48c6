/-
Module: Reshape.Proofs.Call.Searching
Purpose: that searching a text and slicing it agree on positions.
Main exports: Text.OccursAt, Text.indexOf?_eq_some_iff, Member.search_slice_agree
Trusted boundary: none
-/
import Reshape.Proofs.Call.IntegerArgument
import Reshape.Proofs.Call.Slicing

/-!
# Searching

A search answers with a position or with a truth value, and a slice takes positions as arguments.
Both sides are told by the positions at which a pattern occurs in a text, counted in characters: an
occurrence is a slice of the length of the pattern that is the pattern.
-/

namespace Reshape

/-! ### Where a pattern occurs -/

namespace Text

variable {pattern s : List Char} {start : Nat}

/-- The pattern stands in the text behind as many characters as the position says. -/
def OccursAt (pattern s : List Char) (start : Nat) : Prop :=
  ∃ before after, s = before ++ pattern ++ after ∧ before.length = start

theorem OccursAt.le_length (occurs : OccursAt pattern s start) :
    start + pattern.length ≤ s.length := by
  obtain ⟨before, after, rfl, rfl⟩ := occurs
  simp only [List.length_append]
  omega

theorem occursAt_iff_prefix (bounded : start ≤ s.length) :
    OccursAt pattern s start ↔ pattern <+: s.drop start := by
  constructor
  · rintro ⟨before, after, rfl, rfl⟩
    exact ⟨after, by rw [List.append_assoc, List.drop_left]⟩
  · rintro ⟨after, whole⟩
    refine ⟨s.take start, after, ?_, List.length_take_of_le bounded⟩
    rw [List.append_assoc, whole, List.take_append_drop]

theorem occursAt_zero_iff : OccursAt pattern s 0 ↔ pattern <+: s :=
  occursAt_iff_prefix (Nat.zero_le _)

/-- The leftmost occurrence is the one that is found. -/
theorem indexOf?_eq_some_iff {position : Nat} :
    indexOf? pattern s = some position ↔
      OccursAt pattern s position ∧ ∀ start < position, ¬ OccursAt pattern s start := by
  constructor
  · intro found
    obtain ⟨⟨before, after⟩, cut, rfl⟩ := Option.map_eq_some_iff.1 found
    obtain ⟨text, first⟩ := cut?_eq_some_iff.1 cut
    refine ⟨⟨before, after, text, rfl⟩, ?_⟩
    rintro start earlier ⟨front, back, text', rfl⟩
    exact absurd (first front back text') (Nat.not_le.2 earlier)
  · rintro ⟨⟨before, after, text, rfl⟩, first⟩
    have leftmost : Leftmost pattern s before after :=
      ⟨text, fun front back text' => Nat.le_of_not_lt fun earlier =>
        first front.length earlier ⟨front, back, text', rfl⟩⟩
    rw [indexOf?, cut?_eq_some_iff.2 leftmost]
    rfl

theorem indexOf?_zero_iff : indexOf? pattern s = some 0 ↔ pattern <+: s := by
  rw [indexOf?_eq_some_iff, occursAt_zero_iff]
  simp

/-- The answer to a search: the position that is found, or -1. -/
def answerOf (found : Option Nat) : Int :=
  found.elim (-1) fun position => position

theorem answerOf_eq_neg_one_iff {found : Option Nat} : answerOf found = -1 ↔ found = none := by
  cases found <;> simp [answerOf]

theorem answerOf_eq_natCast_iff {found : Option Nat} {position : Nat} :
    answerOf found = position ↔ found = some position := by
  cases found <;> simp [answerOf]

end Text

open Json (ReadsAs)

namespace Member

/-! ### Slices at given positions -/

section Slices

variable {chars pattern : List Char} {a b : Json} {first last : Nat}

theorem relativeIndex_of_le {position length : Nat} (bounded : position ≤ length) :
    Json.relativeIndex position length = position := by
  rw [Json.relativeIndex, if_neg (by omega)]
  omega

theorem slice_readsAs (ordered : first ≤ last) (bounded : last ≤ chars.length)
    (start : ReadsAs a first) (stop : ReadsAs b last) :
    slice chars [a, b] = between first last chars := by
  have range : Json.sliceRange (some a) (some b) chars.length = (first, last) := by
    rw [Json.sliceRange.eq_def, start.2]
    cases b with
    | null => exact absurd rfl stop.1
    | _ =>
      dsimp only
      rw [stop.2]
      dsimp only
      rw [relativeIndex_of_le (Nat.le_trans ordered bounded), relativeIndex_of_le bounded,
        Nat.max_eq_left ordered]
  simp [slice, range]

/-- A slice without an end runs to the end of the text. -/
theorem slice_readsAs_drop (bounded : first ≤ chars.length) (start : ReadsAs a first) :
    slice chars [a] = chars.drop first := by
  have range : Json.sliceRange (some a) none chars.length = (first, chars.length) := by
    rw [Json.sliceRange, start.2]
    dsimp only
    rw [relativeIndex_of_le bounded, Nat.max_eq_left bounded]
  have all : (chars.drop first).take (chars.length - first) = chars.drop first :=
    List.take_of_length_le (Nat.le_of_eq List.length_drop)
  simp [slice, range, between, all]

/-- Where the pattern occurs, a slice of its length is the pattern. -/
theorem slice_eq_pattern_iff (bounded : first + pattern.length ≤ chars.length)
    (start : ReadsAs a first) (stop : ReadsAs b (first + pattern.length : Nat)) :
    slice chars [a, b] = pattern ↔ Text.OccursAt pattern chars first := by
  rw [slice_readsAs (Nat.le_add_right _ _) bounded start stop,
    Text.occursAt_iff_prefix (by omega), List.prefix_iff_eq_take, between, Nat.add_sub_cancel_left]
  exact eq_comm

/-- No slice of the length of the pattern that starts before the position found is the pattern. -/
theorem slice_eq_pattern_iff_found {position : Nat}
    (found : Text.indexOf? pattern chars = some position) (early : first ≤ position)
    (start : ReadsAs a first) (stop : ReadsAs b (first + pattern.length : Nat)) :
    slice chars [a, b] = pattern ↔ first = position := by
  obtain ⟨occurs, none⟩ := Text.indexOf?_eq_some_iff.1 found
  have within := occurs.le_length
  rw [slice_eq_pattern_iff (by omega) start stop]
  constructor
  · intro earlier
    by_contra apart
    exact none first (by omega) earlier
  · rintro rfl
    exact occurs

/-- The slice of the length of the pattern at the end is the pattern when the text ends with it. -/
theorem slice_eq_pattern_iff_suffix (start : ReadsAs a (chars.length - pattern.length : Nat)) :
    slice chars [a] = pattern ↔ pattern <:+ chars := by
  rw [slice_readsAs_drop (Nat.sub_le _ _) start, List.suffix_iff_eq_drop]
  exact eq_comm

theorem between_succ (bounded : first < chars.length) :
    between first (first + 1) chars = [chars[first]] := by
  rw [between, Nat.add_sub_cancel_left, List.drop_eq_getElem_cons bounded]
  rfl

/-- The character at a position is the slice of length one there. -/
theorem charFrom_readsAs {i : Int} (bounded : first < chars.length)
    (denotes : (first : Int) = if i < 0 then chars.length + i else i) (index : ReadsAs a i) :
    charFrom chars [a] = ofChars (between first (first + 1) chars) := by
  have position : positionOf? i chars.length = some first := by
    rw [positionOf?, ← denotes]
    simp
  have here : chars[first]? = some chars[first] := List.getElem?_eq_getElem bounded
  rw [charFrom, List.getElem?_cons_zero, index.2, Option.getD_some, position, Option.bind_some, here,
    between_succ bounded]

end Slices

/-! ### What the members give -/

section Members

variable {s needle part : String} {args : List Json}

theorem charsArg_text : charsArg [.string needle] 0 = needle.toList := by
  simp [charsArg, textArg?, Json.display]

theorem gives_slice_text_iff :
    Gives (.string s) "slice" args (.string part) ↔ slice s.toList args = part.toList := by
  have given : find? (.string s) "slice" args = _ := gives_slice_text
  rw [Gives, given]
  simp only [Option.some.injEq, Except.ok.injEq, Json.string.injEq]
  rw [← String.toList_inj, String.toList_ofList]

theorem gives_indexOf :
    Gives (.string s) "indexOf" [.string needle]
      (.ofInt (Text.answerOf (Text.indexOf? needle.toList s.toList))) := by
  rw [Gives, find?, ofText?, indexOf, charsArg_text]
  cases Text.indexOf? needle.toList s.toList <;> rfl

theorem gives_includes :
    Gives (.string s) "includes" [.string needle]
      (.bool (Text.cut? needle.toList s.toList).isSome) := by
  simp [Gives, find?, ofText?, charsArg_text]

theorem gives_startsWith :
    Gives (.string s) "startsWith" [.string needle]
      (.bool (needle.toList.isPrefixOf s.toList)) := by
  simp [Gives, find?, ofText?, charsArg_text]

theorem gives_endsWith :
    Gives (.string s) "endsWith" [.string needle]
      (.bool (needle.toList.isSuffixOf s.toList)) := by
  simp [Gives, find?, ofText?, charsArg_text]

theorem gives_at : Gives (.string s) "at" args (charFrom s.toList args) := by
  simp [Gives, find?, ofText?]

end Members

/-- Positions count characters, for searches as for slices. A needle is found exactly when it is
contained, and then at the least position from which a slice of its length is the needle. A text
starts with the needle when it is found at the front, and ends with it when the slice of its length
at the end is the needle. The character at an index, from either end, is the slice of length one at
the position it denotes. Positions in texts of up to `2 ^ 53` characters are arguments themselves. -/
theorem search_slice_agree (s needle : String) :
    ∃ (position : Int) (found starts ends : Bool),
      (Gives (.string s) "indexOf" [.string needle] (.ofInt position) ∧
        Gives (.string s) "includes" [.string needle] (.bool found) ∧
        Gives (.string s) "startsWith" [.string needle] (.bool starts) ∧
        Gives (.string s) "endsWith" [.string needle] (.bool ends)) ∧
      (position = -1 ↔ found = false) ∧
      (position ≠ -1 → 0 ≤ position ∧ position + needle.length ≤ s.length ∧
        ∀ (start : Nat) (a b : Json), start ≤ position →
          ReadsAs a start → ReadsAs b (start + needle.length : Nat) →
          (Gives (.string s) "slice" [a, b] (.string needle) ↔ start = position)) ∧
      (starts = true ↔ position = 0) ∧
      (ends = true → needle.length ≤ s.length) ∧
      (needle.length ≤ s.length → ∀ a, ReadsAs a (s.length - needle.length : Nat) →
        (ends = true ↔ Gives (.string s) "slice" [a] (.string needle))) ∧
      (∀ (i : Int) (place : Nat) (a : Json), -s.length ≤ i → i < s.length →
        (place : Int) = (if i < 0 then s.length + i else i) → ReadsAs a i →
        ∃ c : String, c.length = 1 ∧ Gives (.string s) "at" [a] (.string c) ∧
          ∀ b b', ReadsAs b place → ReadsAs b' (place + 1 : Nat) →
            Gives (.string s) "slice" [b, b'] (.string c)) ∧
      (s.length ≤ 2 ^ 53 → ∀ i : Int, i.natAbs ≤ s.length → ReadsAs (.ofInt i) i) := by
  have length := s.length_toList
  have needleLength := needle.length_toList
  refine ⟨_, _, _, _, ⟨gives_indexOf, gives_includes, gives_startsWith, gives_endsWith⟩, ?absent,
    ?leftmost, ?starts, ?fits, ?ends, ?character, fun short i within => Json.readsAs_ofInt (by omega)⟩
  case absent =>
    rw [Text.answerOf_eq_neg_one_iff, Text.indexOf?, Option.map_eq_none_iff,
      Option.isSome_eq_false_iff, Option.isNone_iff_eq_none]
  case leftmost =>
    intro present
    cases found : Text.indexOf? needle.toList s.toList with
    | none => exact absurd (Text.answerOf_eq_neg_one_iff.2 found) present
    | some position =>
        have within := (Text.indexOf?_eq_some_iff.1 found).1.le_length
        rw [Text.answerOf_eq_natCast_iff.2 rfl]
        refine ⟨by omega, by omega, fun start a b early startRead stopRead => ?_⟩
        rw [← needleLength] at stopRead
        rw [gives_slice_text_iff, Int.ofNat_inj]
        exact slice_eq_pattern_iff_found found (Int.ofNat_le.1 early) startRead stopRead
  case starts =>
    rw [← Int.natCast_zero, Text.answerOf_eq_natCast_iff, Text.indexOf?_zero_iff,
      List.isPrefixOf_iff_prefix]
  case fits =>
    intro ends
    have shorter := (List.isSuffixOf_iff_suffix.1 ends).length_le
    omega
  case ends =>
    intro shorter a read
    rw [← length, ← needleLength] at read
    rw [gives_slice_text_iff, slice_eq_pattern_iff_suffix read, List.isSuffixOf_iff_suffix]
  case character =>
    intro i place a least most denotes read
    have bounded : place < s.toList.length := by
      split at denotes <;> omega
    have single := between_succ bounded
    refine ⟨String.ofList (between place (place + 1) s.toList), ?_, ?_, fun b b' start stop => ?_⟩
    · rw [single, String.length_ofList]
      rfl
    · rw [← length] at denotes
      have given : Gives (.string s) "at" [a] _ := gives_at
      rwa [charFrom_readsAs bounded denotes read] at given
    · rw [gives_slice_text_iff, slice_readsAs (Nat.le_succ _) bounded start stop,
        String.toList_ofList]

/-- A needle that is not at the front, and the last character. -/
theorem search_slice_agree_behind :
    ∃ position : Int, (position ≠ -1 ∧ 0 ≤ position ∧ ReadsAs (.ofInt 0) 0 ∧
        ReadsAs (.ofInt 2) 2 ∧ ReadsAs (.ofInt 3) 3 ∧ ReadsAs (.ofInt (-1)) (-1)) ∧
      Gives (.string "añb") "indexOf" [.string "ñb"] (.ofInt position) ∧
      (Gives (.string "añb") "slice" [.ofInt 0, .ofInt 2] (.string "ñb") ↔ 0 = position) ∧
      ∃ c, Gives (.string "añb") "at" [.ofInt (-1)] (.string c) ∧
        Gives (.string "añb") "slice" [.ofInt 2, .ofInt 3] (.string c) := by
  obtain ⟨position, found, starts, ends, ⟨index, contained, -⟩, absent, present, -, -, -, character,
    numbers⟩ := search_slice_agree "añb" "ñb"
  have isFound : found = true := by
    have given := contained.symm.trans gives_includes
    simp only [Option.some.injEq, Except.ok.injEq, Json.bool.injEq] at given
    rw [given]
    decide
  have somewhere : position ≠ -1 := fun nowhere => absurd (absent.1 nowhere) (by simp [isFound])
  have read := numbers (by decide)
  obtain ⟨natural, -, sliced⟩ := present somewhere
  obtain ⟨c, -, single, agrees⟩ := character (-1) 2 (.ofInt (-1)) (by decide) (by decide) (by decide)
    (read (-1) (by decide))
  exact ⟨position, ⟨somewhere, natural, read 0 (by decide), read 2 (by decide), read 3 (by decide),
    read (-1) (by decide)⟩, index, sliced 0 (.ofInt 0) (.ofInt 2) natural (read 0 (by decide))
    (read 2 (by decide)), c, single, agrees (.ofInt 2) (.ofInt 3) (read 2 (by decide))
    (read 3 (by decide))⟩

end Member

end Reshape
