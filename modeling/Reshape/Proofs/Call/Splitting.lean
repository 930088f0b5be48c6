/-
Module: Reshape.Proofs.Call.Splitting
Purpose: that the members of texts and arrays which split, join and replace agree on the
  occurrences of a separator.
Main exports: Member.Gives, Member.split_join_replace
Trusted boundary: none
-/
import Mathlib.Data.List.Basic
import Reshape.Call.Member.Basic
import Reshape.Proofs.Text.Occurrences

/-!
# Splitting, joining and replacing

All three are told by the stretches of a text between the occurrences of a separator that lie
apart. Splitting gives them, joining puts something between them, and replacing does both.
-/

namespace Reshape

namespace Json

/-- Texts are displayed as they are. -/
@[simp] theorem displayItems_map_string (texts : List String) :
    displayItems (texts.map .string) = texts := by
  induction texts with
  | nil => rfl
  | cons text texts ih => simp [displayItems, display, ih]

end Json

namespace Member

/-- The value has a member `name`, and applied to `args` it gives `result`. -/
def Gives (value : Json) (name : String) (args : List Json) (result : Json) : Prop :=
  find? value name args = some (.ok result)

variable {s separator replacement : String}

/-! ### What the members give -/

/-- The parts of a text around a separator; around the empty one, its characters. -/
def partsOf (separator s : String) : List String :=
  (splitBy (some separator) s.toList).map String.ofList

theorem gives_split :
    Gives (.string s) "split" [.string separator] (.array ((partsOf separator s).map .string)) := by
  simp [Gives, find?, ofText?, split, textArg?, Json.display, Json.index?, partsOf, ofChars]

theorem gives_join (parts : List String) :
    Gives (.array (parts.map .string)) "join" [.string separator]
      (.string (separator.intercalate parts)) := by
  simp [Gives, find?, ofItems?, joinItems, textArg?, Json.display]

theorem gives_replaceAll :
    Gives (.string s) "replaceAll" [.string separator, .string replacement]
      (ofChars (Text.replaceAll separator.toList replacement.toList s.toList)) := by
  simp [Gives, find?, ofText?, charsArg, textArg?, Json.display]

theorem gives_replace :
    Gives (.string s) "replace" [.string separator, .string replacement]
      (ofChars (Text.replaceFirst separator.toList replacement.toList s.toList)) := by
  simp [Gives, find?, ofText?, charsArg, textArg?, Json.display]

/-! ### Their agreement -/

theorem toList_partsOf :
    (partsOf separator s).map String.toList = splitBy (some separator) s.toList := by
  simp [partsOf, Function.comp_def]

/-- The separator put back between the parts gives the text. -/
theorem intercalate_partsOf : separator.intercalate (partsOf separator s) = s := by
  rw [← String.toList_inj, String.toList_intercalate, toList_partsOf, splitBy]
  split
  · next empty => rw [empty, Text.intercalate_singletons]
  · next filled => exact (Text.separated_splitOn filled).intercalate_eq

/-- The replacement put between the parts gives the text with every occurrence replaced. -/
theorem intercalate_partsOf_replacement (filled : separator.toList ≠ []) :
    replacement.intercalate (partsOf separator s) =
      String.ofList (Text.replaceAll separator.toList replacement.toList s.toList) := by
  rw [← String.toList_inj, String.toList_intercalate, toList_partsOf, splitBy, dif_neg filled,
    String.toList_ofList, Text.replaceAll, dif_neg filled, Text.replaceEach_eq_intercalate filled]

/-- Joining what splitting gives leads back to the text, whatever the separator is. For one that
is not empty, splitting, joining with a replacement and replacing everywhere meet the same
occurrences, and replacing once meets the first of them. -/
theorem split_join_replace (s separator : String) :
    ∃ parts : List String,
      Gives (.string s) "split" [.string separator] (.array (parts.map .string)) ∧
      Gives (.array (parts.map .string)) "join" [.string separator] (.string s) ∧
      (separator = "" → parts = s.toList.map String.singleton) ∧
      (separator ≠ "" →
        Text.Separated separator.toList s.toList (parts.map String.toList) ∧
        ∀ replacement : String, ∃ all once : String,
          Gives (.string s) "replaceAll" [.string separator, .string replacement] (.string all) ∧
          Gives (.array (parts.map .string)) "join" [.string replacement] (.string all) ∧
          Gives (.string s) "replace" [.string separator, .string replacement] (.string once) ∧
          (¬ separator.toList <:+: s.toList → once = s) ∧
          ∀ before after, Text.Leftmost separator.toList s.toList before after →
            once = String.ofList (before ++ replacement.toList ++ after)) := by
  refine ⟨partsOf separator s, gives_split, ?_, ?_, fun filled => ?_⟩
  · have joined : Gives (.array ((partsOf separator s).map .string)) "join" [.string separator]
        (.string (separator.intercalate (partsOf separator s))) := gives_join _
    rwa [intercalate_partsOf] at joined
  · rintro rfl
    simp [partsOf, splitBy]
  · have filled : separator.toList ≠ [] := by simpa using filled
    have separated : Text.Separated separator.toList s.toList
        ((partsOf separator s).map String.toList) := by
      rw [toList_partsOf, splitBy, dif_neg filled]
      exact Text.separated_splitOn filled
    refine ⟨separated, fun replacement => ⟨_, _, gives_replaceAll, ?_, gives_replace,
      fun absent => ?_, fun before after leftmost => ?_⟩⟩
    · have joined : Gives (.array ((partsOf separator s).map .string)) "join"
          [.string replacement] (.string (replacement.intercalate (partsOf separator s))) :=
        gives_join _
      rwa [intercalate_partsOf_replacement filled] at joined
    · rw [Text.replaceFirst_of_absent absent, String.ofList_toList]
    · rw [Text.replaceFirst_of_leftmost leftmost]

/-- A separator that overlaps itself. -/
theorem split_join_replace_overlapping :
    "aa" ≠ "" ∧ ∃ parts : List String, ∃ all : String,
      Gives (.string "aaaaa") "split" [.string "aa"] (.array (parts.map .string)) ∧
      Gives (.string "aaaaa") "replaceAll" [.string "aa", .string "b"] (.string all) ∧
      Gives (.array (parts.map .string)) "join" [.string "b"] (.string all) ∧
      Gives (.string "aaaaa") "replace" [.string "aa", .string "b"] (.string "baaa") := by
  obtain ⟨parts, split, -, -, agree⟩ := split_join_replace "aaaaa" "aa"
  obtain ⟨-, replaced⟩ := agree (by decide)
  obtain ⟨all, once, everywhere, joined, first, -, leftmost⟩ := replaced "b"
  have start : Text.Leftmost "aa".toList "aaaaa".toList [] "aaa".toList :=
    ⟨by decide, fun _ _ _ => Nat.zero_le _⟩
  obtain rfl : once = "baaa" := leftmost _ _ start
  exact ⟨by decide, parts, all, split, everywhere, joined, first⟩

end Member

end Reshape
