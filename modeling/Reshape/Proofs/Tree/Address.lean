/-
Module: Reshape.Proofs.Tree.Address
Purpose: the segments of joined addresses, and what is found at a joined address.
Main exports: Address.segments_join, Address.join_join, Address.ofKeys_append, Json.find_join
Trusted boundary: none
-/
import Reshape.Proofs.Tree.Matches

/-!
# Joined addresses

Joining works on texts and resolving on segments. The two agree for all texts, with
dots anywhere, because empty segments do not count.
-/

namespace Reshape

namespace Text

theorem splitChar_ne_nil (separator : Char) (s : List Char) : splitChar separator s ≠ [] := by
  cases s with
  | nil => simp [splitChar]
  | cons c s =>
      unfold splitChar
      split
      · simp
      · split <;> simp

/-- The pieces on both sides of a separator. -/
theorem splitChar_append (separator : Char) (before after : List Char) :
    splitChar separator (before ++ separator :: after) =
      splitChar separator before ++ splitChar separator after := by
  induction before with
  | nil => simp [splitChar]
  | cons c before ih =>
      by_cases same : c = separator
      · simp [splitChar, same, ih]
      · simp only [List.cons_append, splitChar, same, if_false, ih]
        cases pieces : splitChar separator before with
        | nil => simp [splitChar_ne_nil] at pieces
        | cons first more => rfl

/-- A text without the separator is one piece. -/
theorem splitChar_of_notMem {separator : Char} {s : List Char} (whole : separator ∉ s) :
    splitChar separator s = [s] := by
  induction s with
  | nil => rfl
  | cons c s ih =>
      rw [List.mem_cons, not_or] at whole
      simp [splitChar, Ne.symm whole.1, ih whole.2]

end Text

namespace Address

theorem segments_empty : segments ⟨""⟩ = [] := rfl

/-- A text without dots is one segment. -/
theorem segments_of_notMem {key : String} (nonempty : key ≠ "") (whole : '.' ∉ key.toList) :
    segments ⟨key⟩ = [key] := by
  have kept : key.toList ≠ [] := fun none => nonempty (String.toList_eq_nil_iff.1 none)
  simp [segments, Text.splitChar_of_notMem whole, kept]

theorem segments_append (before after : String) :
    segments ⟨before ++ "." ++ after⟩ = segments ⟨before⟩ ++ segments ⟨after⟩ := by
  simp [segments, Text.splitChar_append]

/-- Resolving a joined address means resolving its two parts in turn. -/
theorem segments_join (base relative : Address) :
    (base.join relative).segments = base.segments ++ relative.segments := by
  obtain ⟨base⟩ := base
  obtain ⟨relative⟩ := relative
  unfold join
  split
  · next none => rw [show base = "" from none, segments_empty, List.nil_append]
  · split
    · next none => rw [show relative = "" from none, segments_empty, List.append_nil]
    · exact segments_append base relative

theorem text_append_ne (before after : String) : before ++ "." ++ after ≠ "" := by
  intro none
  have := congrArg String.toList none
  simp at this

theorem join_join (base middle relative : Address) :
    (base.join middle).join relative = base.join (middle.join relative) := by
  by_cases noBase : base.text = ""
  · simp [join, noBase]
  · by_cases noMiddle : middle.text = ""
    · simp [join, noBase, noMiddle]
    · by_cases noRelative : relative.text = ""
      · simp [join, noBase, noMiddle, noRelative]
      · simp [join, noBase, noMiddle, noRelative, String.append_assoc]

/-! ### Addresses of keys -/

theorem ofKeys_nil : ofKeys [] = ⟨""⟩ := rfl

theorem ofKeys_cons {keys : List String} (nonempty : keys ≠ []) (key : String) :
    ofKeys (key :: keys) = ⟨key ++ "." ++ (ofKeys keys).text⟩ := by
  rw [ofKeys, String.intercalate_cons_of_ne_nil nonempty]
  rfl

/-- Keys that are not empty give an address that is not empty. -/
theorem ofKeys_text_ne {keys : List String} (named : ∀ key ∈ keys, key ≠ "")
    (nonempty : keys ≠ []) : (ofKeys keys).text ≠ "" := by
  cases keys with
  | nil => exact absurd rfl nonempty
  | cons key keys =>
      by_cases last : keys = []
      · subst last
        simpa [ofKeys] using named key (by simp)
      · rw [ofKeys_cons last]
        exact text_append_ne key _

/-- One list of keys behind another one, as addresses. An empty key would leave no trace
when it is joined and a dot when it is listed. -/
theorem ofKeys_append {keys more : List String} (named : ∀ key ∈ keys, key ≠ "")
    (moreNamed : ∀ key ∈ more, key ≠ "") :
    ofKeys (keys ++ more) = (ofKeys keys).join (ofKeys more) := by
  by_cases noKeys : keys = []
  · simp [noKeys, ofKeys_nil, join]
  · by_cases noMore : more = []
    · simp [noMore, ofKeys_nil, join, ofKeys_text_ne named noKeys]
    · simp only [join, ofKeys_text_ne named noKeys, ofKeys_text_ne moreNamed noMore, if_false]
      simp [ofKeys, String.intercalate_append_of_ne_nil noKeys noMore]

/-- The segments of an address of keys are those of the keys, whatever these are. -/
theorem segments_ofKeys (keys : List String) :
    (ofKeys keys).segments = keys.flatMap fun key => segments ⟨key⟩ := by
  induction keys with
  | nil => rfl
  | cons key keys ih =>
      by_cases last : keys = []
      · simp [last, ofKeys]
      · rw [ofKeys_cons last, segments_append, List.flatMap_cons, ← ih]

end Address

namespace Json

theorem find_join (tree : Json) (base relative : Address) :
    tree.find (base.join relative) =
      (tree.find base).flatMap (tree.locateFrom relative.segments) := by
  rw [find, Address.segments_join, locate_append, find]

/-- The matches of an address fork. -/
theorem pairwise_find (tree : Json) (address : Address) :
    (tree.find address).Pairwise Location.Forks :=
  (pairwise_locate tree address.segments).imp fun forks =>
    forks.of_dropLast_left.of_dropLast_right

end Json

end Reshape
