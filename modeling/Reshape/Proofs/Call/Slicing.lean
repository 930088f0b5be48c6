/-
Module: Reshape.Proofs.Call.Slicing
Purpose: that slices of texts and arrays stay in bounds, put together what they cut, and agree
  with each other.
Main exports: Json.PlacedAt, Json.IsBound, Member.IsStretch, Member.slice_bounds_partition
Trusted boundary: none
-/
import Mathlib.Data.List.Basic
import Reshape.Proofs.Call.Splitting

/-!
# Slicing

Both arguments of a slice are read as integers of 64 bits and then resolved against the length of
what is sliced: `PlacedAt` says where an integer lies, by its sign and size. Whatever the
arguments are, the two positions that come out are in order and within the length, so a slice is
a stretch of the whole.
-/

namespace Reshape

/-! ### The two positions -/

namespace Json

/-- The position that an integer has among `length` of them. A negative one is counted from the
end, and neither leads beyond an end. -/
inductive PlacedAt (length : Nat) : Int → Nat → Prop where
  | fromStart {n : Nat} (within : n ≤ length) : PlacedAt length n n
  | behind {n : Nat} (beyond : length < n) : PlacedAt length n length
  | fromEnd {n : Nat} (negative : 0 < n) (within : n ≤ length) : PlacedAt length (-n) (length - n)
  | before {n : Nat} (beyond : length < n) : PlacedAt length (-n) 0

theorem placedAt_relativeIndex (index : Int) (length : Nat) :
    PlacedAt length index (relativeIndex index length) := by
  rw [relativeIndex]
  split
  · next negative =>
      obtain ⟨n, rfl⟩ : ∃ n : Nat, index = -n := ⟨index.natAbs, by omega⟩
      by_cases within : n ≤ length
      · have same : ((length : Int) + -n).toNat = length - n := by omega
        exact same ▸ .fromEnd (by omega) within
      · have same : ((length : Int) + -n).toNat = 0 := by omega
        exact same ▸ .before (Nat.lt_of_not_le within)
  · next natural =>
      obtain ⟨n, rfl⟩ := Int.eq_ofNat_of_zero_le (Int.not_lt.1 natural)
      rw [Int.toNat_natCast]
      by_cases within : n ≤ length
      · rw [Nat.min_eq_left within]
        exact .fromStart within
      · have beyond := Nat.lt_of_not_le within
        rw [Nat.min_eq_right (Nat.le_of_lt beyond)]
        exact .behind beyond

/-- An integer has one position. -/
theorem relativeIndex_of_placedAt {length position : Nat} {index : Int}
    (placed : PlacedAt length index position) : relativeIndex index length = position := by
  cases placed <;> rw [relativeIndex] <;> split <;> omega

theorem PlacedAt.le {length position : Nat} {index : Int}
    (placed : PlacedAt length index position) : position ≤ length := by
  cases placed <;> omega

theorem relativeIndex_le (index : Int) (length : Nat) : relativeIndex index length ≤ length :=
  (placedAt_relativeIndex index length).le

/-- The position of a bound, which is `absent` where no integer is given. -/
def IsBound (length absent : Nat) (index : Option Int) (position : Nat) : Prop :=
  (index = none → position = absent) ∧
    ∀ given, index = some given → PlacedAt length given position

theorem isBound_elim (length absent : Nat) (index : Option Int) :
    IsBound length absent index (index.elim absent (relativeIndex · length)) := by
  cases index with
  | none => exact ⟨fun _ => rfl, nofun⟩
  | some index =>
      refine ⟨nofun, ?_⟩
      rintro given ⟨⟩
      exact placedAt_relativeIndex index length

theorem IsBound.le {length absent position : Nat} {index : Option Int}
    (bound : IsBound length absent index position) (within : absent ≤ length) :
    position ≤ length := by
  cases index with
  | none => exact bound.1 rfl ▸ within
  | some given => exact (bound.2 given rfl).le

/-- The integer that ends a slice; null at the end is as good as nothing. -/
def endIndex? : Option Json → Option Int
  | some .null => none
  | stop => index? stop

/-- The bounds of a slice are the positions of its two arguments, the second one no less than the
first. -/
theorem sliceRange_bounds (start stop : Option Json) (length : Nat) :
    ∃ first last, IsBound length 0 (index? start) first ∧
      IsBound length length (endIndex? stop) last ∧
      sliceRange start stop length = (first, max last first) := by
  refine ⟨_, _, isBound_elim length 0 (index? start), isBound_elim length length (endIndex? stop),
    ?_⟩
  have first : (sliceRange start stop length).1 =
      (index? start).elim 0 (relativeIndex · length) := by
    rw [sliceRange.eq_def]
    cases index? start <;> rfl
  rw [← first]
  refine Prod.ext rfl (congrArg (max · _) ?_)
  cases stop with
  | none => rfl
  | some stop =>
      cases stop with
      | null => rfl
      | _ =>
          simp only [endIndex?]
          cases index? _ <;> rfl

theorem sliceRange_ordered (start stop : Option Json) (length : Nat) :
    (sliceRange start stop length).1 ≤ (sliceRange start stop length).2 :=
  Nat.le_max_right _ _

theorem sliceRange_snd_le (start stop : Option Json) (length : Nat) :
    (sliceRange start stop length).2 ≤ length := by
  obtain ⟨first, last, start, stop, range⟩ := sliceRange_bounds start stop length
  rw [range]
  exact Nat.max_le.2 ⟨stop.le (Nat.le_refl _), start.le (Nat.zero_le _)⟩

theorem index?_zero : index? (some (ofInt 0)) = some 0 := by
  decide +kernel

theorem index?_of_numeric {cut : Json} (numeric : cut.toNumber.isNaN = false) :
    index? (some cut) = some (Double.toInt64 cut.toNumber) := by
  rw [index?, Option.bind_some]
  dsimp only
  rw [numeric]
  rfl

/-- The position at which an argument cuts: the end of what comes before it and the start of what
comes from it on. -/
theorem sliceRange_cut {cut : Json} {index : Int} (given : cut ≠ .null)
    (read : index? (some cut) = some index) (length : Nat) :
    sliceRange (some (ofInt 0)) (some cut) length = (0, relativeIndex index length) ∧
      sliceRange (some cut) none length = (relativeIndex index length, length) := by
  have bounded := relativeIndex_le index length
  constructor
  · simp [sliceRange, index?_zero, read, relativeIndex]
  · simp [sliceRange, read, bounded]

end Json

/-! ### Stretches -/

namespace Member

open Json (IsBound PlacedAt endIndex? index? sliceRange)

variable {α β : Type} {xs : List α}

/-- What `whole` holds from one position up to another. -/
def IsStretch (whole part : List α) (first last : Nat) : Prop :=
  ∃ before after, whole = before ++ part ++ after ∧ before.length = first ∧
    (before ++ part).length = last

theorem isStretch_between {first last : Nat} (ordered : first ≤ last)
    (bounded : last ≤ xs.length) : IsStretch xs (between first last xs) first last := by
  refine ⟨xs.take first, xs.drop last, ?_, ?_, ?_⟩
  · have rest : (xs.drop first).drop (last - first) = xs.drop last := by
      rw [List.drop_drop, Nat.add_sub_cancel' ordered]
    rw [between, ← rest, List.append_assoc, List.take_append_drop, List.take_append_drop]
  · rw [List.length_take]
    omega
  · rw [between, List.length_append, List.length_take, List.length_take, List.length_drop]
    omega

theorem between_cut (index : Int) :
    let position := Json.relativeIndex index xs.length
    between 0 position xs ++ between position xs.length xs = xs ∧
      PlacedAt xs.length index (between 0 position xs).length := by
  intro position
  have rest : (xs.drop position).take (xs.length - position) = xs.drop position :=
    List.take_of_length_le (Nat.le_of_eq List.length_drop)
  rw [between, between, rest, List.drop_zero, Nat.sub_zero, List.take_append_drop,
    List.length_take, Nat.min_eq_left (Json.relativeIndex_le index xs.length)]
  exact ⟨rfl, Json.placedAt_relativeIndex index xs.length⟩

theorem between_map (f : α → β) (first last : Nat) :
    between first last (xs.map f) = (between first last xs).map f := by
  rw [between, between, List.map_take, List.map_drop]

/-! ### Slices as lists -/

variable {items args : List Json} {chars : List Char} {cut : Json} {index : Int}

theorem isStretch_sliceItems :
    IsStretch items (sliceItems items args) (sliceRange args[0]? args[1]? items.length).1
      (sliceRange args[0]? args[1]? items.length).2 :=
  isStretch_between (Json.sliceRange_ordered _ _ _) (Json.sliceRange_snd_le _ _ _)

theorem isStretch_slice :
    IsStretch chars (slice chars args) (sliceRange args[0]? args[1]? chars.length).1
      (sliceRange args[0]? args[1]? chars.length).2 :=
  isStretch_between (Json.sliceRange_ordered _ _ _) (Json.sliceRange_snd_le _ _ _)

/-- A cut parts a list at the position of its integer. -/
theorem sliceItems_cut (items : List Json) (given : cut ≠ .null)
    (read : index? (some cut) = some index) :
    sliceItems items [.ofInt 0, cut] ++ sliceItems items [cut] = items ∧
      PlacedAt items.length index (sliceItems items [.ofInt 0, cut]).length := by
  obtain ⟨front, back⟩ := Json.sliceRange_cut given read items.length
  simp only [sliceItems, List.getElem?_cons_zero, List.getElem?_cons_succ, List.getElem?_nil,
    front, back]
  exact between_cut index

theorem slice_cut (chars : List Char) (given : cut ≠ .null)
    (read : index? (some cut) = some index) :
    slice chars [.ofInt 0, cut] ++ slice chars [cut] = chars ∧
      PlacedAt chars.length index (slice chars [.ofInt 0, cut]).length := by
  obtain ⟨front, back⟩ := Json.sliceRange_cut given read chars.length
  simp only [slice, List.getElem?_cons_zero, List.getElem?_cons_succ, List.getElem?_nil,
    front, back]
  exact between_cut index

/-- Texts and arrays are cut at the same positions. -/
theorem sliceItems_map (f : Char → Json) :
    sliceItems (chars.map f) args = (slice chars args).map f := by
  rw [sliceItems, slice, List.length_map, between_map]

/-! ### What the members give -/

variable {s : String}

theorem gives_slice_text :
    Gives (.string s) "slice" args (.string (String.ofList (slice s.toList args))) := by
  simp [Gives, find?, ofText?, ofChars]

theorem gives_slice_items : Gives (.array items) "slice" args (.array (sliceItems items args)) := by
  simp [Gives, find?, ofItems?]

/-- Around the empty separator, a text falls apart into its characters. -/
theorem gives_split_characters :
    Gives (.string s) "split" [.string ""]
      (.array (s.toList.map fun c => .string (String.singleton c))) := by
  have parts : partsOf "" s = s.toList.map String.singleton := by simp [partsOf, splitBy]
  have split : Gives (.string s) "split" [.string ""] (.array ((partsOf "" s).map .string)) :=
    gives_split
  rwa [parts, List.map_map] at split

/-- The bounds of a slice are where its two arguments are placed, in order and within the length,
and a slice is what stands between them. A cut with a numeric reading parts a text or an array at
the position of that reading: the slices up to it and from it on are the whole again. The
characters of a slice of a text are the same slice of its characters. -/
theorem slice_bounds_partition (start stop : Option Json) (length : Nat) (items : List Json)
    (s : String) (args : List Json) (cut : Json) :
    ((sliceRange start stop length).1 ≤ (sliceRange start stop length).2 ∧
      (sliceRange start stop length).2 ≤ length ∧
      ∃ first last, IsBound length 0 (index? start) first ∧
        IsBound length length (endIndex? stop) last ∧
        sliceRange start stop length = (first, max last first)) ∧
    (∃ part, Gives (.array items) "slice" args (.array part) ∧
      IsStretch items part (sliceRange args[0]? args[1]? items.length).1
        (sliceRange args[0]? args[1]? items.length).2) ∧
    (∃ part, Gives (.string s) "slice" args (.string part) ∧
      IsStretch s.toList part.toList (sliceRange args[0]? args[1]? s.toList.length).1
        (sliceRange args[0]? args[1]? s.toList.length).2) ∧
    (cut ≠ .null → cut.toNumber.isNaN = false → ∃ index, index? (some cut) = some index ∧
      (∃ front back, Gives (.array items) "slice" [.ofInt 0, cut] (.array front) ∧
        Gives (.array items) "slice" [cut] (.array back) ∧ front ++ back = items ∧
        PlacedAt items.length index front.length) ∧
      ∃ front back, Gives (.string s) "slice" [.ofInt 0, cut] (.string front) ∧
        Gives (.string s) "slice" [cut] (.string back) ∧ front ++ back = s ∧
        PlacedAt s.length index front.length) ∧
    ∃ part characters, Gives (.string s) "slice" args (.string part) ∧
      Gives (.string part) "split" [.string ""] (.array characters) ∧
      Gives (.array (s.toList.map fun c => .string (String.singleton c))) "slice" args
        (.array characters) ∧
      Gives (.string s) "split" [.string ""]
        (.array (s.toList.map fun c => .string (String.singleton c))) := by
  refine ⟨?bounds, ?items, ?text, fun given numeric =>
    ⟨_, Json.index?_of_numeric numeric, ?itemsPartition, ?textPartition⟩, ?characters⟩
  case bounds =>
    exact ⟨Json.sliceRange_ordered _ _ _, Json.sliceRange_snd_le _ _ _,
      Json.sliceRange_bounds start stop length⟩
  case items => exact ⟨_, gives_slice_items, isStretch_sliceItems⟩
  case text =>
    refine ⟨_, gives_slice_text, ?_⟩
    rw [String.toList_ofList]
    exact isStretch_slice
  case itemsPartition =>
    exact ⟨_, _, gives_slice_items, gives_slice_items,
      sliceItems_cut items given (Json.index?_of_numeric numeric)⟩
  case textPartition =>
    obtain ⟨whole, placed⟩ := slice_cut s.toList given (Json.index?_of_numeric numeric)
    refine ⟨_, _, gives_slice_text, gives_slice_text, ?_, ?_⟩
    · rw [← String.ofList_append, whole, String.ofList_toList]
    · rwa [String.length_ofList, ← String.length_toList]
  case characters =>
    refine ⟨_, _, gives_slice_text, gives_split_characters, ?_, gives_split_characters⟩
    rw [String.toList_ofList, ← sliceItems_map]
    exact gives_slice_items

/-- The last character cut off. -/
theorem slice_bounds_partition_last :
    (Json.ofInt (-1)).toNumber.isNaN = false ∧
      Gives (.string "añb") "slice" [.ofInt 0, .ofInt (-1)] (.string "añ") ∧
      Gives (.string "añb") "slice" [.ofInt (-1)] (.string "b") ∧ "añ" ++ "b" = "añb" := by
  have numeric : (Json.ofInt (-1)).toNumber.isNaN = false := by decide +kernel
  obtain ⟨-, -, -, partition, -⟩ :=
    slice_bounds_partition none none 0 [] "añb" [] (.ofInt (-1))
  obtain ⟨index, read, -, front, back, givesFront, givesBack, whole, placed⟩ :=
    partition nofun numeric
  obtain rfl : -1 = index := Option.some.inj ((by decide +kernel : _ = some (-1)).symm.trans read)
  have same : front.toList ++ back.toList = "añ".toList ++ "b".toList := by
    rw [← String.toList_append, whole]
    rfl
  have short : front.toList.length = "añ".toList.length := by
    rw [String.length_toList, ← Json.relativeIndex_of_placedAt placed]
    decide +kernel
  obtain ⟨sameFront, sameBack⟩ := List.append_inj same short
  rw [String.toList_inj.1 sameFront] at givesFront
  rw [String.toList_inj.1 sameBack] at givesBack
  exact ⟨numeric, givesFront, givesBack, rfl⟩

end Member

end Reshape
