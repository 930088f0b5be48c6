/-
Module: Reshape.Proofs.Call.Building
Purpose: that the members and the namespace which build long texts and arrays stay within a limit,
  build exactly what is asked for, and do so without leaving machine words.
Main exports: Member.Cycles, Member.repeatedInWords, Member.padInWords,
  Member.built_values_bounded_exact
Trusted boundary: none
-/
import Reshape.Proofs.Call.Failure
import Reshape.Proofs.Call.IntegerArgument
import Reshape.Proofs.Call.Splitting

/-!
# Building texts and arrays

Repeating, filling up and making an array take a length from an argument, which may be any integer
of 64 bits. The length is checked before anything is built. The products and differences on the way
are taken in machine words; checked versions of the functions, which have no result when one of them
leaves its word, give the same as the functions on unbounded numbers.
-/

namespace Reshape

/-! ### Machine words -/

/-- A number as a word of so many bits without a sign, if it has room there. -/
def word? (bits : Nat) (i : Int) : Option Nat :=
  if 0 ≤ i ∧ i < 2 ^ bits then some i.toNat else none

theorem word?_natCast {bits n : Nat} (short : n < 2 ^ bits) : word? bits n = some n := by
  rw [word?, if_pos ⟨Int.natCast_nonneg n, by exact_mod_cast short⟩, Int.toNat_natCast]

/-- No character takes more than four bytes. -/
theorem utf8ByteSize_bounds (s : String) :
    s.length ≤ s.utf8ByteSize ∧ s.utf8ByteSize ≤ 4 * s.length := by
  rw [← s.ofList_toList, String.length_ofList]
  induction s.toList with
  | nil => simp
  | cons c rest ih =>
      have least := c.utf8Size_pos
      have most := c.utf8Size_le_four
      rw [String.ofList_cons, String.utf8ByteSize_append, String.utf8ByteSize_singleton,
        List.length_cons]
      omega

namespace Member

open Json (index?)

/-- The integer that an argument list gives first, zero when it gives none. -/
def countArg (args : List Json) : Int :=
  (index? args[0]?).getD 0

theorem countArg_bounds (args : List Json) :
    minInt64 ≤ countArg args ∧ countArg args ≤ maxInt64 :=
  Json.getD_index?_bounds args[0]?

/-! ### Fills -/

section Fills

variable {fill : List Char} {hf : fill ≠ []} {length : Nat}

/-- A stretch from the start of a fill that is repeated without end. -/
def Cycles (fill stretch : List Char) : Prop :=
  ∀ i < stretch.length, stretch[i]? = fill[i % fill.length]?

theorem length_cycleTake : (cycleTake fill hf length).length = length := by
  induction length using cycleTake.induct fill hf with
  | case1 length short =>
      rw [cycleTake, dif_pos short, List.length_take_of_le short]
  | case2 length long ih =>
      rw [cycleTake, dif_neg long, List.length_append, ih]
      omega

theorem cycles_cycleTake : Cycles fill (cycleTake fill hf length) := by
  induction length using cycleTake.induct fill hf with
  | case1 length short =>
      intro i within
      rw [length_cycleTake] at within
      rw [cycleTake, dif_pos short, List.getElem?_take_of_lt within, Nat.mod_eq_of_lt (by omega)]
  | case2 length long ih =>
      intro i within
      rw [length_cycleTake] at within
      rw [cycleTake, dif_neg long]
      by_cases first : i < fill.length
      · rw [List.getElem?_append_left first, Nat.mod_eq_of_lt first]
      · rw [List.getElem?_append_right (by omega), Nat.mod_eq_sub_mod (by omega)]
        exact ih _ (by rw [length_cycleTake]; omega)

end Fills

/-! ### Repeating -/

section Texts

variable {s : String} {args : List Json}

/-- A text is repeated when the count is no less than zero and the product within the limit. -/
theorem repeated_eq :
    repeated s.toList args =
      if countArg args < 0 then .error (.negativeRepeat (countArg args))
      else if 2 ^ 24 < countArg args * s.length then
        .error (.tooLong "repeated string" (countArg args * s.length).toNat)
      else .ok (ofChars (List.replicate (countArg args).toNat s.toList).flatten) := by
  rw [repeated, ← countArg, String.length_toList]
  split
  · rfl
  · next natural =>
    obtain ⟨count, same⟩ := Int.eq_ofNat_of_zero_le (Int.not_lt.1 natural)
    rw [same, Int.toNat_natCast, ← Int.natCast_mul, Int.toNat_natCast, Nat.mul_comm count]
    split
    · next nothing =>
      rw [if_neg (by rcases nothing with empty | zero <;> simp_all)]
      rcases nothing with empty | zero
      · simp [empty, ofChars]
      · simp_all [ofChars]
    · rw [builtLength, CallError.maxBuiltLength]
      by_cases short : s.length * count ≤ 16777216
      · rw [if_pos short, if_neg (by omega)]
        rfl
      · rw [if_neg short, if_pos (by omega)]
        rfl

/-! ### Filling up -/

/-- The text that fills up, a blank when the arguments give none. -/
def fillArg (args : List Json) : String :=
  (textArg? args 1).getD " "

/-- A text with a stretch on one side. -/
def besides (atStart : Bool) (s added : String) : String :=
  if atStart then added ++ s else s ++ added

theorem ofChars_besides (atStart : Bool) (added : List Char) :
    ofChars (if atStart then added ++ s.toList else s.toList ++ added) =
      .string (besides atStart s (String.ofList added)) := by
  cases atStart <;> simp [besides, ofChars, String.ofList_append]

theorem pad_of_empty {atStart : Bool} (empty : fillArg args = "") :
    pad atStart s.toList args = .ok (.string s) := by
  rw [pad, ← fillArg, dif_pos (by rw [empty]; rfl), ofChars, String.ofList_toList]

/-- What is added to a text is cut from the fill to the length that is missing. -/
theorem pad_eq (s : String) (atStart : Bool) (filled : fillArg args ≠ "") :
    ∃ added : String, Cycles (fillArg args).toList added.toList ∧
      (added.length : Int) = max (countArg args) s.length - s.length ∧
      pad atStart s.toList args =
        if s.length < countArg args ∧ 2 ^ 24 < countArg args then
          .error (.tooLong "padded string" (countArg args).toNat)
        else .ok (.string (besides atStart s added)) := by
  have some_fill : (fillArg args).toList ≠ [] := mt String.toList_eq_nil_iff.1 filled
  refine ⟨String.ofList (cycleTake (fillArg args).toList some_fill
    ((countArg args).toNat - s.length)), ?_, ?_, ?_⟩
  · rw [String.toList_ofList]
    exact cycles_cycleTake
  · rw [String.length_ofList, length_cycleTake]
    omega
  · have target : (max (countArg args) 0).toNat = (countArg args).toNat := by omega
    rw [pad, ← countArg, ← fillArg, dif_neg some_fill, target, String.length_toList]
    by_cases short : (countArg args).toNat ≤ s.length
    · have nothing : cycleTake (fillArg args).toList some_fill 0 = [] :=
        List.length_eq_zero_iff.1 length_cycleTake
      rw [if_pos short, if_neg (by omega), Nat.sub_eq_zero_of_le short, nothing]
      simp [besides, ofChars]
    · rw [if_neg short, builtLength, CallError.maxBuiltLength]
      by_cases within : (countArg args).toNat ≤ 16777216
      · rw [if_pos within, if_neg (by omega), ← ofChars_besides]
        rfl
      · rw [if_neg within, if_pos (by omega)]
        rfl

/-! ### In machine words -/

/-- The repeated text in machine words: the product of the counts is taken in 128 bits, the length
of the result in bytes in 64. -/
def repeatedInWords (s : String) (args : List Json) : Option (Except CallError Json) := do
  let length ← word? 64 s.length
  if countArg args < 0 then return .error (.negativeRepeat (countArg args))
  let count ← word? 128 (countArg args)
  if length = 0 ∨ count = 0 then return .ok (.string "")
  let product ← word? 128 (length * count : Nat)
  match builtLength product "repeated string" with
  | .error e => return .error e
  | .ok _ =>
      let repetitions ← word? 64 count
      let _bytes ← word? 64 (s.utf8ByteSize * repetitions : Nat)
      return .ok (ofChars (List.replicate repetitions s.toList).flatten)

/-- The filled text in machine words: the missing length is a difference of 64 bits. -/
def padInWords (atStart : Bool) (s : String) (args : List Json) :
    Option (Except CallError Json) := do
  let length ← word? 64 s.length
  let target ← word? 128 (max (countArg args) 0)
  if hf : (fillArg args).toList = [] then return .ok (.string s)
  else if target ≤ length then return .ok (.string s)
  else
    match builtLength target "padded string" with
    | .error e => return .error e
    | .ok target =>
        let missing ← word? 64 ((target : Int) - length)
        return .ok (.string (besides atStart s
          (String.ofList (cycleTake (fillArg args).toList hf missing))))

/-- A text in memory has less than `2 ^ 63` bytes; then no product leaves its word. -/
theorem repeatedInWords_eq (held : s.utf8ByteSize < 2 ^ 63) :
    repeatedInWords s args = some (repeated s.toList args) := by
  have size := utf8ByteSize_bounds s
  have range := countArg_bounds args
  rw [minInt64, maxInt64] at range
  rw [repeatedInWords, word?_natCast (by omega), repeated, ← countArg, String.length_toList]
  simp only [Option.bind_eq_bind, Option.bind_some]
  by_cases negative : countArg args < 0
  · rw [if_pos negative, if_pos negative]
    rfl
  · obtain ⟨count, same⟩ := Int.eq_ofNat_of_zero_le (Int.not_lt.1 negative)
    rw [if_neg negative, if_neg negative, same, word?_natCast (by omega), Int.toNat_natCast]
    have nothing : s.toList = [] ∨ (count : Int) = 0 ↔ s.length = 0 ∨ count = 0 := by
      rw [← String.length_toList, List.length_eq_zero_iff, Int.natCast_eq_zero]
    simp only [Option.bind_some, nothing]
    by_cases none : s.length = 0 ∨ count = 0
    · rw [if_pos none, if_pos none]
      rfl
    · have product : s.length * count < 2 ^ 128 := calc
        s.length * count ≤ 2 ^ 63 * 2 ^ 63 := Nat.mul_le_mul (by omega) (by omega)
        _ < 2 ^ 128 := by decide
      rw [if_neg none, if_neg none, word?_natCast product, Option.bind_some, builtLength,
        CallError.maxBuiltLength]
      by_cases within : s.length * count ≤ 16777216
      · have bytes : s.utf8ByteSize * count < 2 ^ 64 := calc
          s.utf8ByteSize * count ≤ 4 * s.length * count := Nat.mul_le_mul_right count size.2
          _ = 4 * (s.length * count) := Nat.mul_assoc 4 s.length count
          _ < 2 ^ 64 := by omega
        rw [if_pos within]
        dsimp only
        rw [word?_natCast (by omega), Option.bind_some, word?_natCast bytes]
        rfl
      · rw [if_neg within]
        rfl

/-- Nor does the difference: it is taken only when the target is the greater number. -/
theorem padInWords_eq {atStart : Bool} (held : s.utf8ByteSize < 2 ^ 63) :
    padInWords atStart s args = some (pad atStart s.toList args) := by
  have size := utf8ByteSize_bounds s
  have range := countArg_bounds args
  rw [minInt64, maxInt64] at range
  have natural : max (countArg args) 0 = ((max (countArg args) 0).toNat : Int) := by omega
  rw [padInWords, word?_natCast (by omega), natural, word?_natCast (by omega), pad, ← countArg,
    ← fillArg, String.length_toList]
  simp only [Option.bind_eq_bind, Option.bind_some]
  by_cases empty : (fillArg args).toList = []
  · rw [dif_pos empty, dif_pos empty, ofChars, String.ofList_toList]
    rfl
  · rw [dif_neg empty, dif_neg empty]
    by_cases short : (max (countArg args) 0).toNat ≤ s.length
    · rw [if_pos short, if_pos short, ofChars, String.ofList_toList]
      rfl
    · rw [if_neg short, if_neg short, builtLength, CallError.maxBuiltLength]
      by_cases within : (max (countArg args) 0).toNat ≤ 16777216
      · rw [if_pos within]
        dsimp only
        rw [← Int.ofNat_sub (by omega), word?_natCast (by omega), Option.bind_some,
          ← ofChars_besides]
        rfl
      · rw [if_neg within]
        rfl

/-! ### What the members give -/

theorem find?_repeat : find? (.string s) "repeat" args = some (repeated s.toList args) := by
  simp [find?, ofText?]

theorem find?_pad (atStart : Bool) :
    find? (.string s) (if atStart then "padStart" else "padEnd") args =
      some (pad atStart s.toList args) := by
  cases atStart <;> simp [find?, ofText?]

end Texts

end Member

/-! ### Arrays of a length -/

namespace Namespace

variable {number : Json.Number}

theorem arrayOf_length {length : Nat} (whole : number.toInt? = some (length : Int))
    (short : length ≤ 2 ^ 24) :
    arrayOf [.number number] = .ok (.array (List.replicate length .null)) := by
  rw [arrayOf, whole]
  dsimp only
  rw [if_neg (by omega), Int.toNat_natCast, builtLength, CallError.maxBuiltLength,
    if_pos (by omega)]
  rfl

theorem fails_arrayOf_number :
    Fails (arrayOf [.number number]) ↔
      ¬ ∃ length : Nat, length ≤ 2 ^ 24 ∧ number.toInt? = some (length : Int) := by
  rw [fails_arrayOf]
  constructor
  · rintro ⟨same, single, refused⟩ ⟨length, short, whole⟩
    obtain rfl : number = same := by simpa using single
    exact absurd (refused length whole) (Nat.not_lt.2 short)
  · intro refused
    refine ⟨number, rfl, fun length whole => Nat.lt_of_not_le fun short => ?_⟩
    exact refused ⟨length, short, whole⟩

/-- What stands before the arguments of a namespace that is called or that makes a new value. -/
def leads : List (List Json) :=
  [[], [.null], [.string "new"]]

theorem find?_array_number (now : Calendar.Moment) {lead : List Json} (inside : lead ∈ leads) :
    find? now "Array" (lead ++ [Json.number number]) = some (arrayOf [.number number]) := by
  simp only [leads, List.mem_cons, List.not_mem_nil, or_false] at inside
  rcases inside with rfl | rfl | rfl <;> rfl

end Namespace

namespace Member

/-- Texts and arrays are built to the length that the arguments ask for, whatever they are, or not
at all. A text is repeated unless the count is negative or the result longer than `2 ^ 24`
characters. It is filled up with the start of the fill repeated without end, unless it would grow to
more than that; with an empty fill it stays as it is. An array of nulls is made of a natural number
up to the same limit, and of no other number. The members are what they are in machine words: every
reading fits 64 bits, and no product or difference leaves its word. -/
theorem built_values_bounded_exact (s : String) (args : List Json) (atStart : Bool)
    (number : Json.Number) (now : Calendar.Moment) :
    let count := countArg args
    let fill := fillArg args
    let padName := if atStart then "padStart" else "padEnd"
    (find? (.string s) "repeat" args = some (
      if count < 0 then .error (.negativeRepeat count)
      else if 2 ^ 24 < count * s.length then
        .error (.tooLong "repeated string" (count * s.length).toNat)
      else .ok (.string (String.ofList (List.replicate count.toNat s.toList).flatten)))) ∧
    ((fill = "" → Gives (.string s) padName args (.string s)) ∧
      (fill ≠ "" → s.length < count ∧ 2 ^ 24 < count →
        find? (.string s) padName args =
          some (.error (.tooLong "padded string" count.toNat))) ∧
      (fill ≠ "" → ¬ (s.length < count ∧ 2 ^ 24 < count) → ∃ added : String,
        Gives (.string s) padName args (.string (besides atStart s added)) ∧
        ((besides atStart s added).length : Int) = max (s.length : Int) count ∧
        Cycles fill.toList added.toList)) ∧
    (∀ lead ∈ Namespace.leads,
      (FailsIn (Namespace.find? now "Array" (lead ++ [Json.number number])) ↔
        ¬ ∃ length : Nat, length ≤ 2 ^ 24 ∧ number.toInt? = some (length : Int)) ∧
      ∀ length : Nat, length ≤ 2 ^ 24 → number.toInt? = some (length : Int) →
        Namespace.find? now "Array" (lead ++ [Json.number number]) =
          some (.ok (.array (List.replicate length .null)))) ∧
    (minInt64 ≤ count ∧ count ≤ maxInt64) ∧
    (s.utf8ByteSize < 2 ^ 63 →
      repeatedInWords s args = find? (.string s) "repeat" args ∧
      padInWords atStart s args = find? (.string s) padName args) := by
  intro count fill padName
  refine ⟨?repeated, ⟨?empty, ?tooLong, ?filled⟩, fun lead inside => ⟨?refused, ?array⟩,
    countArg_bounds args, fun held => ⟨?repeatedInWords, ?padInWords⟩⟩
  case repeated => rw [find?_repeat, repeated_eq, ofChars]
  case empty =>
    intro empty
    rw [Gives, find?_pad, pad_of_empty empty]
  case tooLong =>
    intro filled beyond
    obtain ⟨added, -, -, padded⟩ := pad_eq s atStart filled
    rw [find?_pad, padded, if_pos beyond]
  case filled =>
    intro filled within
    obtain ⟨added, cycles, length, padded⟩ := pad_eq s atStart filled
    refine ⟨added, ?_, ?_, cycles⟩
    · rw [Gives, find?_pad, padded, if_neg within]
    · have both : (besides atStart s added).length = s.length + added.length := by
        cases atStart <;> simp [besides, String.length_append, Nat.add_comm]
      omega
  case refused =>
    rw [Namespace.find?_array_number now inside, failsIn_some, Namespace.fails_arrayOf_number]
  case array =>
    intro length short whole
    rw [Namespace.find?_array_number now inside, Namespace.arrayOf_length whole short]
  case repeatedInWords => rw [find?_repeat, repeatedInWords_eq held]
  case padInWords => rw [find?_pad, padInWords_eq held]

/-- A fill that is cut, and an array of three. -/
theorem built_values_bounded_exact_cut :
    let args : List Json := [.ofInt 8, .string "xy"]
    let number : Json.Number := .integer 3 (by decide)
    (fillArg args ≠ "" ∧ ¬ (("añb".length : Int) < countArg args ∧ 2 ^ 24 < countArg args) ∧
      "añb".utf8ByteSize < 2 ^ 63 ∧ 3 ≤ 2 ^ 24 ∧ number.toInt? = some ((3 : Nat) : Int)) ∧
    (∃ added : String,
      Gives (.string "añb") "padStart" args (.string (besides true "añb" added)) ∧
      (besides true "añb" added).length = (8 : Int) ∧ Cycles "xy".toList added.toList) ∧
    padInWords true "añb" args = find? (.string "añb") "padStart" args ∧
    Namespace.find? ⟨0, 0⟩ "Array" [.null, .number number] =
      some (.ok (.array [.null, .null, .null])) := by
  intro args number
  have eight : countArg args = 8 := by decide +kernel
  have fill : fillArg args = "xy" := by
    simp [fillArg, textArg?, args, Json.display]
  have filled : fillArg args ≠ "" := by
    rw [fill]
    decide
  have within : ¬ (("añb".length : Int) < countArg args ∧ 2 ^ 24 < countArg args) := by
    rw [eight]
    decide
  have held : "añb".utf8ByteSize < 2 ^ 63 := by decide
  obtain ⟨-, ⟨-, -, padded⟩, arrays, -, words⟩ :=
    built_values_bounded_exact "añb" args true number ⟨0, 0⟩
  obtain ⟨added, given, length, cycles⟩ := padded filled within
  rw [fill] at cycles
  rw [eight] at length
  refine ⟨⟨filled, within, held, by decide, rfl⟩, ⟨added, given, length, cycles⟩, (words held).2, ?_⟩
  exact (arrays [.null] (by simp [Namespace.leads])).2 3 (by decide) rfl

end Member

end Reshape
