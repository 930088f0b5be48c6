/-
Module: Reshape.Proofs.PathQuery.BareNames
Purpose: quoting bare names in brackets leaves none of them.
Main exports: PathQuery.takeNames?_local, PathQuery.NoBareNames,
  PathQuery.quoteBareNames_induction, PathQuery.noBareNames_quoteBareNames
Trusted boundary: none
-/
import Mathlib.Data.List.Basic
import Reshape.Proofs.Text.Classes
import Reshape.PathQuery.Lenient

/-!
# Bare names in brackets

Whether a bracket stands in front of bare names depends on the text up to the bracket that
closes them, and no other bracket opens in between. So quoting names further on makes no bare
names of what stands before.
-/

namespace Reshape.PathQuery

/-! ### Names -/

/-- A name that stands without quotes. -/
inductive IsBareName : List Char → Prop where
  | intro {first : Char} {more : List Char} (starts : Text.isNameStart first = true)
      (all : ∀ c ∈ more, Text.isWordChar c = true) : IsBareName (first :: more)

theorem takeName?_eq_some {s name rest : List Char} (taken : takeName? s = some (name, rest)) :
    s = name ++ rest ∧ IsBareName name ∧ ∀ c ∈ rest.head?, Text.isWordChar c = false := by
  cases s with
  | nil => cases taken
  | cons first s =>
      rw [takeName?] at taken
      split at taken
      · next starts =>
        cases taken
        refine ⟨?_, .intro starts fun c => List.mem_takeWhile_imp, Text.head?_dropWhile _ s⟩
        rw [List.cons_append, List.takeWhile_append_dropWhile]
      · cases taken

/-- The signs with a meaning of their own in a path expression. -/
def isMark (c : Char) : Bool :=
  ['[', ']', '.', ',', '*', '$', '\'', '"', '\\'].contains c

theorem isMark_of_isWordChar {c : Char} (word : Text.isWordChar c = true) : isMark c = false := by
  have marks : ['[', ']', '.', ',', '*', '$', '\'', '"', '\\'].all (!Text.isWordChar ·) = true := by
    decide
  refine Bool.eq_false_iff.2 fun mark => ?_
  have other := List.all_eq_true.1 marks c (List.contains_iff_mem.1 mark)
  simp [word] at other

/-- The first character of a name is one of its characters. -/
theorem isWordChar_of_isNameStart {c : Char} (starts : Text.isNameStart c = true) :
    Text.isWordChar c = true := by
  rw [Text.isNameStart, Bool.or_eq_true] at starts
  rcases starts with letter | low
  · have ascii : c.toNat < 0x80 := by
      have := Text.toNat_of_isAlpha letter
      omega
    simp [Text.isWordChar, ascii, Char.isAlphanum, letter]
  · obtain rfl : c = '_' := by simpa using low
    decide

theorem IsBareName.isWordChar {name : List Char} (isName : IsBareName name) {c : Char}
    (inside : c ∈ name) : Text.isWordChar c = true := by
  obtain ⟨starts, all⟩ := isName
  rcases List.mem_cons.1 inside with rfl | inside
  · exact isWordChar_of_isNameStart starts
  · exact all c inside

/-- A name with blanks around it depends on what stands before the next mark. -/
theorem takeName?_local {s name rest more : List Char} {mark : Char}
    (taken : takeName? (Text.trimStart s) = some (name, rest))
    (marked : Text.trimStart rest = mark :: more) :
    ∃ written, s = written ++ mark :: more ∧ '[' ∉ written ∧
      ∀ other, ∃ rest', takeName? (Text.trimStart (written ++ mark :: other)) = some (name, rest') ∧
        Text.trimStart rest' = mark :: other := by
  obtain ⟨whole, isName, ends⟩ := takeName?_eq_some taken
  have noBracket : '[' ∉ name := fun inside =>
    absurd (isMark_of_isWordChar (isName.isWordChar inside)) (by decide)
  have noBlank := Text.head?_dropWhile Text.isBlank s
  have noMark := Text.head?_dropWhile Text.isBlank rest
  have before := List.takeWhile_append_dropWhile (p := Text.isBlank) (l := s)
  have gap := List.takeWhile_append_dropWhile (p := Text.isBlank) (l := rest)
  change Text.trimStart s = _ at whole
  rw [← Text.trimStart, whole] at before noBlank
  rw [← Text.trimStart, marked] at gap noMark
  have blanks : ∀ c ∈ s.takeWhile Text.isBlank, Text.isBlank c = true :=
    fun c => List.mem_takeWhile_imp
  have gaps : ∀ c ∈ rest.takeWhile Text.isBlank, Text.isBlank c = true :=
    fun c => List.mem_takeWhile_imp
  generalize s.takeWhile Text.isBlank = front at before blanks
  generalize rest.takeWhile Text.isBlank = back at gap gaps
  subst gap before
  obtain @⟨first, tail, starts, all⟩ := isName
  refine ⟨front ++ (first :: tail) ++ back, by simp, ?_, fun other => ⟨back ++ mark :: other, ?_, ?_⟩⟩
  · have blank : Text.isBlank '[' = false := by decide
    rw [List.mem_append, List.mem_append, not_or, not_or]
    exact ⟨⟨fun inside => by simp [blanks _ inside] at blank, noBracket⟩,
      fun inside => by simp [gaps _ inside] at blank⟩
  · have starts' : ∀ c ∈ (first :: tail ++ (back ++ mark :: other)).head?,
        Text.isBlank c = false := by simpa using noBlank
    have ends' : ∀ c ∈ (back ++ mark :: other).head?, Text.isWordChar c = false := by
      cases back <;> simpa using ends
    rw [List.append_assoc, List.append_assoc, Text.trimStart, Text.dropWhile_run blanks starts',
      List.cons_append, takeName?, if_pos starts, Text.takeWhile_run all ends',
      Text.dropWhile_run all ends']
  · exact Text.dropWhile_run gaps (by simpa using noMark)

/-- Names start with a name, and the mark behind it says how they go on. -/
theorem takeNames?_of_name {s name rest : List Char}
    (taken : takeName? (Text.trimStart s) = some (name, rest)) :
    takeNames? s = match Text.trimStart rest with
      | ',' :: more => (takeNames? more).map fun (names, after) => (name :: names, after)
      | ']' :: after => some ([name], after)
      | _ => none := by
  rw [takeNames?]
  split
  · next none => rw [taken] at none; cases none
  · next some =>
    rw [taken] at some
    cases some
    split <;> simp_all

/-- Names start with a letter, an underscore or blanks. -/
theorem takeNames?_eq_none {c : Char} {rest : List Char} (filled : Text.isBlank c = false)
    (other : Text.isNameStart c = false) : takeNames? (c :: rest) = none := by
  rw [takeNames?]
  split
  · rfl
  · next taken =>
    rw [Text.trimStart, List.dropWhile_cons_of_neg (by simp [filled]), takeName?,
      if_neg (by simp [other])] at taken
    cases taken

/-- The names in brackets depend on what stands before the closing one, and hold no opening
one. -/
theorem takeNames?_local {s rest : List Char} {names : List (List Char)}
    (taken : takeNames? s = some (names, rest)) :
    ∃ written, s = written ++ ']' :: rest ∧ '[' ∉ written ∧
      ∀ other, takeNames? (written ++ ']' :: other) = some (names, other) := by
  fun_induction takeNames? s generalizing names rest with
  | case1 => cases taken
  | case2 s name after isName more mark ih =>
      obtain ⟨⟨others, last⟩, later, same⟩ := Option.map_eq_some_iff.1 taken
      cases same
      obtain ⟨behind, rfl, plain, again⟩ := ih later
      obtain ⟨written, rfl, plain', again'⟩ := takeName?_local isName mark
      refine ⟨written ++ ',' :: behind, by simp, by simp [plain, plain'], fun other => ?_⟩
      obtain ⟨rest', taken', marked⟩ := again' (behind ++ ']' :: other)
      rw [List.append_assoc, List.cons_append, takeNames?_of_name taken', marked]
      simp only [again, Option.map_some]
  | case3 s name after isName more mark =>
      cases taken
      obtain ⟨written, rfl, plain, again⟩ := takeName?_local isName mark
      refine ⟨written, rfl, plain, fun other => ?_⟩
      obtain ⟨rest', taken', marked⟩ := again other
      rw [takeNames?_of_name taken', marked]
      rfl
  | case4 => cases taken

/-- Texts that are the same up to the first bracket start with the same names. -/
theorem takeNames?_eq_none_of_shared {s t : List Char} (free : takeNames? s = none)
    (shared : ∀ front rest, '[' ∉ front → t = front ++ rest → ∃ rest', s = front ++ rest') :
    takeNames? t = none := by
  refine Option.eq_none_iff_forall_ne_some.2 ?_
  rintro ⟨names, after⟩ taken
  obtain ⟨written, rfl, plain, again⟩ := takeNames?_local taken
  have closed : '[' ∉ written ++ [']'] := by simp [plain]
  obtain ⟨rest', rfl⟩ := shared _ after closed (List.append_cons _ _ _)
  have found := again rest'
  rw [List.append_cons, free] at found
  cases found

theorem isBareName_of_takeNames? {s rest : List Char} {names : List (List Char)}
    (taken : takeNames? s = some (names, rest)) : ∀ name ∈ names, IsBareName name := by
  fun_induction takeNames? s generalizing names rest with
  | case1 => cases taken
  | case2 s name after isName more mark ih =>
      obtain ⟨⟨others, last⟩, later, same⟩ := Option.map_eq_some_iff.1 taken
      cases same
      exact List.forall_mem_cons.2 ⟨(takeName?_eq_some isName).2.1, ih later⟩
  | case3 s name after isName more mark =>
      cases taken
      exact List.forall_mem_singleton.2 (takeName?_eq_some isName).2.1
  | case4 => cases taken

/-- Names in quotes, with commas between them. -/
def quotedNames (names : List (List Char)) : List Char :=
  [','].intercalate (names.map quoteName)

theorem quotedNames_cons_cons (name other : List Char) (names : List (List Char)) :
    quotedNames (name :: other :: names) =
      '\'' :: (name ++ '\'' :: ',' :: quotedNames (other :: names)) := by
  simp [quotedNames, quoteName]

/-- Names in quotes are no bare names. -/
theorem takeNames?_quotedNames (names : List (List Char)) (rest : List Char) :
    takeNames? (quotedNames names ++ ']' :: rest) = none := by
  match names with
  | [] => exact takeNames?_eq_none (by decide) (by decide)
  | [name] =>
      rw [quotedNames, List.map_singleton, List.intercalate_singleton]
      exact takeNames?_eq_none (by decide) (by decide)
  | name :: other :: names =>
      rw [quotedNames_cons_cons]
      exact takeNames?_eq_none (by decide) (by decide)

theorem mem_quotedNames {names : List (List Char)} (areNames : ∀ name ∈ names, IsBareName name)
    {c : Char} (inside : c ∈ quotedNames names) :
    c = '\'' ∨ c = ',' ∨ Text.isWordChar c = true := by
  induction names with
  | nil => cases inside
  | cons name names ih =>
      have ofName : c ∈ name → Text.isWordChar c = true :=
        (areNames name List.mem_cons_self).isWordChar
      cases names with
      | nil =>
          simp only [quotedNames, List.map_cons, List.map_nil, List.intercalate_singleton,
            quoteName, List.cons_append, List.mem_cons, List.mem_append] at inside
          tauto
      | cons other names =>
          have later := ih fun name listed => areNames name (List.mem_cons_of_mem _ listed)
          rw [quotedNames_cons_cons] at inside
          simp only [List.mem_cons, List.mem_append] at inside
          tauto

/-- Quoting goes from left to right: a character is kept, or the names in brackets that start
with it are quoted. -/
theorem quoteBareNames_induction {motive : List Char → List Char → Prop} (nil : motive [] [])
    (keep : ∀ c rest, (c = '[' → takeNames? rest = none) → motive rest (quoteBareNames rest) →
      motive (c :: rest) (c :: quoteBareNames rest))
    (quote : ∀ (names : List (List Char)) written rest, '[' ∉ written →
      (∀ name ∈ names, IsBareName name) → motive rest (quoteBareNames rest) →
      motive ('[' :: (written ++ ']' :: rest))
        ('[' :: (quotedNames names ++ ']' :: quoteBareNames rest)))
    (s : List Char) : motive s (quoteBareNames s) := by
  fun_induction quoteBareNames s with
  | case1 => exact nil
  | case2 c rest names after found ih =>
      obtain ⟨rfl, taken⟩ := Option.ite_none_right_eq_some.1 found
      obtain ⟨written, rfl, plain, -⟩ := takeNames?_local taken
      exact quote names written after plain (isBareName_of_takeNames? taken) ih
  | case3 c rest none ih =>
      refine keep c rest (fun bracket => ?_) ih
      rwa [dif_pos bracket] at none

/-- A text in which no bracket stands in front of bare names. -/
def NoBareNames : List Char → Prop
  | [] => True
  | c :: rest => (c = '[' → takeNames? rest = none) ∧ NoBareNames rest

@[simp] theorem noBareNames_nil : NoBareNames [] := trivial

theorem noBareNames_cons {c : Char} {rest : List Char} :
    NoBareNames (c :: rest) ↔ (c = '[' → takeNames? rest = none) ∧ NoBareNames rest := Iff.rfl

/-- A part without brackets makes no difference. -/
@[simp] theorem noBareNames_append {front rest : List Char} (plain : '[' ∉ front) :
    NoBareNames (front ++ rest) ↔ NoBareNames rest := by
  induction front with
  | nil => rfl
  | cons c front ih =>
      rw [List.mem_cons, not_or] at plain
      obtain ⟨here, later⟩ := plain
      rw [List.cons_append, noBareNames_cons, ih later]
      exact and_iff_right fun same => absurd same.symm here

theorem quoteBareNames_eq_self {s : List Char} (none : NoBareNames s) : quoteBareNames s = s := by
  induction s with
  | nil => rw [quoteBareNames]
  | cons c s ih =>
      obtain ⟨here, later⟩ := noBareNames_cons.1 none
      rw [quoteBareNames]
      split
      · next found =>
        obtain ⟨bracket, taken⟩ := Option.ite_none_right_eq_some.1 found
        rw [here bracket] at taken
        cases taken
      · rw [ih later]

/-- What quoting gives was there before, up to the first bracket. -/
theorem exists_of_quoteBareNames {s front rest : List Char} (plain : '[' ∉ front)
    (split : quoteBareNames s = front ++ rest) : ∃ rest', s = front ++ rest' := by
  induction s using quoteBareNames_induction generalizing front with
  | nil => exact ⟨rest, split⟩
  | keep d s _ ih =>
      cases front with
      | nil => exact ⟨_, rfl⟩
      | cons c front =>
          obtain ⟨rfl, behind⟩ := List.cons.inj split
          obtain ⟨rest', rfl⟩ := ih (fun inside => plain (List.mem_cons_of_mem _ inside)) behind
          exact ⟨rest', rfl⟩
  | quote names written s _ _ _ =>
      cases front with
      | nil => exact ⟨_, rfl⟩
      | cons c front =>
          obtain ⟨rfl, -⟩ := List.cons.inj split
          exact absurd List.mem_cons_self plain

/-- No bare names are left after quoting. -/
theorem noBareNames_quoteBareNames (s : List Char) : NoBareNames (quoteBareNames s) := by
  induction s using quoteBareNames_induction with
  | nil => exact noBareNames_nil
  | keep c rest free ih =>
      -- Names behind the bracket would have stood there before.
      refine noBareNames_cons.2 ⟨fun bracket => ?_, ih⟩
      exact takeNames?_eq_none_of_shared (free bracket) fun front more plain split =>
        exists_of_quoteBareNames plain split
  | quote names written rest _ areNames ih =>
      have plain : '[' ∉ quotedNames names ++ [']'] := by
        intro inside
        rcases List.mem_append.1 inside with inside | inside
        · rcases mem_quotedNames areNames inside with same | same | word
          · exact absurd same (by decide)
          · exact absurd same (by decide)
          · exact absurd (isMark_of_isWordChar word) (by decide)
        · exact absurd inside (by decide)
      refine noBareNames_cons.2 ⟨fun _ => takeNames?_quotedNames names _, ?_⟩
      rw [List.append_cons]
      exact (noBareNames_append plain).2 ih

theorem NoBareNames.of_append {front rest : List Char} (none : NoBareNames (front ++ rest)) :
    NoBareNames front ∧ NoBareNames rest := by
  induction front with
  | nil => exact ⟨noBareNames_nil, none⟩
  | cons c front ih =>
      rw [List.cons_append] at none
      obtain ⟨here, later⟩ := noBareNames_cons.1 none
      obtain ⟨free, freeRest⟩ := ih later
      refine ⟨noBareNames_cons.2 ⟨fun bracket => ?_, free⟩, freeRest⟩
      refine takeNames?_eq_none_of_shared (here bracket) fun start more _ split => ⟨more ++ rest, ?_⟩
      rw [split, List.append_assoc]

end Reshape.PathQuery
