/-
Module: Reshape.Proofs.PathQuery.DottedIndices
Purpose: rewriting dotted indices leaves none of them and makes no bare names, so a plain
  stretch in strict form stays as it is.
Main exports: PathQuery.IndexAt, PathQuery.bracketDottedIndices_induction,
  PathQuery.NoDottedIndex, PathQuery.Settled, PathQuery.settled_strictPlain,
  PathQuery.strictPlain_eq_self
Trusted boundary: none
-/
import Reshape.Proofs.PathQuery.BareNames

/-!
# Dotted indices

A dotted index stands behind a name or sign and ends with its digits. What it is rewritten to
starts with a bracket, and neither a name nor a dotted index reaches over one: so a place that
held no lenient form holds none after the places behind it have been rewritten.
-/

namespace Reshape.PathQuery

/-! ### Indices -/

/-- A character that neither goes on with the digits of an index nor undoes it. -/
def EndsIndex (c : Char) : Prop :=
  Text.isDecimalDigit c = false ∧ Text.isWordChar c = false

/-- The digits of an index. -/
structure IsDigits (digits : List Char) : Prop where
  some : digits ≠ []
  all : ∀ c ∈ digits, Text.isDecimalDigit c = true

/-- What an index can stand behind: a name, or a sign that ends a segment. -/
inductive IsHead : List Char → Prop where
  | sign {c : Char} (isSign : c = ']' ∨ c = '*' ∨ c = '$') : IsHead [c]
  | name {name : List Char} (isName : IsBareName name) : IsHead name

/-- At the start of a text a dotted index stands behind a name or sign. -/
def IndexAt (s : List Char) : Prop :=
  ∃ head digits after, IsHead head ∧ IsDigits digits ∧ (∀ c ∈ after.head?, EndsIndex c) ∧
    s = head ++ '.' :: (digits ++ after)

theorem IsHead.notMem {head : List Char} (isHead : IsHead head) : '[' ∉ head ∧ '.' ∉ head := by
  cases isHead with
  | sign isSign => rcases isSign with rfl | rfl | rfl <;> decide
  | name isName =>
      exact ⟨fun inside => absurd (isMark_of_isWordChar (isName.isWordChar inside)) (by decide),
        fun inside => absurd (isMark_of_isWordChar (isName.isWordChar inside)) (by decide)⟩

theorem IsHead.ne_nil {head : List Char} (isHead : IsHead head) : head ≠ [] := by
  rcases isHead with _ | ⟨_, _⟩ <;> exact List.cons_ne_nil _ _

theorem IsDigits.notMem {digits : List Char} (isDigits : IsDigits digits) {c : Char}
    (other : Text.isDecimalDigit c = false) : c ∉ digits := fun inside => by
  simp [isDigits.all c inside] at other

theorem takeIndex?_eq_some {s digits rest : List Char} :
    takeIndex? s = some (digits, rest) ↔
      s = '.' :: (digits ++ rest) ∧ IsDigits digits ∧ ∀ c ∈ rest.head?, EndsIndex c := by
  constructor
  · intro taken
    unfold takeIndex? at taken
    split at taken
    · next more =>
      dsimp only at taken
      split at taken
      · cases taken
      · next found =>
        cases taken
        rw [not_or] at found
        refine ⟨by rw [List.takeWhile_append_dropWhile], ⟨found.1, fun c => List.mem_takeWhile_imp⟩,
          fun c first => ⟨Text.head?_dropWhile _ more c first, ?_⟩⟩
        obtain ⟨rest, whole⟩ := List.head?_eq_some_iff.1 (Option.mem_def.1 first)
        simpa [whole] using found.2
    · cases taken
  · rintro ⟨rfl, ⟨some, all⟩, ends⟩
    have stops : ∀ c ∈ rest.head?, Text.isDecimalDigit c = false := fun c first => (ends c first).1
    have noWord : ¬ (rest.take 1).any Text.isWordChar = true := by
      cases rest with
      | nil => decide
      | cons c rest => simp [(ends c rfl).2]
    rw [takeIndex?, Text.takeWhile_run all stops, Text.dropWhile_run all stops, if_neg (not_or.2 ⟨some, noWord⟩)]

theorem takeIndexed?_eq_some {s head rest : List Char} (taken : takeIndexed? s = some (head, rest)) :
    s = head ++ rest ∧ IsHead head := by
  cases s with
  | nil => cases taken
  | cons c s =>
      rw [takeIndexed?] at taken
      split at taken
      · next isSign =>
        cases taken
        exact ⟨rfl, .sign isSign⟩
      · obtain ⟨whole, isName, -⟩ := takeName?_eq_some taken
        exact ⟨whole, .name isName⟩

/-- The name or sign in front of a dot is found as a whole. -/
theorem takeIndexed?_dot {head : List Char} (isHead : IsHead head) (rest : List Char) :
    takeIndexed? (head ++ '.' :: rest) = some (head, '.' :: rest) := by
  cases isHead with
  | sign isSign => rw [List.cons_append, takeIndexed?, if_pos isSign, List.nil_append]
  | name isName =>
      obtain @⟨first, more, starts, all⟩ := isName
      have word := isWordChar_of_isNameStart starts
      have noSign : ¬ (first = ']' ∨ first = '*' ∨ first = '$') := by
        rintro (rfl | rfl | rfl) <;> exact absurd word (by decide)
      have ends : ∀ c ∈ ('.' :: rest).head?, Text.isWordChar c = false := by
        rintro c ⟨⟩
        decide
      rw [List.cons_append, takeIndexed?, if_neg noSign, takeName?, if_pos starts,
        Text.takeWhile_run all ends, Text.dropWhile_run all ends]

/-- Several indices, each with a dot in front or in brackets. -/
def dotted (runs : List (List Char)) : List Char :=
  runs.flatMap fun digits => '.' :: digits

def bracketed (runs : List (List Char)) : List Char :=
  runs.flatMap fun digits => '[' :: (digits ++ [']'])

@[simp] theorem dotted_cons (digits : List Char) (runs : List (List Char)) :
    dotted (digits :: runs) = '.' :: (digits ++ dotted runs) := rfl

@[simp] theorem bracketed_cons (digits : List Char) (runs : List (List Char)) :
    bracketed (digits :: runs) = '[' :: (digits ++ ']' :: bracketed runs) := by
  simp [bracketed]

/-- The indices at the start of a text are all rewritten. -/
theorem bracketIndices_eq (s : List Char) :
    ∃ runs, s = dotted runs ++ (bracketIndices s).2 ∧ (bracketIndices s).1 = bracketed runs ∧
      (∀ digits ∈ runs, IsDigits digits) ∧ takeIndex? (bracketIndices s).2 = none ∧
      (runs ≠ [] → ∀ c ∈ (bracketIndices s).2.head?, EndsIndex c) := by
  fun_induction bracketIndices s with
  | case1 s none => exact ⟨[], rfl, rfl, List.forall_mem_nil _, none, fun some => absurd rfl some⟩
  | case2 s digits rest found written after split ih =>
      obtain ⟨runs, whole, rewritten, all, stops, behind⟩ := ih
      obtain ⟨rfl, isDigits, ends⟩ := takeIndex?_eq_some.1 found
      rw [split] at whole rewritten stops behind
      dsimp only at whole rewritten stops behind ⊢
      refine ⟨digits :: runs, ?_, ?_, List.forall_mem_cons.2 ⟨isDigits, all⟩, stops, fun _ => ?_⟩
      · rw [dotted_cons, List.cons_append, List.append_assoc, ← whole]
      · rw [bracketed_cons, ← rewritten, List.cons_append]
      · cases runs with
        | nil => rwa [whole] at ends
        | cons other runs => exact behind (List.cons_ne_nil _ _)

/-- Rewriting goes from left to right: a character at which no index stands is kept, or the
indices behind a name or sign are written in brackets. -/
theorem bracketDottedIndices_induction {motive : List Char → List Char → Prop}
    (nil : motive [] [])
    (keep : ∀ c rest, ¬ IndexAt (c :: rest) → motive rest (bracketDottedIndices rest) →
      motive (c :: rest) (c :: bracketDottedIndices rest))
    (bracket : ∀ head digits runs rest, IsHead head → IsDigits digits →
      (∀ more ∈ runs, IsDigits more) → takeIndex? rest = none →
      (∀ c ∈ rest.head?, EndsIndex c) → motive rest (bracketDottedIndices rest) →
      motive (head ++ (dotted (digits :: runs) ++ rest))
        (head ++ (bracketed (digits :: runs) ++ bracketDottedIndices rest)))
    (s : List Char) : motive s (bracketDottedIndices s) := by
  fun_induction bracketDottedIndices s with
  | case1 => exact nil
  | case2 c rest none ih =>
      refine keep c rest ?_ ih
      rintro ⟨head, digits, after, isHead, -, -, same⟩
      rw [same, takeIndexed?_dot isHead] at none
      cases none
  | case3 c rest head more found noIndices ih =>
      refine keep c rest ?_ ih
      rintro ⟨front, digits, after, isHead, isDigits, ends, same⟩
      rw [same, takeIndexed?_dot isHead] at found
      cases found
      rw [bracketIndices] at noIndices
      split at noIndices
      · next none =>
        rw [takeIndex?_eq_some.2 ⟨rfl, isDigits, ends⟩] at none
        cases none
      · cases noIndices
  | case4 c rest head more found indices ih =>
      obtain ⟨whole, isHead⟩ := takeIndexed?_eq_some found
      obtain ⟨runs, split, rewritten, all, stops, ends⟩ := bracketIndices_eq more
      cases runs with
      | nil => exact absurd rewritten indices
      | cons digits runs =>
          obtain ⟨isDigits, all⟩ := List.forall_mem_cons.1 all
          have step := bracket head digits runs _ isHead isDigits all stops
            (ends (List.cons_ne_nil _ _)) ih
          rwa [← split, ← whole, ← rewritten, ← List.append_assoc] at step

/-- A text in which no dotted index stands behind a name or sign. -/
def NoDottedIndex : List Char → Prop
  | [] => True
  | c :: rest => ¬ IndexAt (c :: rest) ∧ NoDottedIndex rest

@[simp] theorem noDottedIndex_nil : NoDottedIndex [] := trivial

theorem noDottedIndex_cons {c : Char} {rest : List Char} :
    NoDottedIndex (c :: rest) ↔ ¬ IndexAt (c :: rest) ∧ NoDottedIndex rest := Iff.rfl

theorem NoDottedIndex.of_append_right {front rest : List Char}
    (none : NoDottedIndex (front ++ rest)) : NoDottedIndex rest := by
  induction front with
  | nil => exact none
  | cons c front ih => exact ih (noDottedIndex_cons.1 none).2

theorem not_noDottedIndex_of_indexAt {s : List Char} (index : IndexAt s) : ¬ NoDottedIndex s := by
  intro none
  cases s with
  | nil =>
      obtain ⟨head, digits, after, -, -, -, same⟩ := index
      simp at same
  | cons c s => exact (noDottedIndex_cons.1 none).1 index

theorem bracketDottedIndices_eq_self {s : List Char} (none : NoDottedIndex s) :
    bracketDottedIndices s = s := by
  induction s using bracketDottedIndices_induction with
  | nil => rfl
  | keep c rest _ ih => rw [ih (noDottedIndex_cons.1 none).2]
  | bracket head digits runs rest isHead isDigits _ _ ends _ =>
      refine absurd none (not_noDottedIndex_of_indexAt ?_)
      refine ⟨head, digits, dotted runs ++ rest, isHead, isDigits, ?_, by simp⟩
      cases runs with
      | nil => exact ends
      | cons other runs =>
          rintro c ⟨⟩
          exact ⟨by decide, by decide⟩

/-- What rewriting gives was there before, up to the first bracket, and went on with a
character of the same kind. -/
theorem exists_of_bracketDottedIndices {s front rest : List Char} (plain : '[' ∉ front)
    (split : bracketDottedIndices s = front ++ rest) :
    ∃ rest', s = front ++ rest' ∧
      ((∀ c ∈ rest.head?, EndsIndex c) → ∀ c ∈ rest'.head?, EndsIndex c) := by
  induction s using bracketDottedIndices_induction generalizing front with
  | nil => exact ⟨rest, split, id⟩
  | keep d s _ ih =>
      cases front with
      | nil => exact ⟨d :: s, rfl, by rw [← List.nil_append rest, ← split]; exact id⟩
      | cons c front =>
          obtain ⟨rfl, behind⟩ := List.cons.inj split
          obtain ⟨rest', rfl, ends⟩ :=
            ih (fun inside => plain (List.mem_cons_of_mem _ inside)) behind
          exact ⟨rest', rfl, ends⟩
  | bracket head digits runs s isHead isDigits _ _ _ _ =>
      have dot : ∀ c ∈ (dotted (digits :: runs) ++ s).head?, EndsIndex c := by
        rintro c ⟨⟩
        exact ⟨by decide, by decide⟩
      rcases List.append_eq_append_iff.1 split with ⟨more, rfl, behind⟩ | ⟨more, rfl, behind⟩
      · cases more with
        | nil => exact ⟨_, by rw [List.append_nil], fun _ => dot⟩
        | cons c more =>
            obtain ⟨rfl, -⟩ := List.cons.inj behind
            exact absurd (by simp) plain
      · refine ⟨more ++ (dotted (digits :: runs) ++ s), List.append_assoc _ _ _, fun ends => ?_⟩
        cases more with
        | nil => exact dot
        | cons c more =>
            rw [behind] at ends
            exact ends

/-! ### Nothing is left -/

/-- In front of a bracket nothing that holds no dot can be a head of an index. -/
theorem noDottedIndex_append {front rest : List Char} (noDot : '.' ∉ front)
    (none : NoDottedIndex ('[' :: rest)) : NoDottedIndex (front ++ '[' :: rest) := by
  induction front with
  | nil => exact none
  | cons c front ih =>
      rw [List.cons_append]
      refine noDottedIndex_cons.2 ⟨?_, ih fun inside => noDot (List.mem_cons_of_mem _ inside)⟩
      rintro ⟨head, digits, after, isHead, -, -, same⟩
      obtain ⟨noBracket, -⟩ := isHead.notMem
      rw [← List.cons_append] at same
      rcases List.append_eq_append_iff.1 same with ⟨more, rfl, behind⟩ | ⟨more, split, behind⟩
      · cases more with
        | nil => exact absurd (List.cons.inj behind).1 (by decide)
        | cons d more =>
            obtain ⟨rfl, -⟩ := List.cons.inj behind
            exact noBracket (by simp)
      · cases more with
        | nil => exact absurd (List.cons.inj behind).1 (by decide)
        | cons d more =>
            obtain ⟨rfl, -⟩ := List.cons.inj behind
            exact noDot (by simp [split])

/-- A head starts with a sign or a letter. -/
theorem IsHead.starts {head : List Char} (isHead : IsHead head) :
    (∃ c, head = [c] ∧ (c = ']' ∨ c = '*' ∨ c = '$')) ∨
      ∃ first more, head = first :: more ∧ Text.isNameStart first = true := by
  cases isHead with
  | sign isSign => exact .inl ⟨_, rfl, isSign⟩
  | name isName =>
      obtain ⟨starts, -⟩ := isName
      exact .inr ⟨_, _, rfl, starts⟩

/-- A digit is neither a name nor a sign that an index can stand behind. -/
theorem noDottedIndex_digits {digits rest : List Char}
    (all : ∀ c ∈ digits, Text.isDecimalDigit c = true) (none : NoDottedIndex rest) :
    NoDottedIndex (digits ++ rest) := by
  induction digits with
  | nil => exact none
  | cons d digits ih =>
      obtain ⟨digit, all⟩ := List.forall_mem_cons.1 all
      refine noDottedIndex_cons.2 ⟨?_, ih all⟩
      rintro ⟨head, run, after, isHead, -, -, same⟩
      rcases isHead.starts with ⟨c, rfl, isSign⟩ | ⟨c, more, rfl, starts⟩
      · obtain ⟨rfl, -⟩ := List.cons.inj same
        rcases isSign with rfl | rfl | rfl <;> exact absurd digit (by decide)
      · obtain ⟨rfl, -⟩ := List.cons.inj same
        rw [Text.isNameStart_of_isDecimalDigit digit] at starts
        cases starts

/-- The only head that a closing bracket starts is the bracket itself. -/
theorem indexAt_bracket {rest : List Char} (index : IndexAt (']' :: rest)) :
    ∃ digits after, rest = '.' :: (digits ++ after) ∧ IsDigits digits ∧
      ∀ c ∈ after.head?, EndsIndex c := by
  obtain ⟨head, digits, after, isHead, isDigits, ends, same⟩ := index
  rcases isHead.starts with ⟨c, rfl, -⟩ | ⟨c, more, rfl, starts⟩
  · exact ⟨digits, after, (List.cons.inj same).2, isDigits, ends⟩
  · obtain ⟨rfl, -⟩ := List.cons.inj same
    exact absurd starts (by decide)

theorem noDottedIndex_bracketed {runs : List (List Char)} {rest : List Char}
    (all : ∀ digits ∈ runs, IsDigits digits) (stops : ¬ IndexAt (']' :: rest))
    (none : NoDottedIndex rest) : NoDottedIndex (bracketed runs ++ rest) := by
  induction runs with
  | nil => exact none
  | cons digits runs ih =>
      obtain ⟨isDigits, all⟩ := List.forall_mem_cons.1 all
      rw [bracketed_cons, List.cons_append, List.append_assoc, List.cons_append]
      refine noDottedIndex_cons.2 ⟨?_,
        noDottedIndex_digits isDigits.all (noDottedIndex_cons.2 ⟨?_, ih all⟩)⟩
      · rintro ⟨head, run, after, isHead, -, -, same⟩
        obtain ⟨first, more, rfl⟩ := List.exists_cons_of_ne_nil isHead.ne_nil
        obtain ⟨rfl, -⟩ := List.cons.inj same
        exact isHead.notMem.1 List.mem_cons_self
      · cases runs with
        | nil => exact stops
        | cons other runs =>
            intro index
            obtain ⟨run, after, same, -, -⟩ := indexAt_bracket index
            rw [bracketed_cons] at same
            exact absurd (List.cons.inj same).1 (by decide)

/-- No dotted indices are left after rewriting. -/
theorem noDottedIndex_bracketDottedIndices (s : List Char) :
    NoDottedIndex (bracketDottedIndices s) := by
  induction s using bracketDottedIndices_induction with
  | nil => exact noDottedIndex_nil
  | keep c rest free ih =>
      refine noDottedIndex_cons.2 ⟨?_, ih⟩
      -- An index behind the character would have stood there before.
      rintro ⟨head, digits, after, isHead, isDigits, ends, same⟩
      obtain ⟨first, more, rfl⟩ := List.exists_cons_of_ne_nil isHead.ne_nil
      obtain ⟨rfl, behind⟩ := List.cons.inj same
      have plain : '[' ∉ more ++ '.' :: digits := by
        have := isHead.notMem.1
        have := isDigits.notMem (c := '[') (by decide)
        simp_all
      have split : bracketDottedIndices rest = (more ++ '.' :: digits) ++ after :=
        behind.trans (by simp)
      obtain ⟨rest', rfl, ends'⟩ := exists_of_bracketDottedIndices plain split
      exact free ⟨c :: more, digits, rest', isHead, isDigits, ends' ends, by simp⟩
  | bracket head digits runs rest isHead isDigits all stops _ ih =>
      have stops' : ¬ IndexAt (']' :: bracketDottedIndices rest) := by
        intro index
        obtain ⟨run, after, split, isRun, ends⟩ := indexAt_bracket index
        have plain : '[' ∉ '.' :: run := by
          have := isRun.notMem (c := '[') (by decide)
          simp_all
        obtain ⟨rest', rfl, ends'⟩ := exists_of_bracketDottedIndices plain split
        rw [List.cons_append, takeIndex?_eq_some.2 ⟨rfl, isRun, ends' ends⟩] at stops
        cases stops
      have bracketed := noDottedIndex_bracketed (List.forall_mem_cons.2 ⟨isDigits, all⟩) stops' ih
      rw [bracketed_cons, List.cons_append] at bracketed ⊢
      exact noDottedIndex_append isHead.notMem.2 bracketed

theorem notMem_dotted {runs : List (List Char)} (all : ∀ digits ∈ runs, IsDigits digits) :
    '[' ∉ dotted runs := by
  intro inside
  obtain ⟨digits, listed, inside⟩ := List.mem_flatMap.1 inside
  rcases List.mem_cons.1 inside with same | inside
  · exact absurd same (by decide)
  · exact (all digits listed).notMem (by decide) inside

theorem noBareNames_bracketed {runs : List (List Char)} {rest : List Char}
    (all : ∀ digits ∈ runs, IsDigits digits) (none : NoBareNames rest) :
    NoBareNames (bracketed runs ++ rest) := by
  induction runs with
  | nil => exact none
  | cons digits runs ih =>
      obtain ⟨isDigits, all⟩ := List.forall_mem_cons.1 all
      have plain : '[' ∉ digits ++ [']'] := by
        have := isDigits.notMem (c := '[') (by decide)
        simp_all
      rw [bracketed_cons, List.cons_append, List.append_assoc]
      refine noBareNames_cons.2 ⟨fun _ => ?_, ?_⟩
      · obtain ⟨d, digits, rfl⟩ := List.exists_cons_of_ne_nil isDigits.some
        have digit := isDigits.all d List.mem_cons_self
        exact takeNames?_eq_none (Text.isBlank_of_isDecimalDigit digit)
          (Text.isNameStart_of_isDecimalDigit digit)
      · rw [List.cons_append, List.append_cons]
        exact (noBareNames_append plain).2 (ih all)

/-- Dotted indices are rewritten without making bare names in brackets. -/
theorem NoBareNames.bracketDottedIndices {s : List Char} (none : NoBareNames s) :
    NoBareNames (bracketDottedIndices s) := by
  induction s using bracketDottedIndices_induction with
  | nil => exact noBareNames_nil
  | keep c rest _ ih =>
      obtain ⟨free, none⟩ := noBareNames_cons.1 none
      refine noBareNames_cons.2 ⟨fun bracket => ?_, ih none⟩
      refine takeNames?_eq_none_of_shared (free bracket) fun front more plain split => ?_
      obtain ⟨rest', whole, -⟩ := exists_of_bracketDottedIndices plain split
      exact ⟨rest', whole⟩
  | bracket head digits runs rest isHead isDigits all _ _ ih =>
      have plain : '[' ∉ dotted (digits :: runs) :=
        notMem_dotted (List.forall_mem_cons.2 ⟨isDigits, all⟩)
      have behind : NoBareNames rest := by
        rwa [noBareNames_append isHead.notMem.1, noBareNames_append plain] at none
      rw [noBareNames_append isHead.notMem.1]
      exact noBareNames_bracketed (List.forall_mem_cons.2 ⟨isDigits, all⟩) (ih behind)

/-! ### Strict form -/

/-- A plain stretch without lenient forms. -/
structure Settled (s : List Char) : Prop where
  names : NoBareNames s
  indices : NoDottedIndex s

/-- The strict form of a plain stretch holds no lenient forms. -/
theorem settled_strictPlain (s : List Char) : Settled (strictPlain s) :=
  ⟨(noBareNames_quoteBareNames s).bracketDottedIndices, noDottedIndex_bracketDottedIndices _⟩

/-- Without lenient forms a plain stretch stays as it is. -/
theorem strictPlain_eq_self {s : List Char} (settled : Settled s) : strictPlain s = s := by
  rw [strictPlain, quoteBareNames_eq_self settled.names,
    bracketDottedIndices_eq_self settled.indices]

theorem settled_iff_strictPlain {s : List Char} : Settled s ↔ strictPlain s = s := by
  refine ⟨strictPlain_eq_self, fun same => ?_⟩
  rw [← same]
  exact settled_strictPlain s

theorem NoDottedIndex.of_append {front rest : List Char} (none : NoDottedIndex (front ++ rest))
    (ends : ∀ c ∈ rest.head?, EndsIndex c) : NoDottedIndex front := by
  induction front with
  | nil => exact noDottedIndex_nil
  | cons c front ih =>
      rw [List.cons_append] at none
      obtain ⟨here, later⟩ := noDottedIndex_cons.1 none
      refine noDottedIndex_cons.2 ⟨?_, ih later⟩
      rintro ⟨head, digits, after, isHead, isDigits, ends', same⟩
      refine here ⟨head, digits, after ++ rest, isHead, isDigits, ?_, ?_⟩
      · cases after with
        | nil => exact ends
        | cons d after => exact ends'
      · rw [← List.cons_append, same]
        simp

namespace Settled

variable {front rest : List Char}

/-- So does a part that a character follows which ends names and digits. -/
theorem of_append_left (settled : Settled (front ++ rest))
    (ends : ∀ c ∈ rest.head?, EndsIndex c) : Settled front :=
  ⟨settled.names.of_append.1, settled.indices.of_append ends⟩

/-- So does a part at the end. -/
theorem of_append_right (settled : Settled (front ++ rest)) : Settled rest :=
  ⟨settled.names.of_append.2, settled.indices.of_append_right⟩

end Settled

end Reshape.PathQuery
