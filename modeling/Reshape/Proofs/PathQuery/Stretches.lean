/-
Module: Reshape.Proofs.PathQuery.Stretches
Purpose: how quotes cut an expression, and that strict form does not move the cuts.
Main exports: PathQuery.Scan.after, PathQuery.scan_induction, PathQuery.scanStretches_append,
  PathQuery.rewrite, PathQuery.rewrite_eq_self, PathQuery.settled_of_rewrite
Trusted boundary: none
-/
import Reshape.Proofs.PathQuery.DottedIndices

/-!
# Stretches

The cuts between the stretches are where a scan of the expression enters and leaves quotes.
Strict form puts names in quotes and closes them again: behind a plain stretch in strict form
the scan stands outside of quotes, as it did before, and what follows is cut as before.
-/

namespace Reshape.PathQuery

/-! ### Scans -/

/-- The characters that open and close quoted text. -/
def IsQuote (c : Char) : Prop :=
  c = '\'' ∨ c = '"'

instance (c : Char) : Decidable (IsQuote c) :=
  inferInstanceAs (Decidable (c = '\'' ∨ c = '"'))

/-- A text without quotes. -/
def IsPlain (s : List Char) : Prop :=
  ∀ c ∈ s, ¬ IsQuote c

theorem IsQuote.endsIndex {c : Char} (isQuote : IsQuote c) : EndsIndex c := by
  rcases isQuote with rfl | rfl <;> exact ⟨by decide, by decide⟩

namespace Scan

/-- Where the scan stands behind one more character. -/
def step : Scan → Char → Scan
  | .outside, c => if IsQuote c then .inside c else .outside
  | .inside quote, c =>
      if c = '\\' then .escaped quote else if c = quote then .outside else .inside quote
  | .escaped quote, _ => .inside quote

/-- Where the scan stands behind a text. -/
def after (scan : Scan) (s : List Char) : Scan :=
  s.foldl step scan

@[simp] theorem after_cons (scan : Scan) (c : Char) (s : List Char) :
    scan.after (c :: s) = (scan.step c).after s := rfl

@[simp] theorem after_append (scan : Scan) (s t : List Char) :
    scan.after (s ++ t) = (scan.after s).after t :=
  List.foldl_append

@[simp] theorem after_outside {s : List Char} (isPlain : IsPlain s) :
    Scan.outside.after s = .outside := by
  induction s with
  | nil => rfl
  | cons c s ih =>
      obtain ⟨noQuote, isPlain⟩ := List.forall_mem_cons.1 isPlain
      rw [after_cons, step, if_neg noQuote, ih isPlain]

end Scan

/-! ### Cuts -/

theorem scanStretches_outside_cons (c : Char) (s : List Char) :
    scanStretches .outside (c :: s) =
      if IsQuote c then .plain [] :: consQuoted c (scanStretches (.inside c) s)
      else consPlain c (scanStretches .outside s) := by
  rw [scanStretches]
  rfl

theorem scanStretches_plain {s : List Char} (isPlain : IsPlain s) :
    scanStretches .outside s = [.plain s] := by
  induction s with
  | nil => rfl
  | cons c s ih =>
      obtain ⟨noQuote, isPlain⟩ := List.forall_mem_cons.1 isPlain
      rw [scanStretches_outside_cons, if_neg noQuote, ih isPlain, consPlain]

theorem scanStretches_quote {s rest : List Char} {quote : Char} (isPlain : IsPlain s)
    (isQuote : IsQuote quote) :
    scanStretches .outside (s ++ quote :: rest) =
      .plain s :: consQuoted quote (scanStretches (.inside quote) rest) := by
  induction s with
  | nil => rw [List.nil_append, scanStretches_outside_cons, if_pos isQuote]
  | cons c s ih =>
      obtain ⟨noQuote, isPlain⟩ := List.forall_mem_cons.1 isPlain
      rw [List.cons_append, scanStretches_outside_cons, if_neg noQuote, ih isPlain, consPlain]

/-- A text is plain, or plain up to a first quote. -/
theorem isPlain_or_quote (s : List Char) :
    IsPlain s ∨ ∃ front quote rest, s = front ++ quote :: rest ∧ IsPlain front ∧ IsQuote quote := by
  induction s with
  | nil => exact .inl nofun
  | cons c s ih =>
      by_cases isQuote : IsQuote c
      · exact .inr ⟨[], c, s, rfl, nofun, isQuote⟩
      · rcases ih with isPlain | ⟨front, quote, rest, rfl, isPlain, isQuote'⟩
        · exact .inl (List.forall_mem_cons.2 ⟨isQuote, isPlain⟩)
        · exact .inr ⟨c :: front, quote, rest, rfl, List.forall_mem_cons.2 ⟨isQuote, isPlain⟩,
            isQuote'⟩

theorem scanStretches_nil {scan : Scan} (within : scan ≠ .outside) :
    scanStretches scan [] = [.quoted []] := by
  cases scan with
  | outside => exact absurd rfl within
  | inside quote => rfl
  | escaped quote => rfl

/-- Inside quotes every character is kept, the closing quote too. -/
theorem scanStretches_cons {scan : Scan} (within : scan ≠ .outside) (c : Char) (s : List Char) :
    scanStretches scan (c :: s) = consQuoted c (scanStretches (scan.step c) s) := by
  cases scan with
  | outside => exact absurd rfl within
  | escaped quote => rfl
  | inside quote =>
      rw [scanStretches, Scan.step]
      split_ifs with backslash closes
      · rfl
      · rcases isPlain_or_quote s with isPlain | ⟨front, other, rest, rfl, isPlain, isQuote⟩
        · rw [scanStretches_plain isPlain]
          rfl
        · rw [scanStretches_quote isPlain isQuote]
          rfl
      · rfl

/-- A scan goes from one quote to the next outside of quotes, and from character to character
inside them. -/
theorem scan_induction {motive : Scan → List Char → Prop}
    (plain : ∀ s, IsPlain s → motive .outside s)
    (opens : ∀ s quote rest, IsPlain s → IsQuote quote → motive (.inside quote) rest →
      motive .outside (s ++ quote :: rest))
    (ends : ∀ scan, scan ≠ .outside → motive scan [])
    (within : ∀ scan c rest, scan ≠ .outside → motive (scan.step c) rest → motive scan (c :: rest))
    (scan : Scan) (s : List Char) : motive scan s := by
  induction size : s.length using Nat.strong_induction_on generalizing scan s with
  | h n ih =>
      subst size
      by_cases outside : scan = .outside
      · subst outside
        rcases isPlain_or_quote s with isPlain | ⟨front, quote, rest, rfl, isPlain, isQuote⟩
        · exact plain s isPlain
        · refine opens front quote rest isPlain isQuote (ih rest.length ?_ _ rest rfl)
          simp only [List.length_append, List.length_cons]
          omega
      · cases s with
        | nil => exact ends scan outside
        | cons c rest =>
            exact within scan c rest outside (ih rest.length (Nat.lt_succ_self _) _ rest rfl)

theorem scanStretches_ne_nil (scan : Scan) (s : List Char) : scanStretches scan s ≠ [] := by
  induction scan, s using scan_induction with
  | plain s isPlain => simp [scanStretches_plain isPlain]
  | opens s quote rest isPlain isQuote _ => simp [scanStretches_quote isPlain isQuote]
  | ends scan within => simp [scanStretches_nil within]
  | within scan c rest within _ =>
      rw [scanStretches_cons within]
      unfold consQuoted
      split <;> simp

theorem consQuoted_append {front : List Stretch} (some : front ≠ []) (c : Char)
    (rest : List Stretch) : consQuoted c (front ++ rest) = consQuoted c front ++ rest := by
  cases front with
  | nil => exact absurd rfl some
  | cons stretch front => cases stretch <;> rfl

@[simp] theorem plain_mem_consQuoted {s : List Char} {c : Char} {cut : List Stretch} :
    .plain s ∈ consQuoted c cut ↔ .plain s ∈ cut := by
  unfold consQuoted
  split <;> simp

/-! The plain stretches of a text, by what a scan of it finds first. -/

theorem mem_scanStretches_plain {s plain : List Char} (isPlain : IsPlain s) :
    .plain plain ∈ scanStretches .outside s ↔ plain = s := by
  rw [scanStretches_plain isPlain, List.mem_singleton, Stretch.plain.injEq]

theorem mem_scanStretches_quote {s rest plain : List Char} {quote : Char} (isPlain : IsPlain s)
    (isQuote : IsQuote quote) : .plain plain ∈ scanStretches .outside (s ++ quote :: rest) ↔
      plain = s ∨ .plain plain ∈ scanStretches (.inside quote) rest := by
  rw [scanStretches_quote isPlain isQuote, List.mem_cons, plain_mem_consQuoted, Stretch.plain.injEq]

theorem notMem_scanStretches_nil {scan : Scan} (within : scan ≠ .outside) (plain : List Char) :
    .plain plain ∉ scanStretches scan [] := by
  simp [scanStretches_nil within]

theorem mem_scanStretches_cons {scan : Scan} (within : scan ≠ .outside) {c : Char}
    {s plain : List Char} : .plain plain ∈ scanStretches scan (c :: s) ↔
      .plain plain ∈ scanStretches (scan.step c) s := by
  rw [scanStretches_cons within, plain_mem_consQuoted]

/-- A quote outside of quotes starts a new cut. -/
theorem scanStretches_append {scan : Scan} {s rest : List Char} {quote : Char}
    (isQuote : IsQuote quote) (outside : scan.after s = .outside) :
    scanStretches scan (s ++ quote :: rest) =
      scanStretches scan s ++ consQuoted quote (scanStretches (.inside quote) rest) := by
  induction scan, s using scan_induction with
  | plain s isPlain =>
      rw [scanStretches_quote isPlain isQuote, scanStretches_plain isPlain, List.singleton_append]
  | opens s other more isPlain isOther ih =>
      rw [Scan.after_append, Scan.after_outside isPlain, Scan.after_cons, Scan.step,
        if_pos isOther] at outside
      rw [List.append_assoc, List.cons_append, scanStretches_quote isPlain isOther, ih outside,
        consQuoted_append (scanStretches_ne_nil _ _), scanStretches_quote isPlain isOther,
        List.cons_append]
  | ends scan within => exact absurd outside within
  | within scan c more within ih =>
      rw [List.cons_append, scanStretches_cons within, ih outside,
        consQuoted_append (scanStretches_ne_nil _ _), scanStretches_cons within]

/-! ### Strict form -/

/-- The text from where a scan stands on, with its plain stretches in strict form. -/
def rewrite (scan : Scan) (s : List Char) : List Char :=
  (scanStretches scan s).flatMap Stretch.strict

@[simp] theorem flatMap_consQuoted (c : Char) (cut : List Stretch) :
    (consQuoted c cut).flatMap Stretch.strict = c :: cut.flatMap Stretch.strict := by
  unfold consQuoted
  split <;> simp [Stretch.strict]

theorem rewrite_plain {s : List Char} (isPlain : IsPlain s) :
    rewrite .outside s = strictPlain s := by
  simp [rewrite, scanStretches_plain isPlain, Stretch.strict]

theorem rewrite_quote {s rest : List Char} {quote : Char} (isPlain : IsPlain s)
    (isQuote : IsQuote quote) :
    rewrite .outside (s ++ quote :: rest) =
      strictPlain s ++ quote :: rewrite (.inside quote) rest := by
  simp [rewrite, scanStretches_quote isPlain isQuote, Stretch.strict]

theorem rewrite_nil {scan : Scan} (within : scan ≠ .outside) : rewrite scan [] = [] := by
  simp [rewrite, scanStretches_nil within, Stretch.strict]

theorem rewrite_cons {scan : Scan} (within : scan ≠ .outside) (c : Char) (s : List Char) :
    rewrite scan (c :: s) = c :: rewrite (scan.step c) s := by
  simp [rewrite, scanStretches_cons within]

/-- Without lenient forms an expression stays as it is. -/
theorem rewrite_eq_self {scan : Scan} {s : List Char}
    (settled : ∀ plain, .plain plain ∈ scanStretches scan s → Settled plain) :
    rewrite scan s = s := by
  induction scan, s using scan_induction with
  | plain s isPlain =>
      rw [rewrite_plain isPlain,
        strictPlain_eq_self (settled s ((mem_scanStretches_plain isPlain).2 rfl))]
  | opens s quote rest isPlain isQuote ih =>
      simp only [mem_scanStretches_quote isPlain isQuote] at settled
      rw [rewrite_quote isPlain isQuote, ih fun plain listed => settled plain (.inr listed),
        strictPlain_eq_self (settled s (.inl rfl))]
  | ends scan within => exact rewrite_nil within
  | within scan c rest within ih =>
      rw [rewrite_cons within,
        ih fun plain listed => settled plain ((mem_scanStretches_cons within).2 listed)]

/-- The plain stretches of a text without lenient forms hold none either. -/
theorem Settled.of_mem {scan : Scan} {s plain : List Char} (settled : Settled s)
    (listed : .plain plain ∈ scanStretches scan s) : Settled plain := by
  induction scan, s using scan_induction with
  | plain s isPlain =>
      rwa [(mem_scanStretches_plain isPlain).1 listed]
  | opens s quote rest isPlain isQuote ih =>
      rcases (mem_scanStretches_quote isPlain isQuote).1 listed with rfl | listed
      · exact settled.of_append_left (by rintro c ⟨⟩; exact isQuote.endsIndex)
      · rw [List.append_cons] at settled
        exact ih settled.of_append_right listed
  | ends scan within => exact absurd listed (notMem_scanStretches_nil within plain)
  | within scan c rest within ih =>
      rw [← List.singleton_append] at settled
      exact ih settled.of_append_right ((mem_scanStretches_cons within).1 listed)

/-! ### Behind a plain stretch -/

/-- A character with no meaning for the scan. -/
def IsNeutral (c : Char) : Prop :=
  ¬ IsQuote c ∧ c ≠ '\\'

theorem isNeutral_of_isMark {c : Char} (noMark : isMark c = false) : IsNeutral c := by
  refine ⟨?_, ?_⟩
  · rintro (rfl | rfl) <;> exact absurd noMark (by decide)
  · rintro rfl
    exact absurd noMark (by decide)

namespace Scan

/-- Only quotes close what they have opened. -/
def OfQuotes : Scan → Prop
  | .outside => True
  | .inside quote => IsQuote quote
  | .escaped quote => IsQuote quote

/-- Without the backslash that the scan stands behind. -/
def unescaped : Scan → Scan
  | .escaped quote => .inside quote
  | scan => scan

theorem OfQuotes.step {scan : Scan} (ofQuotes : scan.OfQuotes) (c : Char) :
    (scan.step c).OfQuotes := by
  cases scan with
  | outside =>
      rw [Scan.step]
      split_ifs with isQuote
      · exact isQuote
      · trivial
  | inside quote =>
      rw [Scan.step]
      split_ifs
      · exact ofQuotes
      · trivial
      · exact ofQuotes
  | escaped quote => exact ofQuotes

theorem OfQuotes.unescaped {scan : Scan} (ofQuotes : scan.OfQuotes) : scan.unescaped.OfQuotes := by
  cases scan <;> exact ofQuotes

theorem OfQuotes.step_neutral {scan : Scan} (ofQuotes : scan.OfQuotes) {c : Char}
    (isNeutral : IsNeutral c) : scan.step c = scan.unescaped := by
  obtain ⟨noQuote, noBackslash⟩ := isNeutral
  cases scan with
  | outside => exact if_neg noQuote
  | inside quote =>
      have other : c ≠ quote := fun same => noQuote (same ▸ ofQuotes)
      rw [Scan.step, if_neg noBackslash, if_neg other, Scan.unescaped]
      exact nofun
  | escaped quote => rfl

theorem OfQuotes.after_neutral {scan : Scan} (ofQuotes : scan.OfQuotes) {s : List Char}
    (some : s ≠ []) (all : ∀ c ∈ s, IsNeutral c) : scan.after s = scan.unescaped := by
  induction s generalizing scan with
  | nil => exact absurd rfl some
  | cons c s ih =>
      obtain ⟨isNeutral, all⟩ := List.forall_mem_cons.1 all
      rw [after_cons, ofQuotes.step_neutral isNeutral]
      cases s with
      | nil => rfl
      | cons d s =>
          rw [ih ofQuotes.unescaped (List.cons_ne_nil _ _) all]
          cases scan <;> rfl

end Scan

theorem IsBareName.isNeutral {name : List Char} (isName : IsBareName name) :
    ∀ c ∈ name, IsNeutral c :=
  fun _ inside => isNeutral_of_isMark (isMark_of_isWordChar (isName.isWordChar inside))

theorem IsHead.isNeutral {head : List Char} (isHead : IsHead head) : ∀ c ∈ head, IsNeutral c := by
  cases isHead with
  | sign isSign =>
      rintro c inside
      obtain rfl := List.mem_singleton.1 inside
      rcases isSign with rfl | rfl | rfl <;> exact ⟨by decide, by decide⟩
  | name isName => exact isName.isNeutral

theorem IsDigits.isNeutral {digits : List Char} (isDigits : IsDigits digits) :
    ∀ c ∈ digits, IsNeutral c := by
  intro c inside
  refine ⟨?_, ?_⟩
  · rintro (rfl | rfl) <;> exact isDigits.notMem (by decide) inside
  · rintro rfl
    exact isDigits.notMem (by decide) inside

theorem isNeutral_dotted {runs : List (List Char)} (all : ∀ digits ∈ runs, IsDigits digits) :
    ∀ c ∈ dotted runs, IsNeutral c := by
  intro c inside
  obtain ⟨digits, listed, inside⟩ := List.mem_flatMap.1 inside
  rcases List.mem_cons.1 inside with rfl | inside
  · exact ⟨by decide, by decide⟩
  · exact (all digits listed).isNeutral c inside

theorem isNeutral_bracketed {runs : List (List Char)} (all : ∀ digits ∈ runs, IsDigits digits) :
    ∀ c ∈ bracketed runs, IsNeutral c := by
  intro c inside
  obtain ⟨digits, listed, inside⟩ := List.mem_flatMap.1 inside
  simp only [List.mem_cons, List.mem_append, List.not_mem_nil, or_false] at inside
  rcases inside with rfl | inside | rfl
  · exact ⟨by decide, by decide⟩
  · exact (all digits listed).isNeutral c inside
  · exact ⟨by decide, by decide⟩

/-- Indices in brackets leave a scan where the dotted ones left it. -/
theorem after_bracketDottedIndices (s : List Char) {scan : Scan} (ofQuotes : scan.OfQuotes) :
    scan.after (bracketDottedIndices s) = scan.after s := by
  induction s using bracketDottedIndices_induction generalizing scan with
  | nil => rfl
  | keep c rest _ ih => exact ih (ofQuotes.step c)
  | bracket head digits runs rest isHead isDigits all _ _ ih =>
      have all' := List.forall_mem_cons.2 ⟨isDigits, all⟩
      have plain := ofQuotes.unescaped
      simp only [Scan.after_append]
      rw [ofQuotes.after_neutral isHead.ne_nil isHead.isNeutral,
        plain.after_neutral (by simp) (isNeutral_dotted all'),
        plain.after_neutral (by simp) (isNeutral_bracketed all'), ih plain.unescaped]

/-- Behind a name in quotes the quotes are closed. -/
theorem after_quotedNames {names : List (List Char)}
    (areNames : ∀ name ∈ names, IsBareName name) :
    Scan.outside.after (quotedNames names) = .outside := by
  have quoted {name : List Char} (isName : IsBareName name) :
      Scan.outside.after ('\'' :: (name ++ ['\''])) = .outside := by
    obtain @⟨first, more, starts, all⟩ := isName
    have inside : Scan.OfQuotes (.inside '\'') := .inl rfl
    rw [Scan.after_cons, Scan.step, if_pos (.inl rfl), Scan.after_append,
      inside.after_neutral (List.cons_ne_nil _ _) (IsBareName.intro starts all).isNeutral]
    rfl
  induction names with
  | nil => rfl
  | cons name names ih =>
      obtain ⟨isName, areNames⟩ := List.forall_mem_cons.1 areNames
      cases names with
      | nil => simpa [quotedNames, quoteName] using quoted isName
      | cons other names =>
          rw [quotedNames_cons_cons, List.append_cons, ← List.cons_append, Scan.after_append,
            quoted isName, Scan.after_cons]
          exact ih areNames

/-- The quotes around names are closed, and names that are left in place open none. -/
theorem after_quoteBareNames {s : List Char} (isPlain : IsPlain s) :
    Scan.outside.after (quoteBareNames s) = .outside := by
  induction s using quoteBareNames_induction with
  | nil => rfl
  | keep c rest _ ih =>
      obtain ⟨noQuote, isPlain⟩ := List.forall_mem_cons.1 isPlain
      rw [Scan.after_cons, Scan.step, if_neg noQuote, ih isPlain]
  | quote names written rest _ areNames ih =>
      have behind : IsPlain rest := fun c inside => isPlain c (by simp [inside])
      rw [Scan.after_cons, Scan.after_append, Scan.step, if_neg (by decide),
        after_quotedNames areNames, Scan.after_cons, Scan.step, if_neg (by decide), ih behind]

/-- Behind a plain stretch in strict form a scan stands outside of quotes. -/
theorem after_strictPlain {s : List Char} (isPlain : IsPlain s) :
    Scan.outside.after (strictPlain s) = .outside := by
  have ofQuotes : Scan.OfQuotes .outside := trivial
  rw [strictPlain, after_bracketDottedIndices _ ofQuotes, after_quoteBareNames isPlain]

/-- The plain stretches of an expression in strict form hold no lenient forms. -/
theorem settled_of_rewrite {scan : Scan} {s plain : List Char}
    (listed : .plain plain ∈ scanStretches scan (rewrite scan s)) : Settled plain := by
  induction scan, s using scan_induction with
  | plain s isPlain =>
      rw [rewrite_plain isPlain] at listed
      exact (settled_strictPlain s).of_mem listed
  | opens s quote rest isPlain isQuote ih =>
      rw [rewrite_quote isPlain isQuote, scanStretches_append isQuote (after_strictPlain isPlain),
        List.mem_append, plain_mem_consQuoted] at listed
      rcases listed with listed | listed
      · exact (settled_strictPlain s).of_mem listed
      · exact ih listed
  | ends scan within =>
      rw [rewrite_nil within] at listed
      exact absurd listed (notMem_scanStretches_nil within plain)
  | within scan c rest within ih =>
      rw [rewrite_cons within, mem_scanStretches_cons within] at listed
      exact ih listed

end Reshape.PathQuery
