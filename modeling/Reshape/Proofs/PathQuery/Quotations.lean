/-
Module: Reshape.Proofs.PathQuery.Quotations
Purpose: which parts of an expression stand in quotes, and that strict form leaves them as
  they are.
Main exports: PathQuery.Quotation, PathQuery.Splits, PathQuery.splits_iff,
  PathQuery.normalize_opaque
Trusted boundary: none
-/
import Mathlib.Algebra.Ring.Parity
import Mathlib.Data.List.Induction
import Reshape.Proofs.PathQuery.Stretches

/-!
# Quotations

A quotation opens at a quote and closes at the next same quote that is not escaped, where a
quote is escaped by an odd number of backslashes in front of it. One that never closes runs to
the end. An expression is split into plain stretches and quotations in exactly one way, and
this is how the scan cuts it. Only the plain stretches are rewritten, each on its own, so what
is put into a quotation is seen nowhere else.
-/

namespace Reshape.PathQuery

/-! ### Escapes -/

/-- How many backslashes stand at the end of a text. -/
def escapes (s : List Char) : Nat :=
  (s.reverse.takeWhile (· = '\\')).length

theorem escapes_concat (s : List Char) (c : Char) :
    escapes (s ++ [c]) = if c = '\\' then escapes s + 1 else 0 := by
  by_cases backslash : c = '\\' <;> simp [escapes, backslash]

/-- Every same quote in the text is escaped, so a quotation that `quote` opens in front of it
goes on behind it. -/
def StaysOpen (quote : Char) (content : List Char) : Prop :=
  ∀ front back, content = front ++ quote :: back → Odd (escapes front)

/-- A same quote behind the text is the first one that is not escaped. -/
structure Closes (quote : Char) (content : List Char) : Prop where
  staysOpen : StaysOpen quote content
  even : Even (escapes content)

variable {quote : Char} {content : List Char}

theorem staysOpen_nil (quote : Char) : StaysOpen quote [] := by
  intro front back same
  simp at same

theorem staysOpen_concat {c : Char} :
    StaysOpen quote (content ++ [c]) ↔
      StaysOpen quote content ∧ (c = quote → Odd (escapes content)) := by
  constructor
  · intro opened
    refine ⟨fun front back same => opened front (back ++ [c]) (by simp [same]), ?_⟩
    rintro rfl
    exact opened content [] rfl
  · rintro ⟨opened, last⟩ front back same
    rcases back.eq_nil_or_concat' with rfl | ⟨back, d, rfl⟩
    · obtain ⟨rfl, rfl⟩ := List.append_singleton_inj.1 same
      exact last rfl
    · rw [← List.cons_append, ← List.append_assoc] at same
      exact opened front back (List.append_singleton_inj.1 same).1

/-- Behind an opening quote a text stays open, or a first quote in it closes. -/
theorem staysOpen_or_closes (quote : Char) (s : List Char) :
    StaysOpen quote s ∨ ∃ content rest, s = content ++ quote :: rest ∧ Closes quote content := by
  induction s using List.reverseRecOn with
  | nil => exact .inl (staysOpen_nil quote)
  | append_singleton s c ih =>
      rcases ih with opened | ⟨content, rest, rfl, closes⟩
      · by_cases last : c = quote ∧ Even (escapes s)
        · obtain ⟨rfl, even⟩ := last
          exact .inr ⟨s, [], rfl, opened, even⟩
        · refine .inl (staysOpen_concat.2 ⟨opened, fun same => ?_⟩)
          exact Nat.not_even_iff_odd.1 fun even => last ⟨same, even⟩
      · exact .inr ⟨content, rest ++ [c], by simp, closes⟩

/-- Whether a text stays open can be read off its same quotes. -/
theorem staysOpen_iff : StaysOpen quote content ↔
    ∀ position : Fin content.length, content[position] = quote →
      Odd (escapes (content.take position)) := by
  constructor
  · intro opened position same
    refine opened _ (content.drop (position + 1)) ?_
    rw [← same, Fin.getElem_fin, List.getElem_cons_drop, List.take_append_drop]
  · rintro each front back rfl
    simpa using each ⟨front.length, by simp⟩ (by simp)

instance (quote : Char) (content : List Char) : Decidable (StaysOpen quote content) :=
  decidable_of_iff _ staysOpen_iff.symm

instance (quote : Char) (content : List Char) : Decidable (Closes quote content) :=
  decidable_of_iff (StaysOpen quote content ∧ Even (escapes content))
    ⟨fun closes => ⟨closes.1, closes.2⟩, fun closes => ⟨closes.1, closes.2⟩⟩

/-! ### Quotations -/

/-- A text from a quote that opens to the same quote that closes, or up to the end of the
expression when nothing closes. -/
inductive Quotation (quote : Char) : (closed : Bool) → List Char → Prop
  | closed {content : List Char} (closes : Closes quote content) :
      Quotation quote true (quote :: (content ++ [quote]))
  | unclosed {content : List Char} (opened : StaysOpen quote content) :
      Quotation quote false (quote :: content)

/-- An expression consists of plain stretches and quotations in turn, from left to right. Plain
stretches may be empty, and only the last quotation can be unclosed. -/
inductive Splits : List Char → List Stretch → Prop
  | plain {s : List Char} (isPlain : IsPlain s) : Splits s [.plain s]
  | unclosed {s text : List Char} {quote : Char} (isPlain : IsPlain s) (isQuote : IsQuote quote)
      (quotation : Quotation quote false text) : Splits (s ++ text) [.plain s, .quoted text]
  | closed {s text rest : List Char} {quote : Char} {cut : List Stretch} (isPlain : IsPlain s)
      (isQuote : IsQuote quote) (quotation : Quotation quote true text)
      (behind : Splits rest cut) : Splits (s ++ (text ++ rest)) (.plain s :: .quoted text :: cut)

/-- A quotation is closed or not. -/
theorem Quotation.eq_of_same {other : Char} {closed closed' : Bool} {text : List Char}
    (quotation : Quotation quote closed text) (quotation' : Quotation other closed' text) :
    quote = other ∧ closed = closed' := by
  have apart {c c' : Char} {content content' : List Char} (closes : Closes c content)
      (opened : StaysOpen c' content') (same : c :: (content ++ [c]) = c' :: content') : False := by
    obtain ⟨rfl, rfl⟩ := List.cons.inj same
    exact Nat.not_even_iff_odd.2 ((staysOpen_concat.1 opened).2 rfl) closes.even
  cases quotation with
  | closed closes =>
      generalize written : quote :: (_ ++ [quote]) = text at quotation'
      cases quotation' with
      | closed _ => exact ⟨(List.cons.inj written).1, rfl⟩
      | unclosed opened => exact (apart closes opened written).elim
  | unclosed opened =>
      generalize written : quote :: _ = text at quotation'
      cases quotation' with
      | closed closes => exact (apart closes opened written.symm).elim
      | unclosed _ => exact ⟨(List.cons.inj written).1, rfl⟩

/-! ### The cuts of the scan -/

theorem IsQuote.ne_backslash (isQuote : IsQuote quote) : quote ≠ '\\' := by
  rcases isQuote with rfl | rfl <;> decide

/-- The scan stands behind a backslash that escapes when their number is odd. -/
theorem after_staysOpen (opened : StaysOpen quote content) :
    (Scan.inside quote).after content =
      if Even (escapes content) then .inside quote else .escaped quote := by
  induction content using List.reverseRecOn with
  | nil => rfl
  | append_singleton content c ih =>
      obtain ⟨opened, last⟩ := staysOpen_concat.1 opened
      rw [Scan.after_append, ih opened, escapes_concat]
      by_cases even : Even (escapes content)
      · have other : c ≠ quote := fun same => Nat.not_even_iff_odd.2 (last same) even
        by_cases backslash : c = '\\' <;>
          simp [Scan.after, Scan.step, even, other, backslash, Nat.even_add_one]
      · by_cases backslash : c = '\\' <;>
          simp [Scan.after, Scan.step, even, backslash, Nat.even_add_one]

/-- Text in quotes is kept, up to the place where the quotes close. -/
theorem scanStretches_staysOpen (opened : StaysOpen quote content) (rest : List Char) :
    scanStretches (.inside quote) (content ++ rest) =
      content.foldr consQuoted (scanStretches ((Scan.inside quote).after content) rest) := by
  induction content using List.reverseRecOn generalizing rest with
  | nil => rfl
  | append_singleton content c ih =>
      have before := (staysOpen_concat.1 opened).1
      have within : (Scan.inside quote).after content ≠ .outside := by
        rw [after_staysOpen before]
        split <;> simp
      rw [List.append_assoc, List.singleton_append, ih before, scanStretches_cons within,
        Scan.after_append, List.foldr_append]
      rfl

theorem foldr_consQuoted (content text : List Char) (cut : List Stretch) :
    content.foldr consQuoted (.quoted text :: cut) = .quoted (content ++ text) :: cut := by
  induction content with
  | nil => rfl
  | cons c content ih => rw [List.foldr_cons, ih, consQuoted, List.cons_append]

theorem scanStretches_unclosed (opened : StaysOpen quote content) :
    scanStretches (.inside quote) content = [.quoted content] := by
  have within : (Scan.inside quote).after content ≠ .outside := by
    rw [after_staysOpen opened]
    split <;> simp
  have cut := scanStretches_staysOpen opened []
  rwa [scanStretches_nil within, foldr_consQuoted, List.append_nil] at cut

theorem scanStretches_closed (isQuote : IsQuote quote) (closes : Closes quote content)
    (rest : List Char) : scanStretches (.inside quote) (content ++ quote :: rest) =
      .quoted (content ++ [quote]) :: scanStretches .outside rest := by
  rw [scanStretches_staysOpen closes.staysOpen, after_staysOpen closes.staysOpen,
    if_pos closes.even, scanStretches, if_neg isQuote.ne_backslash, if_pos rfl, foldr_consQuoted]

theorem Splits.eq_stretches {s : List Char} {cut : List Stretch} (splits : Splits s cut) :
    cut = stretches s := by
  rw [stretches]
  induction splits with
  | plain isPlain => rw [scanStretches_plain isPlain]
  | unclosed isPlain isQuote quotation =>
      cases quotation with
      | unclosed opened =>
          rw [scanStretches_quote isPlain isQuote, scanStretches_unclosed opened,
            consQuoted]
  | @closed s text rest quote cut isPlain isQuote quotation behind ih =>
      cases quotation with
      | closed closes =>
          rw [List.cons_append, List.append_assoc, List.singleton_append,
            scanStretches_quote isPlain isQuote, scanStretches_closed isQuote closes, consQuoted,
            ← ih]

theorem splits_stretches (s : List Char) : Splits s (stretches s) := by
  induction size : s.length using Nat.strong_induction_on generalizing s with
  | h n ih =>
      subst size
      rcases isPlain_or_quote s with isPlain | ⟨front, quote, behind, rfl, isPlain, isQuote⟩
      · have splits := Splits.plain isPlain
        rwa [splits.eq_stretches] at splits
      · rcases staysOpen_or_closes quote behind with opened | ⟨content, rest, rfl, closes⟩
        · have splits := Splits.unclosed isPlain isQuote (.unclosed opened)
          rwa [splits.eq_stretches] at splits
        · have shorter : rest.length < (front ++ quote :: (content ++ quote :: rest)).length := by
            simp only [List.length_append, List.length_cons]
            omega
          have splits := Splits.closed isPlain isQuote (.closed closes) (ih _ shorter rest rfl)
          have same : front ++ (quote :: (content ++ [quote]) ++ rest) =
              front ++ quote :: (content ++ quote :: rest) := by simp
          rwa [splits.eq_stretches, same] at splits

/-- There is exactly one way to split an expression, and the scan finds it. -/
theorem splits_iff {s : List Char} {cut : List Stretch} : Splits s cut ↔ cut = stretches s :=
  ⟨Splits.eq_stretches, fun same => same ▸ splits_stretches s⟩

/-! ### Other text in quotes -/

/-- The text of a stretch. -/
def Stretch.text : Stretch → List Char
  | .plain text => text
  | .quoted text => text

theorem Splits.text_eq {s : List Char} {cut : List Stretch} (splits : Splits s cut) :
    cut.flatMap Stretch.text = s := by
  induction splits with
  | plain isPlain => simp [Stretch.text]
  | unclosed isPlain isQuote quotation => simp [Stretch.text]
  | closed isPlain isQuote quotation behind ih => simp [Stretch.text, ih]

/-- A quotation with other content: both open at the same quote, and both close, or neither. -/
def Replaces (old new : List Char) : Prop :=
  ∃ quote closed, IsQuote quote ∧ Quotation quote closed old ∧ Quotation quote closed new

/-- With other content in one quotation the expression is split at the same places. -/
theorem Splits.replace {s old new : List Char} {front back : List Stretch}
    (splits : Splits s (front ++ .quoted old :: back)) (replaces : Replaces old new) :
    Splits (front.flatMap Stretch.text ++ (new ++ back.flatMap Stretch.text))
      (front ++ .quoted new :: back) := by
  obtain ⟨quote, closed, isQuote, before, after⟩ := replaces
  generalize whole : front ++ .quoted old :: back = cut at splits
  induction splits generalizing front with
  | plain isPlain =>
      rcases List.append_eq_singleton_iff.1 whole with ⟨-, same⟩ | ⟨-, same⟩ <;> simp at same
  | unclosed isPlain isQuote' quotation =>
      cases front with
      | nil => simp at whole
      | cons first front =>
          rw [List.cons_append] at whole
          obtain ⟨rfl, later⟩ := List.cons.inj whole
          rcases List.append_eq_singleton_iff.1 later with ⟨rfl, same⟩ | ⟨-, same⟩
          · cases same
            obtain ⟨rfl, rfl⟩ := before.eq_of_same quotation
            simpa [Stretch.text] using Splits.unclosed isPlain isQuote after
          · simp at same
  | closed isPlain isQuote' quotation behind ih =>
      rcases front with _ | ⟨first, _ | ⟨second, front⟩⟩
      · simp at whole
      · rw [List.singleton_append] at whole
        obtain ⟨rfl, later⟩ := List.cons.inj whole
        obtain ⟨same, rfl⟩ := List.cons.inj later
        cases same
        obtain ⟨rfl, rfl⟩ := before.eq_of_same quotation
        rw [behind.text_eq]
        simpa [Stretch.text] using Splits.closed isPlain isQuote after behind
      · rw [List.cons_append, List.cons_append] at whole
        obtain ⟨rfl, later⟩ := List.cons.inj whole
        obtain ⟨rfl, inner⟩ := List.cons.inj later
        simpa [Stretch.text] using Splits.closed isPlain isQuote' quotation (ih inner)

/-! ### Opacity -/

/-- An expression without blanks around it and with its root, as it is before it is rewritten. -/
def rooted (expression : String) : List Char :=
  withRoot (Text.trim expression.toList)

theorem normalize_eq_some {expression strict : String}
    (normalized : normalize expression = some strict) :
    strict.toList = (stretches (rooted expression)).flatMap Stretch.strict := by
  rw [normalize] at normalized
  split at normalized
  · cases normalized
  · cases normalized
    rw [String.toList_ofList, rooted]

/-- An expression with a quote in it has a strict form. -/
theorem normalize_of_quote {expression : String} {c : Char} (isQuote : IsQuote c)
    (inside : c ∈ rooted expression) : normalize expression =
      some (String.ofList ((stretches (rooted expression)).flatMap Stretch.strict)) := by
  rw [normalize, if_neg, rooted]
  rintro (none | root)
  · rw [rooted, none] at inside
    rcases isQuote with rfl | rfl <;> exact absurd inside (by decide)
  · rw [rooted, root] at inside
    rcases isQuote with rfl | rfl <;> exact absurd inside (by decide)

/-- Quotations are opaque. There is one way to split an expression, its plain stretches are
rewritten each on its own, and its quotations are kept character by character. With other
content in one quotation the strict form changes in that quotation and nowhere else. -/
theorem normalize_opaque {expression strict : String}
    (normalized : normalize expression = some strict) :
    ∃ cut, (∀ other, Splits (rooted expression) other ↔ other = cut) ∧
      strict.toList = cut.flatMap Stretch.strict ∧
      ∀ front old back, cut = front ++ .quoted old :: back → ∀ new, Replaces old new →
        ∀ changed, rooted changed =
            front.flatMap Stretch.text ++ (new ++ back.flatMap Stretch.text) →
          normalize changed = some (String.ofList
            (front.flatMap Stretch.strict ++ (new ++ back.flatMap Stretch.strict))) := by
  refine ⟨_, fun other => splits_iff, normalize_eq_some normalized, ?_⟩
  intro front old back same new replaces changed written
  have splits : Splits (rooted changed) (front ++ .quoted new :: back) :=
    written ▸ (splits_iff.2 same.symm).replace replaces
  obtain ⟨quote, closed, isQuote, -, quotation⟩ := replaces
  have inside : quote ∈ rooted changed := by
    rw [written]
    cases quotation <;> simp
  rw [normalize_of_quote isQuote inside, ← splits.eq_stretches, List.flatMap_append]
  rfl

/-- The quotation holds lenient forms and an escaped quote, and is replaced by one with another
kind of quote and an even number of backslashes at its end. -/
theorem normalize_opaque_escaped :
    normalize "x[a, b].1[?@.t == '[c, d].2\\''][\"[e].3" =
        some "$.x['a','b'][1][?@.t == '[c, d].2\\''][\"[e].3" ∧
      normalize "x[a, b].1[?@.t == '[f].4\"\\\\'][\"[e].3" =
        some "$.x['a','b'][1][?@.t == '[f].4\"\\\\'][\"[e].3" := by
  have normalized : normalize "x[a, b].1[?@.t == '[c, d].2\\''][\"[e].3" =
      some "$.x['a','b'][1][?@.t == '[c, d].2\\''][\"[e].3" := by decide +kernel
  obtain ⟨cut, unique, -, replace⟩ := normalize_opaque normalized
  have same := ((unique _).1 (splits_stretches _)).symm
  have old : Closes '\'' "[c, d].2\\'".toList := by decide +kernel
  have new : Closes '\'' "[f].4\"\\\\".toList := by decide +kernel
  have replaces : Replaces "'[c, d].2\\''".toList "'[f].4\"\\\\'".toList :=
    ⟨'\'', true, .inl rfl, .closed old, .closed new⟩
  have changed := replace [.plain "$.x[a, b].1[?@.t == ".toList] _
    [.plain "][".toList, .quoted "\"[e].3".toList] (same.trans (by decide +kernel)) _ replaces
    "x[a, b].1[?@.t == '[f].4\"\\\\'][\"[e].3" (by decide +kernel)
  refine ⟨normalized, changed.trans ?_⟩
  decide +kernel

end Reshape.PathQuery
