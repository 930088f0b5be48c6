/-
Module: Reshape.Proofs.PathQuery.Idempotence
Purpose: an expression in strict form stays as it is.
Main exports: PathQuery.exists_of_normalize, PathQuery.normalize_eq_self,
  PathQuery.normalize_idempotent
Trusted boundary: none
-/
import Reshape.Proofs.PathQuery.Stretches

/-!
# Strict form is reached in one step

The strict form of an expression starts with the root, has no blank at its end and holds no
lenient form outside of quotes. So bringing it into strict form again changes nothing.
-/

namespace Reshape.PathQuery

/-! ### The ends of a strict form -/

/-- The last character is kept, or a bracket closes there. -/
def KeepsEnd (s s' : List Char) : Prop :=
  s'.getLast? = s.getLast? ∨ s'.getLast? = some ']'

namespace KeepsEnd

variable {s s' : List Char}

theorem cons (keeps : KeepsEnd s s') (c : Char) : KeepsEnd (c :: s) (c :: s') := by
  rcases keeps with same | closed
  · exact .inl (by rw [List.getLast?_cons, List.getLast?_cons, same])
  · exact .inr (by rw [List.getLast?_cons, closed]; rfl)

/-- What stands in front of a last part makes no difference. -/
theorem replace {c : Char} (keeps : KeepsEnd (c :: s) (c :: s')) (front front' : List Char) :
    KeepsEnd (front ++ c :: s) (front' ++ c :: s') := by
  unfold KeepsEnd at keeps ⊢
  rwa [List.getLast?_append_of_ne_nil _ (List.cons_ne_nil _ _),
    List.getLast?_append_of_ne_nil _ (List.cons_ne_nil _ _)]

end KeepsEnd

theorem keepsEnd_quoteBareNames (s : List Char) : KeepsEnd s (quoteBareNames s) := by
  induction s using quoteBareNames_induction with
  | nil => exact .inl rfl
  | keep c rest _ ih => exact ih.cons c
  | quote names written rest _ _ ih =>
      rw [← List.cons_append, ← List.cons_append]
      exact (ih.cons ']').replace _ _

theorem getLast?_bracketed (digits : List Char) (runs : List (List Char)) :
    (bracketed (digits :: runs)).getLast? = some ']' := by
  induction runs generalizing digits with
  | nil => simp [bracketed, List.getLast?_cons]
  | cons other runs ih =>
      rw [bracketed_cons, List.getLast?_cons, List.getLast?_append, List.getLast?_cons, ih]
      rfl

theorem keepsEnd_bracketDottedIndices (s : List Char) : KeepsEnd s (bracketDottedIndices s) := by
  induction s using bracketDottedIndices_induction with
  | nil => exact .inl rfl
  | keep c rest _ ih => exact ih.cons c
  | bracket head digits runs rest _ _ _ _ _ ih =>
      unfold KeepsEnd at ih ⊢
      simp only [List.getLast?_append, getLast?_bracketed]
      rcases ih with same | closed
      · rw [same]
        -- The brackets are the end when nothing follows them.
        cases rest.getLast? with
        | none => exact .inr rfl
        | some c => exact .inl rfl
      · exact .inr (by rw [closed]; rfl)

theorem keepsEnd_strictPlain (s : List Char) : KeepsEnd s (strictPlain s) := by
  rcases keepsEnd_bracketDottedIndices (quoteBareNames s) with same | closed
  · rcases keepsEnd_quoteBareNames s with same' | closed
    · exact .inl (same.trans same')
    · exact .inr (same.trans closed)
  · exact .inr closed

theorem keepsEnd_rewrite (scan : Scan) (s : List Char) : KeepsEnd s (rewrite scan s) := by
  induction scan, s using scan_induction with
  | plain s isPlain =>
      rw [rewrite_plain isPlain]
      exact keepsEnd_strictPlain s
  | opens s quote rest isPlain isQuote ih =>
      rw [rewrite_quote isPlain isQuote]
      exact (ih.cons quote).replace _ _
  | ends scan within =>
      rw [rewrite_nil within]
      exact .inl rfl
  | within scan c rest within ih =>
      rw [rewrite_cons within]
      exact ih.cons c

/-! ### The root -/

theorem quoteBareNames_root (s : List Char) : quoteBareNames ('$' :: s) = '$' :: quoteBareNames s := by
  rw [quoteBareNames]
  rfl

theorem quoteBareNames_ne_nil {s : List Char} (more : s ≠ []) : quoteBareNames s ≠ [] := by
  induction s using quoteBareNames_induction with
  | nil => exact more
  | keep => exact List.cons_ne_nil _ _
  | quote => exact List.cons_ne_nil _ _

/-- The first character of a text is no dot of an index, and indices only get longer. -/
theorem head?_bracketDottedIndices (s : List Char) :
    (bracketDottedIndices s).head? = s.head? ∧ s.length ≤ (bracketDottedIndices s).length := by
  have longer (runs : List (List Char)) : (dotted runs).length ≤ (bracketed runs).length := by
    induction runs with
    | nil => exact Nat.le_refl _
    | cons digits runs ih =>
        simp only [dotted_cons, bracketed_cons, List.length_cons, List.length_append]
        omega
  induction s using bracketDottedIndices_induction with
  | nil => exact ⟨rfl, Nat.le_refl _⟩
  | keep c rest _ ih => exact ⟨rfl, Nat.succ_le_succ ih.2⟩
  | bracket head digits runs rest isHead _ _ _ _ ih =>
      have := longer (digits :: runs)
      refine ⟨?_, by simp only [List.length_append]; omega⟩
      rw [List.head?_append_of_ne_nil _ isHead.ne_nil, List.head?_append_of_ne_nil _ isHead.ne_nil]

/-- The root of an expression is kept, and something behind it. -/
theorem rewrite_root {s : List Char} (more : s ≠ []) :
    ∃ s', rewrite .outside ('$' :: s) = '$' :: s' ∧ s' ≠ [] := by
  have strict (s : List Char) : ∃ s', strictPlain ('$' :: s) = '$' :: s' ∧ (s ≠ [] → s' ≠ []) := by
    rw [strictPlain, quoteBareNames_root]
    obtain ⟨first, longer⟩ := head?_bracketDottedIndices ('$' :: quoteBareNames s)
    obtain ⟨s', whole⟩ := List.head?_eq_some_iff.1 first
    refine ⟨s', whole, fun more => ?_⟩
    have := List.length_pos_iff.2 (quoteBareNames_ne_nil more)
    rw [whole, List.length_cons, List.length_cons] at longer
    exact List.length_pos_iff.1 (by omega)
  have noQuote : ¬ IsQuote '$' := by decide
  rcases isPlain_or_quote s with isPlain | ⟨front, quote, rest, rfl, isPlain, isQuote⟩
  · obtain ⟨s', whole, more'⟩ := strict s
    exact ⟨s', (rewrite_plain (List.forall_mem_cons.2 ⟨noQuote, isPlain⟩)).trans whole, more' more⟩
  · obtain ⟨s', whole, -⟩ := strict front
    refine ⟨s' ++ quote :: rewrite (.inside quote) rest, ?_, by simp⟩
    rw [← List.cons_append, rewrite_quote (List.forall_mem_cons.2 ⟨noQuote, isPlain⟩) isQuote, whole,
      List.cons_append]

/-! ### Normalization -/

/-- An expression that has a strict form is a root and more, without a blank at the end, before
it is rewritten. -/
theorem exists_of_normalize {expression strict : String}
    (normalized : normalize expression = some strict) :
    ∃ s, s ≠ [] ∧ (∀ c ∈ ('$' :: s).getLast?, Text.isBlank c = false) ∧
      strict.toList = rewrite .outside ('$' :: s) := by
  rw [normalize] at normalized
  split at normalized
  · cases normalized
  · next proper =>
    cases normalized
    have last := Text.getLast?_trim expression.toList
    generalize Text.trim expression.toList = trimmed at proper last
    rw [not_or] at proper
    obtain ⟨s, whole, more, ends⟩ : ∃ s, withRoot trimmed = '$' :: s ∧ s ≠ [] ∧
        ('$' :: s).getLast? = trimmed.getLast? := by
      unfold withRoot
      split
      · next s => exact ⟨s, rfl, fun none => proper.2 (by rw [none]), rfl⟩
      · next s => exact ⟨'[' :: s, rfl, List.cons_ne_nil _ _, by simp [List.getLast?_cons]⟩
      · obtain ⟨c, s, rfl⟩ := List.exists_cons_of_ne_nil proper.1
        exact ⟨'.' :: c :: s, rfl, List.cons_ne_nil _ _, by simp [List.getLast?_cons]⟩
    rw [← ends] at last
    exact ⟨s, more, last, by rw [String.toList_ofList, whole]; rfl⟩

/-- Of a root and more without a blank at the end only the plain stretches are rewritten. -/
theorem normalize_root {expression : String} {s : List Char}
    (whole : expression.toList = '$' :: s) (more : s ≠ [])
    (last : ∀ c ∈ ('$' :: s).getLast?, Text.isBlank c = false) :
    normalize expression = some (String.ofList (rewrite .outside ('$' :: s))) := by
  have first : ∀ c ∈ ('$' :: s).head?, Text.isBlank c = false := by
    rintro c ⟨⟩
    decide
  have proper : ¬ ('$' :: s = [] ∨ '$' :: s = ['$']) := by simp [more]
  rw [normalize, whole, Text.trim_eq_self first last, if_neg proper, withRoot]
  rfl

/-- It stays as it is when it holds no lenient forms. -/
theorem normalize_eq_self {expression : String} {s : List Char}
    (whole : expression.toList = '$' :: s) (more : s ≠ [])
    (last : ∀ c ∈ ('$' :: s).getLast?, Text.isBlank c = false)
    (settled : ∀ plain, .plain plain ∈ stretches ('$' :: s) → Settled plain) :
    normalize expression = some expression := by
  rw [normalize_root whole more last, rewrite_eq_self settled, ← whole, String.ofList_toList]

/-- Normalization is idempotent: what it gives holds no lenient forms outside of quotes, whatever
it was given, and stays as it is. -/
theorem normalize_idempotent (expression strict : String)
    (normalized : normalize expression = some strict) :
    normalize strict = some strict ∧
      ∀ plain, .plain plain ∈ stretches strict.toList → Settled plain := by
  obtain ⟨s, more, last, rewritten⟩ := exists_of_normalize normalized
  obtain ⟨s', rooted, more'⟩ := rewrite_root more
  have whole : strict.toList = '$' :: s' := rewritten.trans rooted
  have settled : ∀ plain, .plain plain ∈ stretches ('$' :: s') → Settled plain := by
    intro plain listed
    rw [← rooted] at listed
    exact settled_of_rewrite listed
  have last' : ∀ c ∈ ('$' :: s').getLast?, Text.isBlank c = false := by
    have keeps := keepsEnd_rewrite .outside ('$' :: s)
    rw [rooted] at keeps
    rcases keeps with same | closed
    · rwa [same]
    · rw [closed]
      rintro c ⟨⟩
      decide
  rw [whole]
  exact ⟨normalize_eq_self whole more' last' settled, settled⟩

theorem normalize_idempotent_unterminated :
    normalize "x[b, c][d].1.٢[\"[e].3" = some "$.x['b','c']['d'][1][٢][\"[e].3" ∧
      normalize "$.x['b','c']['d'][1][٢][\"[e].3" = some "$.x['b','c']['d'][1][٢][\"[e].3" := by
  have normalized :
      normalize "x[b, c][d].1.٢[\"[e].3" = some "$.x['b','c']['d'][1][٢][\"[e].3" := by
    decide +kernel
  exact ⟨normalized, (normalize_idempotent _ _ normalized).1⟩

end Reshape.PathQuery
