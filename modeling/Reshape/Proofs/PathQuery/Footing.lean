/-
Module: Reshape.Proofs.PathQuery.Footing
Purpose: what strict expressions never hold outside of quotes, and what follows for lenient forms.
Main exports: PathQuery.Footing.run, PathQuery.Passes, PathQuery.Passes.noBareNames,
  PathQuery.Passes.settled
Trusted boundary: the parser of path queries that the program is given, for which the one here
  stands
-/
import Reshape.Json.Reader
import Reshape.Proofs.PathQuery.Stretches

/-!
# Footings

Outside of quotes a strict expression has only blanks between an opening bracket and the first
character of a selector, and no ASCII digit behind a dot that follows a name, a closing bracket,
a star or a root. A scan from character to character can tell. The first fact rules bare names out.
The second leaves only dotted indices with a digit outside ASCII at their start, and rewriting puts
that digit behind a bracket, where the first fact forbids it.
-/

namespace Reshape.PathQuery

/-- The characters that a selector can start with. -/
def startsSelector (c : Char) : Bool :=
  ['\'', '"', '*', '?', '-', ':'].contains c || c.isDigit

/-- What matters about the characters read so far. -/
inductive Footing where
  /-- Outside of quotes, and behind something that an index may follow if `indexable`. -/
  | plain (indexable : Bool)
  /-- Behind a dot that follows such a thing. -/
  | dot
  /-- Behind an opening bracket and blanks. -/
  | bracket
  /-- Inside quotes that `quote` closes. -/
  | inside (quote : Char)
  /-- Behind a backslash inside quotes. -/
  | escaped (quote : Char)

namespace Footing

/-- The footing behind a character that stands outside of quotes. -/
def outside (indexable : Bool) (c : Char) : Footing :=
  if IsQuote c then .inside c
  else if c = '[' then .bracket
  else if c = '.' ∧ indexable then .dot
  else .plain (c = ']' ∨ c = '*' ∨ c = '$' ∨ Text.isNameStart c ∨ (indexable ∧ Text.isWordChar c))

theorem outside_of_ne {c : Char} (noQuote : ¬ IsQuote c) (noBracket : c ≠ '[') (noDot : c ≠ '.')
    (indexable : Bool) : outside indexable c =
      .plain (c = ']' ∨ c = '*' ∨ c = '$' ∨ Text.isNameStart c ∨ (indexable ∧ Text.isWordChar c)) := by
  rw [outside, if_neg noQuote, if_neg noBracket, if_neg fun both => noDot both.1]

/-- The footing behind one more character; none when no strict expression goes on with it. -/
def step : Footing → Char → Option Footing
  | .plain indexable, c => some (outside indexable c)
  | .dot, c => if c.isDigit then none else some (outside false c)
  | .bracket, c =>
      if Json.isBlank c then some .bracket
      else if startsSelector c then some (outside false c)
      else none
  | .inside quote, c =>
      some (if c = '\\' then .escaped quote else if c = quote then .plain false else .inside quote)
  | .escaped quote, _ => some (.inside quote)

/-- The footing behind a text. -/
def run : Footing → List Char → Option Footing
  | footing, [] => some footing
  | footing, c :: s => (footing.step c).bind fun next => next.run s

@[simp] theorem run_nil (footing : Footing) : footing.run [] = some footing := by
  rw [run]

theorem run_cons {footing last : Footing} {c : Char} {s : List Char} :
    footing.run (c :: s) = some last ↔
      ∃ next, footing.step c = some next ∧ next.run s = some last := by
  rw [run, Option.bind_eq_some_iff]

theorem run_append {footing last : Footing} {s t : List Char} :
    footing.run (s ++ t) = some last ↔
      ∃ next, footing.run s = some next ∧ next.run t = some last := by
  induction s generalizing footing with
  | nil => simp
  | cons c s ih =>
      rw [List.cons_append, run_cons]
      simp only [ih, run_cons]
      constructor
      · rintro ⟨first, stepped, next, ran, rest⟩
        exact ⟨next, ⟨first, stepped, ran⟩, rest⟩
      · rintro ⟨next, ⟨first, stepped, ran⟩, rest⟩
        exact ⟨first, stepped, next, ran, rest⟩

/-- Where the scan for quotes stands. -/
def scan : Footing → Scan
  | .plain _ => .outside
  | .dot => .outside
  | .bracket => .outside
  | .inside quote => .inside quote
  | .escaped quote => .escaped quote

theorem scan_outside (indexable : Bool) (c : Char) :
    (outside indexable c).scan = Scan.outside.step c := by
  rw [outside, Scan.step]
  split_ifs <;> rfl

/-- Outside of quotes every character that passes is looked at in the same way. -/
theorem step_outside {footing next : Footing} {c : Char} (within : footing.scan = .outside)
    (stepped : footing.step c = some next) :
    next = .bracket ∧ Json.isBlank c = true ∨ ∃ indexable, next = outside indexable c := by
  cases footing with
  | plain indexable => exact .inr ⟨indexable, (Option.some.inj stepped).symm⟩
  | dot =>
      rw [step] at stepped
      split_ifs at stepped
      exact .inr ⟨false, (Option.some.inj stepped).symm⟩
  | bracket =>
      rw [step] at stepped
      split_ifs at stepped with blank
      · exact .inl ⟨(Option.some.inj stepped).symm, blank⟩
      · exact .inr ⟨false, (Option.some.inj stepped).symm⟩
  | inside quote => cases within
  | escaped quote => cases within

theorem scan_step {footing next : Footing} {c : Char} (stepped : footing.step c = some next) :
    next.scan = footing.scan.step c := by
  by_cases within : footing.scan = .outside
  · rw [within]
    rcases step_outside within stepped with ⟨rfl, blank⟩ | ⟨indexable, rfl⟩
    · refine (if_neg ?_).symm
      rintro (rfl | rfl) <;> exact absurd blank (by decide)
    · exact scan_outside indexable c
  · cases footing with
    | inside quote =>
        cases stepped
        rw [scan, Scan.step]
        split_ifs <;> rfl
    | escaped quote =>
        cases stepped
        rfl
    | _ => exact absurd rfl within

theorem scan_run {footing last : Footing} {s : List Char} (ran : footing.run s = some last) :
    last.scan = footing.scan.after s := by
  induction s generalizing footing with
  | nil =>
      cases ran
      rfl
  | cons c s ih =>
      obtain ⟨next, stepped, ran⟩ := run_cons.1 ran
      rw [ih ran, scan_step stepped, Scan.after_cons]

end Footing

/-! ### Texts that pass -/

/-- A text that can be passed by a scan that stands at `scan`. -/
def Passes (scan : Scan) (s : List Char) : Prop :=
  ∃ footing last : Footing, footing.scan = scan ∧ footing.run s = some last

namespace Passes

variable {scan : Scan} {s front rest : List Char}

theorem of_append (passes : Passes scan (front ++ rest)) :
    Passes scan front ∧ Passes (scan.after front) rest := by
  obtain ⟨footing, last, rfl, ran⟩ := passes
  obtain ⟨next, ranFront, ranRest⟩ := Footing.run_append.1 ran
  exact ⟨⟨footing, next, rfl, ranFront⟩, next, last, Footing.scan_run ranFront, ranRest⟩

theorem of_cons {c : Char} (passes : Passes scan (c :: rest)) : Passes (scan.step c) rest := by
  rw [← List.singleton_append] at passes
  exact passes.of_append.2

/-- Every plain stretch of a text that passes does so too. -/
theorem of_mem {plain : List Char} (passes : Passes scan s)
    (listed : .plain plain ∈ scanStretches scan s) : IsPlain plain ∧ Passes .outside plain := by
  induction scan, s using scan_induction with
  | plain s isPlain =>
      rw [(mem_scanStretches_plain isPlain).1 listed]
      exact ⟨isPlain, passes⟩
  | opens s quote rest isPlain isQuote ih =>
      obtain ⟨front, behind⟩ := passes.of_append
      rw [Scan.after_outside isPlain] at behind
      rcases (mem_scanStretches_quote isPlain isQuote).1 listed with rfl | listed
      · exact ⟨isPlain, front⟩
      · have inner := behind.of_cons
        rw [Scan.step, if_pos isQuote] at inner
        exact ih inner listed
  | ends scan within => exact absurd listed (notMem_scanStretches_nil within plain)
  | within scan c rest within ih =>
      exact ih passes.of_cons ((mem_scanStretches_cons within).1 listed)

end Passes

/-! ### Bare names -/

/-- The blanks of strict expressions are blanks, and no names start with them. -/
theorem excluded_of_isBlank {c : Char} (blank : Json.isBlank c = true) :
    Text.isBlank c = true ∧ Text.isNameStart c = false := by
  simp only [Json.isBlank, Bool.or_eq_true, beq_iff_eq] at blank
  rcases blank with ((rfl | rfl) | rfl) | rfl <;> decide

theorem isDigit_of_startsSelector {c : Char} (starts : startsSelector c = true) :
    c ∈ ['\'', '"', '*', '?', '-', ':'] ∨ c.isDigit = true := by
  rwa [startsSelector, Bool.or_eq_true, List.contains_iff_mem] at starts

/-- No selector starts with a blank of any kind or with a letter or underscore. -/
theorem excluded_of_startsSelector {c : Char} (starts : startsSelector c = true) :
    Text.isBlank c = false ∧ Text.isNameStart c = false := by
  have signs : ['\'', '"', '*', '?', '-', ':'].all
      (fun c => !Text.isBlank c && !Text.isNameStart c) = true := by decide
  rcases isDigit_of_startsSelector starts with sign | digit
  · have := List.all_eq_true.1 signs c sign
    simpa using this
  · have digit := Text.isDecimalDigit_of_isDigit digit
    exact ⟨Text.isBlank_of_isDecimalDigit digit, Text.isNameStart_of_isDecimalDigit digit⟩

/-- Between a bracket and the name behind it the scan gets stuck. -/
theorem takeNames?_eq_none_of_run {s : List Char} {last : Footing}
    (ran : Footing.bracket.run s = some last) : takeNames? s = none := by
  induction s with
  | nil =>
      rw [takeNames?]
      rfl
  | cons c s ih =>
      obtain ⟨next, stepped, ran⟩ := Footing.run_cons.1 ran
      rw [Footing.step] at stepped
      split_ifs at stepped with blank starts
      · cases stepped
        have same : Text.trimStart (c :: s) = Text.trimStart s :=
          List.dropWhile_cons_of_pos (excluded_of_isBlank blank).1
        have none := ih ran
        rw [takeNames?] at none ⊢
        rwa [same]
      · obtain ⟨filled, noName⟩ := excluded_of_startsSelector starts
        exact takeNames?_eq_none filled noName

theorem Passes.noBareNames {s : List Char} (isPlain : IsPlain s) (passes : Passes .outside s) :
    NoBareNames s := by
  induction s with
  | nil => exact noBareNames_nil
  | cons c s ih =>
      obtain ⟨noQuote, isPlain⟩ := List.forall_mem_cons.1 isPlain
      have behind := passes.of_cons
      rw [Scan.step, if_neg noQuote] at behind
      refine noBareNames_cons.2 ⟨?_, ih isPlain behind⟩
      rintro rfl
      obtain ⟨footing, last, within, ran⟩ := passes
      obtain ⟨next, stepped, ran⟩ := Footing.run_cons.1 ran
      rcases Footing.step_outside within stepped with ⟨rfl, -⟩ | ⟨indexable, rfl⟩
      · exact takeNames?_eq_none_of_run ran
      · exact takeNames?_eq_none_of_run ran

/-! ### Dotted indices -/

namespace Footing

theorem outside_word {c : Char} (word : Text.isWordChar c = true) (indexable : Bool) :
    outside indexable c = .plain (Text.isNameStart c ∨ indexable) := by
  have noMark := isMark_of_isWordChar word
  have other (mark : Char) (isMark : isMark mark = true) : c ≠ mark := by
    rintro rfl
    rw [noMark] at isMark
    cases isMark
  rw [outside_of_ne (isNeutral_of_isMark noMark).1 (other _ rfl) (other _ rfl)]
  simp [other ']' rfl, other '*' rfl, other '$' rfl, word]

theorem run_word {s : List Char} (all : ∀ c ∈ s, Text.isWordChar c = true) :
    (Footing.plain true).run s = some (.plain true) := by
  induction s with
  | nil => rfl
  | cons c s ih =>
      obtain ⟨word, all⟩ := List.forall_mem_cons.1 all
      refine run_cons.2 ⟨.plain true, ?_, ih all⟩
      rw [step, outside_word word]
      simp

/-- Behind a name or sign an index may follow. -/
theorem run_head {head : List Char} {footing last : Footing} (isHead : IsHead head)
    (within : footing.scan = .outside) (ran : footing.run head = some last) :
    last = .plain true := by
  cases isHead with
  | sign isSign =>
      obtain ⟨next, stepped, ran⟩ := run_cons.1 ran
      cases ran
      rcases isSign with rfl | rfl | rfl <;>
      · rcases step_outside within stepped with ⟨-, blank⟩ | ⟨indexable, rfl⟩
        · exact absurd blank (by decide)
        · cases indexable <;> rfl
  | name isName =>
      obtain @⟨first, more, starts, all⟩ := isName
      obtain ⟨next, stepped, ran⟩ := run_cons.1 ran
      rcases step_outside within stepped with ⟨-, blank⟩ | ⟨indexable, rfl⟩
      · rw [(excluded_of_isBlank blank).2] at starts
        cases starts
      · rw [outside_word (isWordChar_of_isNameStart starts)] at ran
        simp only [starts, true_or, decide_true] at ran
        rw [run_word all] at ran
        exact (Option.some.inj ran).symm

end Footing

/-- An index that passes starts with a digit outside ASCII. -/
theorem Passes.isDigit_of_indexAt {head rest : List Char} {d : Char} (isHead : IsHead head)
    (passes : Passes .outside (head ++ '.' :: d :: rest)) : d.isDigit = false := by
  obtain ⟨footing, last, within, ran⟩ := passes
  obtain ⟨next, ranHead, ran⟩ := Footing.run_append.1 ran
  obtain rfl := Footing.run_head isHead within ranHead
  obtain ⟨behind, stepped, ran⟩ := Footing.run_cons.1 ran
  cases stepped
  obtain ⟨next, stepped, -⟩ := Footing.run_cons.1 ran
  rw [show Footing.outside true '.' = .dot from rfl, Footing.step] at stepped
  split_ifs at stepped with digit
  exact Bool.eq_false_iff.2 digit

/-- An index in brackets that passes starts with an ASCII digit. -/
theorem Passes.isDigit_of_bracket {rest : List Char} {d : Char}
    (digit : Text.isDecimalDigit d = true) (passes : Passes .outside ('[' :: d :: rest)) :
    d.isDigit = true := by
  obtain ⟨footing, last, within, ran⟩ := passes
  obtain ⟨behind, stepped, ran⟩ := Footing.run_cons.1 ran
  have bracket : behind = .bracket := by
    rcases Footing.step_outside within stepped with ⟨rfl, -⟩ | ⟨indexable, rfl⟩ <;> rfl
  obtain ⟨next, stepped, -⟩ := Footing.run_cons.1 ran
  rw [bracket, Footing.step] at stepped
  split_ifs at stepped with blank starts
  · have blank := (excluded_of_isBlank blank).1
    rw [Text.isBlank_of_isDecimalDigit digit] at blank
    cases blank
  · have signs : ['\'', '"', '*', '?', '-', ':'].all (!Text.isDecimalDigit ·) = true := by decide
    rcases isDigit_of_startsSelector starts with sign | ascii
    · have := List.all_eq_true.1 signs d sign
      simp [digit] at this
    · exact ascii

/-- An expression that passes before and after it is rewritten holds no dotted index. -/
theorem Passes.noDottedIndex {s : List Char} (isPlain : IsPlain s) (before : Passes .outside s)
    (after : Passes .outside (bracketDottedIndices s)) : NoDottedIndex s := by
  induction s using bracketDottedIndices_induction with
  | nil => exact noDottedIndex_nil
  | keep c rest free ih =>
      obtain ⟨noQuote, isPlain⟩ := List.forall_mem_cons.1 isPlain
      have before := before.of_cons
      have after := after.of_cons
      rw [Scan.step, if_neg noQuote] at before after
      exact noDottedIndex_cons.2 ⟨free, ih isPlain before after⟩
  | bracket head digits runs rest isHead isDigits _ _ _ _ =>
      obtain ⟨d, digits, rfl⟩ := List.exists_cons_of_ne_nil isDigits.some
      have front : IsPlain head := fun c inside => (isHead.isNeutral c inside).1
      have behind := after.of_append.2
      rw [Scan.after_outside front] at behind
      have ascii := behind.isDigit_of_bracket (isDigits.all d List.mem_cons_self)
      have other := Passes.isDigit_of_indexAt isHead before
      rw [ascii] at other
      cases other

/-- The same of an expression with quotes: no lenient form stands in its plain stretches. -/
theorem Passes.settled {scan : Scan} {s plain : List Char} (before : Passes scan s)
    (after : Passes scan (rewrite scan s)) (listed : .plain plain ∈ scanStretches scan s) :
    Settled plain := by
  have settled {s : List Char} (isPlain : IsPlain s) (before : Passes .outside s)
      (after : Passes .outside (strictPlain s)) : Settled s := by
    have names := before.noBareNames isPlain
    rw [strictPlain, quoteBareNames_eq_self names] at after
    exact ⟨names, before.noDottedIndex isPlain after⟩
  induction scan, s using scan_induction with
  | plain s isPlain =>
      rw [rewrite_plain isPlain] at after
      rw [(mem_scanStretches_plain isPlain).1 listed]
      exact settled isPlain before after
  | opens s quote rest isPlain isQuote ih =>
      rw [rewrite_quote isPlain isQuote] at after
      obtain ⟨front, behind⟩ := before.of_append
      obtain ⟨front', behind'⟩ := after.of_append
      rcases (mem_scanStretches_quote isPlain isQuote).1 listed with rfl | listed
      · exact settled isPlain front front'
      · have inner := behind.of_cons
        have inner' := behind'.of_cons
        rw [Scan.after_outside isPlain, Scan.step, if_pos isQuote] at inner
        rw [after_strictPlain isPlain, Scan.step, if_pos isQuote] at inner'
        exact ih inner inner' listed
  | ends scan within => exact absurd listed (notMem_scanStretches_nil within plain)
  | within scan c rest within ih =>
      rw [rewrite_cons within] at after
      exact ih before.of_cons after.of_cons ((mem_scanStretches_cons within).1 listed)

end Reshape.PathQuery
