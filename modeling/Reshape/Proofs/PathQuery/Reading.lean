/-
Module: Reshape.Proofs.PathQuery.Reading
Purpose: what the readers of strict expressions read can be passed.
Main exports: PathQuery.Reads, PathQuery.Readers, PathQuery.readers,
  PathQuery.Query.passes_of_parse?
Trusted boundary: the parser of path queries that the program is given, for which the one here
  stands
-/
import Reshape.PathQuery.Reader
import Reshape.Proofs.PathQuery.Footing

/-!
# Reading with a footing

Every reader of the grammar is followed from character to character. It starts and ends on
footings of a certain kind: a selector starts behind a bracket or a sign, a literal behind a sign,
a name behind a dot.
-/

namespace Reshape.PathQuery

/-! ### Footings at the ends of a reader -/

namespace Footing

/-- Outside of quotes and brackets. -/
def Plain (footing : Footing) : Prop :=
  ∃ indexable, footing = .plain indexable

/-- Behind a sign that no index may follow. -/
def Clear (footing : Footing) : Prop :=
  footing = .plain false

/-- Where a selector may start. -/
def Fresh (footing : Footing) : Prop :=
  footing = .plain false ∨ footing = .bracket

/-- Where a name may start. -/
def Named (footing : Footing) : Prop :=
  footing.Plain ∨ footing = .dot

/-- Inside quotes that `quote` closes. -/
def Within (quote : Char) (footing : Footing) : Prop :=
  footing = .inside quote

theorem Clear.plain {footing : Footing} (clear : footing.Clear) : footing.Plain :=
  ⟨false, clear⟩

theorem Clear.fresh {footing : Footing} (clear : footing.Clear) : footing.Fresh :=
  .inl clear

theorem Plain.named {footing : Footing} (plain : footing.Plain) : footing.Named :=
  .inl plain

end Footing

open Footing

/-- The text from `s` up to its part `t` leads from every footing of one kind to one of another. -/
def Reads (start stop : Footing → Prop) (s t : List Char) : Prop :=
  ∃ front, s = front ++ t ∧
    ∀ footing, start footing → ∃ last, footing.run front = some last ∧ stop last

namespace Reads

variable {start mid stop : Footing → Prop} {s t u : List Char}

theorem refl (weaker : ∀ footing, start footing → stop footing) (s : List Char) :
    Reads start stop s s :=
  ⟨[], rfl, fun footing holds => ⟨footing, rfl, weaker footing holds⟩⟩

theorem trans (first : Reads start mid s t) (second : Reads mid stop t u) :
    Reads start stop s u := by
  obtain ⟨front, rfl, ran⟩ := first
  obtain ⟨back, rfl, ran'⟩ := second
  refine ⟨front ++ back, (List.append_assoc _ _ _).symm, fun footing holds => ?_⟩
  obtain ⟨next, passed, holds⟩ := ran footing holds
  obtain ⟨last, passed', holds⟩ := ran' next holds
  exact ⟨last, run_append.2 ⟨next, passed, passed'⟩, holds⟩

/-- A text can be read from fewer footings, and leads to more. -/
theorem weaken {start' stop' : Footing → Prop} (reads : Reads start stop s t)
    (fewer : ∀ footing, start' footing → start footing)
    (more : ∀ footing, stop footing → stop' footing) : Reads start' stop' s t := by
  obtain ⟨front, whole, ran⟩ := reads
  refine ⟨front, whole, fun footing holds => ?_⟩
  obtain ⟨last, passed, holds⟩ := ran footing (fewer footing holds)
  exact ⟨last, passed, more last holds⟩

/-- Behind a sign is outside of quotes and brackets. -/
theorem plain (reads : Reads start Clear s t) : Reads start Plain s t :=
  reads.weaken (fun _ => id) fun _ => Clear.plain

/-- Where a selector may start there is a sign in front, or a bracket. -/
theorem ofFresh (reads : Reads Fresh stop s t) : Reads Clear stop s t :=
  reads.weaken (fun _ => Clear.fresh) fun _ => id

theorem ofPlain (reads : Reads Plain stop s t) : Reads Clear stop s t :=
  reads.weaken (fun _ => Clear.plain) fun _ => id

theorem char {c : Char} (steps : ∀ footing, start footing →
    ∃ next, footing.step c = some next ∧ stop next) (t : List Char) :
    Reads start stop (c :: t) t := by
  refine ⟨[c], rfl, fun footing holds => ?_⟩
  obtain ⟨next, stepped, holds⟩ := steps footing holds
  exact ⟨next, run_cons.2 ⟨next, stepped, rfl⟩, holds⟩

/-- A run of characters that all keep the kind of the footing. -/
theorem chars {kind : Footing → Prop} {run : List Char}
    (steps : ∀ c ∈ run, ∀ footing, kind footing → ∃ next, footing.step c = some next ∧ kind next)
    (t : List Char) : Reads kind kind (run ++ t) t := by
  induction run with
  | nil => exact refl (fun _ => id) t
  | cons c run ih =>
      obtain ⟨here, later⟩ := List.forall_mem_cons.1 steps
      exact (char here _).trans (ih later)

end Reads

/-! ### Characters -/

/-- A character that neither opens nor closes anything and ends no name. -/
def isSeparator (c : Char) : Bool :=
  !Text.isWordChar c && !(['\'', '"', '[', ']', '.', '*', '$'].contains c)

/-- A character that changes no footing but for indices. -/
def isQuiet (c : Char) : Bool :=
  !(['\'', '"', '[', '.'].contains c)

theorem outside_of_isQuiet {c : Char} (quiet : isQuiet c = true) (indexable : Bool) :
    ∃ indexable', outside indexable c = .plain indexable' := by
  simp only [isQuiet, List.contains_cons, List.contains_nil, Bool.or_false, Bool.not_eq_true',
    Bool.or_eq_false_iff, beq_eq_false_iff_ne, ne_eq] at quiet
  obtain ⟨single, double, bracket, dot⟩ := quiet
  exact ⟨_, outside_of_ne (not_or.2 ⟨single, double⟩) bracket dot indexable⟩

theorem outside_of_isSeparator {c : Char} (separator : isSeparator c = true) (indexable : Bool) :
    outside indexable c = .plain false := by
  simp only [isSeparator, List.contains_cons, List.contains_nil, Bool.or_false, Bool.not_eq_true',
    Bool.and_eq_true, Bool.or_eq_false_iff, beq_eq_false_iff_ne, ne_eq] at separator
  obtain ⟨word, single, double, opening, closing, dot, star, root⟩ := separator
  have noName : Text.isNameStart c = false :=
    Bool.eq_false_iff.2 fun starts => by
      rw [isWordChar_of_isNameStart starts] at word
      cases word
  rw [outside_of_ne (not_or.2 ⟨single, double⟩) opening dot]
  simp [closing, star, root, noName, word]

theorem reads_quiet {c : Char} (quiet : isQuiet c = true) (t : List Char) :
    Reads Plain Plain (c :: t) t := by
  refine Reads.char ?_ t
  rintro _ ⟨indexable, rfl⟩
  exact ⟨_, rfl, outside_of_isQuiet quiet indexable⟩

theorem reads_separator {c : Char} (separator : isSeparator c = true) (t : List Char) :
    Reads Plain Clear (c :: t) t := by
  refine Reads.char ?_ t
  rintro _ ⟨indexable, rfl⟩
  exact ⟨_, rfl, outside_of_isSeparator separator indexable⟩

theorem step_fresh {c : Char} (starts : startsSelector c = true) {footing : Footing}
    (fresh : footing.Fresh) : footing.step c = some (outside false c) := by
  rcases fresh with rfl | rfl
  · rfl
  · rw [step, if_neg ?_, if_pos starts]
    intro blank
    have filled := (excluded_of_startsSelector starts).1
    rw [(excluded_of_isBlank blank).1] at filled
    cases filled

/-- The sign that a selector starts with. -/
theorem reads_start {c : Char} (starts : startsSelector c = true)
    (separator : isSeparator c = true) (t : List Char) : Reads Fresh Clear (c :: t) t :=
  Reads.char (fun _ fresh =>
    ⟨_, step_fresh starts fresh, outside_of_isSeparator separator false⟩) t

theorem outside_of_isDigit {c : Char} (digit : c.isDigit = true) :
    outside false c = .plain false := by
  have decimal := Text.isDecimalDigit_of_isDigit digit
  have noName := Text.isNameStart_of_isDecimalDigit decimal
  have other (mark : Char) (noDigit : mark.isDigit = false) : c ≠ mark := by
    rintro rfl
    rw [noDigit] at digit
    cases digit
  rw [outside_of_ne (not_or.2 ⟨other _ rfl, other _ rfl⟩) (other _ rfl) (other _ rfl)]
  simp [other ']' rfl, other '*' rfl, other '$' rfl, noName]

theorem reads_digits {digits : List Char} (all : ∀ c ∈ digits, c.isDigit = true)
    (t : List Char) : Reads Clear Clear (digits ++ t) t := by
  refine Reads.chars (fun c inside => ?_) t
  rintro _ rfl
  exact ⟨_, rfl, outside_of_isDigit (all c inside)⟩

theorem reads_open (t : List Char) : Reads Plain Fresh ('[' :: t) t := by
  refine Reads.char ?_ t
  rintro _ ⟨indexable, rfl⟩
  exact ⟨_, rfl, .inr rfl⟩

theorem reads_dot (t : List Char) : Reads Plain Named ('.' :: t) t := by
  refine Reads.char ?_ t
  rintro _ ⟨_ | _, rfl⟩
  · exact ⟨_, rfl, .inl ⟨false, rfl⟩⟩
  · exact ⟨_, rfl, .inr rfl⟩

/-- Behind a dot every character but a digit is looked at as elsewhere. -/
theorem step_named {c : Char} (noDigit : c.isDigit = false) {footing : Footing}
    (named : footing.Named) : ∃ indexable, footing.step c = some (outside indexable c) := by
  rcases named with ⟨indexable, rfl⟩ | rfl
  · exact ⟨indexable, rfl⟩
  · exact ⟨false, if_neg (by simp [noDigit])⟩

theorem reads_dots (t : List Char) : Reads Plain Named ('.' :: '.' :: t) t := by
  refine (reads_dot ('.' :: t)).trans (Reads.char (fun footing named => ?_) t)
  obtain ⟨_ | _, stepped⟩ := step_named (c := '.') rfl named
  · exact ⟨_, stepped, .inl ⟨false, rfl⟩⟩
  · exact ⟨_, stepped, .inr rfl⟩

theorem reads_named {c : Char} (noDigit : c.isDigit = false) (quiet : isQuiet c = true)
    (t : List Char) : Reads Named Plain (c :: t) t := by
  refine Reads.char (fun footing named => ?_) t
  obtain ⟨indexable, stepped⟩ := step_named noDigit named
  exact ⟨_, stepped, outside_of_isQuiet quiet indexable⟩

theorem reads_namedOpen (t : List Char) : Reads Named Fresh ('[' :: t) t := by
  refine Reads.char (fun footing named => ?_) t
  obtain ⟨indexable, stepped⟩ := step_named (c := '[') rfl named
  exact ⟨_, stepped, .inr rfl⟩

/-! ### Blanks -/

theorem isSeparator_of_isBlank {c : Char} (blank : Json.isBlank c = true) :
    isSeparator c = true := by
  simp only [Json.isBlank, Bool.or_eq_true, beq_iff_eq] at blank
  rcases blank with ((rfl | rfl) | rfl) | rfl <;> decide

theorem reads_blanks {kind : Footing → Prop}
    (steps : ∀ c, Json.isBlank c = true → ∀ footing, kind footing →
      ∃ next, footing.step c = some next ∧ kind next) (s : List Char) :
    Reads kind kind s (Json.skipBlanks s) := by
  have reads : Reads kind kind (s.takeWhile Json.isBlank ++ Json.skipBlanks s) (Json.skipBlanks s) :=
    Reads.chars (fun c inside => steps c (List.mem_takeWhile_imp inside)) _
  rwa [Json.skipBlanks, List.takeWhile_append_dropWhile] at reads

theorem reads_plainBlanks (s : List Char) : Reads Plain Plain s (Json.skipBlanks s) := by
  refine reads_blanks (fun c blank => ?_) s
  rintro _ ⟨indexable, rfl⟩
  exact ⟨_, rfl, false, outside_of_isSeparator (isSeparator_of_isBlank blank) indexable⟩

theorem reads_clearBlanks (s : List Char) : Reads Clear Clear s (Json.skipBlanks s) := by
  refine reads_blanks (fun c blank => ?_) s
  rintro _ rfl
  exact ⟨_, rfl, outside_of_isSeparator (isSeparator_of_isBlank blank) false⟩

theorem reads_freshBlanks (s : List Char) : Reads Fresh Fresh s (Json.skipBlanks s) := by
  refine reads_blanks (fun c blank => ?_) s
  rintro _ (rfl | rfl)
  · exact ⟨_, rfl, .inl (outside_of_isSeparator (isSeparator_of_isBlank blank) false)⟩
  · exact ⟨_, if_pos blank, .inr rfl⟩

/-! ### Texts in quotes -/

section Quoted

variable {quote : Char} {s t : List Char}

theorem reads_within {c : Char} (noBackslash : c ≠ '\\') (other : c ≠ quote) (t : List Char) :
    Reads (Within quote) (Within quote) (c :: t) t := by
  refine Reads.char ?_ t
  rintro _ rfl
  exact ⟨_, rfl, by rw [if_neg noBackslash, if_neg other]; rfl⟩

theorem reads_escape (c : Char) (t : List Char) :
    Reads (Within quote) (Within quote) ('\\' :: c :: t) t := by
  refine ⟨['\\', c], rfl, ?_⟩
  rintro _ rfl
  exact ⟨_, rfl, rfl⟩

theorem reads_close (isQuote : IsQuote quote) (t : List Char) :
    Reads (Within quote) Clear (quote :: t) t := by
  refine Reads.char ?_ t
  rintro _ rfl
  have noBackslash : quote ≠ '\\' := by rcases isQuote with rfl | rfl <;> decide
  exact ⟨_, rfl, by rw [if_neg noBackslash, if_pos rfl]; rfl⟩

theorem reads_hexDigit {c : Char} {n : Nat} (isQuote : IsQuote quote)
    (value : Json.hexValue? c = some n) (t : List Char) :
    Reads (Within quote) (Within quote) (c :: t) t := by
  refine reads_within ?_ ?_ t
  · rintro rfl
    cases value
  · rintro rfl
    rcases isQuote with rfl | rfl <;> cases value

theorem reads_hex4 {n : Nat} (isQuote : IsQuote quote) (read : Json.readHex4 s = some (n, t)) :
    Reads (Within quote) (Within quote) s t := by
  unfold Json.readHex4 at read
  split at read
  · next a b c d rest =>
    simp only [Option.bind_eq_bind, Option.bind_eq_some_iff, Option.some.injEq,
      Prod.mk.injEq] at read
    obtain ⟨_, first, _, second, _, third, _, fourth, -, rfl⟩ := read
    exact (reads_hexDigit isQuote first _).trans <| (reads_hexDigit isQuote second _).trans <|
      (reads_hexDigit isQuote third _).trans <| reads_hexDigit isQuote fourth _
  · cases read

theorem reads_unicode {c : Char} (isQuote : IsQuote quote)
    (read : Json.readUnicode s = some (c, t)) : Reads (Within quote) (Within quote) s t := by
  rw [Json.readUnicode, Option.bind_eq_bind, Option.bind_eq_some_iff] at read
  obtain ⟨⟨unit, rest⟩, first, read⟩ := read
  have front := reads_hex4 isQuote first
  dsimp only at read
  split_ifs at read
  · split at read
    · next more =>
      rw [Option.bind_eq_some_iff] at read
      obtain ⟨⟨low, after⟩, second, read⟩ := read
      dsimp only at read
      split_ifs at read
      obtain ⟨-, rfl⟩ := Prod.mk.inj (Option.some.inj read)
      exact front.trans ((reads_escape 'u' more).trans (reads_hex4 isQuote second))
    · cases read
  · obtain ⟨-, rfl⟩ := Prod.mk.inj (Option.some.inj read)
    exact front

theorem reads_quoted {fuel : Nat} {acc : List Char} {text : String} (isQuote : IsQuote quote)
    (read : readQuoted quote acc fuel s = some (text, t)) : Reads (Within quote) Clear s t := by
  induction fuel generalizing acc s with
  | zero => cases read
  | succ fuel ih =>
      cases s with
      | nil => cases read
      | cons c rest =>
          unfold readQuoted at read
          split_ifs at read with closes backslash control
          · obtain ⟨-, rfl⟩ := Prod.mk.inj (Option.some.inj read)
            rw [closes]
            exact reads_close isQuote _
          · obtain rfl := backslash
            split at read
            · next more =>
              split at read
              · next d after unicode =>
                exact (reads_escape 'u' more).trans ((reads_unicode isQuote unicode).trans (ih read))
              · cases read
            · next e more _ =>
              split at read
              · exact (reads_escape e more).trans (ih read)
              · cases read
            · cases read
          · exact (reads_within backslash closes rest).trans (ih read)

theorem reads_text {text : String} (read : readText s = some (text, t)) : Reads Fresh Clear s t := by
  unfold readText at read
  split at read
  · next c rest =>
    split_ifs at read with isQuote
    refine Reads.trans (Reads.char ?_ rest) (reads_quoted isQuote read)
    intro footing fresh
    have starts : startsSelector c = true := by rcases isQuote with rfl | rfl <;> decide
    exact ⟨_, step_fresh starts fresh, if_pos isQuote⟩
  · cases read

end Quoted

/-! ### Names, numbers and literals -/

section Leaves

variable {s t : List Char}

/-- A class of characters without quotes, opening brackets and dots. -/
theorem isQuiet_of_class {inClass : Char → Bool}
    (none : ['\'', '"', '[', '.'].all (!inClass ·) = true) {c : Char} (inside : inClass c = true) :
    isQuiet c = true := by
  refine Bool.of_not_eq_false fun loud => ?_
  rw [isQuiet, Bool.not_eq_false', List.contains_iff_mem] at loud
  have := List.all_eq_true.1 none c loud
  simp [inside] at this

theorem isDigit_of_isNameFirst {c : Char} (starts : isNameFirst c = true) :
    c.isDigit = false := by
  refine Bool.eq_false_iff.2 fun digit => ?_
  rw [isNameFirst, ← Text.isNameStart,
    Text.isNameStart_of_isDecimalDigit (Text.isDecimalDigit_of_isDigit digit), Bool.false_or,
    decide_eq_true_eq] at starts
  simp only [Char.isDigit, Bool.and_eq_true, decide_eq_true_eq, UInt32.le_iff_toNat_le] at digit
  have high : c.toNat ≤ 57 := digit.2
  omega

/-- A run of letters, digits and the like. -/
theorem reads_run {run : List Char} (all : ∀ c ∈ run, isQuiet c = true) (t : List Char) :
    Reads Plain Plain (run ++ t) t := by
  refine Reads.chars (fun c inside => ?_) t
  rintro _ ⟨indexable, rfl⟩
  exact ⟨_, rfl, outside_of_isQuiet (all c inside) indexable⟩

theorem reads_class {inClass : Char → Bool}
    (none : ['\'', '"', '[', '.'].all (!inClass ·) = true) (s : List Char) :
    Reads Plain Plain s (s.dropWhile inClass) := by
  have run : Reads Plain Plain (s.takeWhile inClass ++ s.dropWhile inClass)
      (s.dropWhile inClass) :=
    reads_run (fun c inside => isQuiet_of_class none (List.mem_takeWhile_imp inside)) _
  rwa [List.takeWhile_append_dropWhile] at run

theorem reads_name {name : String} (read : readName s = some (name, t)) :
    Reads Named Plain s t := by
  unfold readName at read
  split at read
  · cases read
  · next c rest =>
    split_ifs at read with starts
    cases read
    have noDigit := isDigit_of_isNameFirst starts
    have quiet : isQuiet c = true := isQuiet_of_class (by decide) starts
    exact (reads_named noDigit quiet rest).trans (reads_class (by decide) rest)

theorem readDigits_eq_some {digits : List Char} (read : readDigits s = some (digits, t)) :
    s = digits ++ t ∧ digits ≠ [] ∧ ∀ c ∈ digits, c.isDigit = true := by
  rw [readDigits] at read
  split at read
  · cases read
  · next rest zero =>
    cases read
    have whole := List.takeWhile_append_dropWhile (p := Char.isDigit) (l := s)
    rw [zero] at whole
    rw [← whole]
    exact ⟨rfl, List.cons_ne_nil _ _, by simp⟩
  · next digits none zero =>
    cases read
    exact ⟨List.takeWhile_append_dropWhile.symm, none, fun c => List.mem_takeWhile_imp⟩

/-- Digits at the start of a selector or behind a sign. -/
theorem reads_number {digits : List Char} (read : readDigits s = some (digits, t)) :
    Reads Fresh Clear s t := by
  obtain ⟨rfl, some, all⟩ := readDigits_eq_some read
  obtain ⟨c, digits, rfl⟩ := List.exists_cons_of_ne_nil some
  obtain ⟨digit, all⟩ := List.forall_mem_cons.1 all
  have starts : startsSelector c = true := by rw [startsSelector, digit, Bool.or_true]
  exact (Reads.char (fun _ fresh => ⟨_, step_fresh starts fresh, outside_of_isDigit digit⟩) _).trans
    (reads_digits all t)

theorem reads_integer {n : Int} (read : readInteger s = some (n, t)) : Reads Fresh Clear s t := by
  unfold readInteger at read
  split at read
  · next rest =>
    split at read
    · next digits after found =>
      dsimp only at read
      split_ifs at read
      cases read
      exact (reads_start (by decide) (by decide) rest).trans
        (reads_number found).ofFresh
    · cases read
  · split at read
    · next digits after found =>
      dsimp only at read
      split_ifs at read
      cases read
      exact reads_number found
    · cases read

/-- A part at the start of a text that is dropped. -/
theorem reads_part {start stop : Footing → Prop} {part : List Char} (isPrefix : part <+: s)
    (reads : ∀ t, Reads start stop (part ++ t) t) : Reads start stop s (s.drop part.length) := by
  obtain ⟨t, rfl⟩ := isPrefix
  rw [List.drop_left]
  exact reads t

theorem prefix_filter_take (keep : Char → Bool) (s : List Char) :
    (s.take 1).filter keep <+: s := by
  cases s with
  | nil => exact List.nil_prefix
  | cons c s =>
      rw [List.take_succ_cons, List.take_zero]
      by_cases kept : keep c = true
      · simp [kept]
      · simp [kept]

theorem prefix_fractionOf (s : List Char) : fractionOf s <+: s := by
  unfold fractionOf
  split
  · next rest =>
    split
    · exact List.nil_prefix
    · exact (List.prefix_cons_inj '.').2 (List.takeWhile_prefix _)
  · exact List.nil_prefix

theorem reads_fraction (s t : List Char) : Reads Clear Clear (fractionOf s ++ t) t := by
  unfold fractionOf
  split
  · next rest =>
    split
    · exact Reads.refl (fun _ => id) t
    · have run : Reads Clear Clear (rest.takeWhile Char.isDigit ++ t) t :=
        reads_digits (fun c => List.mem_takeWhile_imp) t
      refine (Reads.char ?_ _).trans run
      rintro _ rfl
      exact ⟨_, rfl, rfl⟩
  · exact Reads.refl (fun _ => id) t

theorem prefix_exponentOf (s : List Char) : exponentOf s <+: s := by
  unfold exponentOf
  split
  · next c rest =>
    split_ifs
    · dsimp only
      obtain ⟨t, whole⟩ := prefix_filter_take (fun d => d == '+' || d == '-') rest
      generalize (rest.take 1).filter (fun d => d == '+' || d == '-') = sign at whole
      subst whole
      rw [List.drop_left]
      split
      · exact List.nil_prefix
      · exact (List.prefix_cons_inj c).2 ((List.prefix_append_right_inj sign).2
          (List.takeWhile_prefix _))
    · exact List.nil_prefix
  · exact List.nil_prefix

theorem isQuiet_of_exponentOf {s : List Char} : ∀ c ∈ exponentOf s, isQuiet c = true := by
  unfold exponentOf
  split
  · next c rest =>
    split_ifs with mark
    · dsimp only
      split
      · exact nofun
      · intro d inside
        rcases List.mem_cons.1 inside with rfl | inside
        · rcases mark with rfl | rfl <;> decide
        · rcases List.mem_append.1 inside with sign | digit
          · have := (List.mem_filter.1 sign).2
            simp only [Bool.or_eq_true, beq_iff_eq] at this
            rcases this with rfl | rfl <;> decide
          · exact isQuiet_of_class (by decide) (List.mem_takeWhile_imp digit)
    · exact nofun
  · exact nofun

theorem reads_sign (s t : List Char) :
    Reads Clear Clear ((s.take 1).filter (· == '-') ++ t) t := by
  refine Reads.chars (fun c inside => ?_) t
  obtain rfl : c = '-' := by simpa using (List.mem_filter.1 inside).2
  rintro _ rfl
  exact ⟨_, rfl, rfl⟩

theorem reads_numberLiteral {value : Json} (read : readNumber s = some (value, t)) :
    Reads Clear Plain s t := by
  rw [readNumber] at read
  split at read
  · cases read
  · next digits afterDigits found =>
    dsimp only at read
    split at read
    · cases read
      have sign := reads_part (prefix_filter_take (· == '-') s) (reads_sign s)
      have integer := (reads_number found).ofFresh
      have fraction := reads_part (prefix_fractionOf afterDigits) (reads_fraction afterDigits)
      have exponent := reads_part (prefix_exponentOf _) (reads_run (isQuiet_of_exponentOf
        (s := afterDigits.drop (fractionOf afterDigits).length)))
      exact sign.trans (integer.trans (fraction.trans exponent.ofPlain))
    · cases read

theorem reads_word {word : String} {value found : Json} (quiet : word.toList.all isQuiet = true)
    (read : Json.readWord word value s = some (found, t)) : Reads Plain Plain s t := by
  rw [Json.readWord] at read
  split_ifs at read with isPrefix
  cases read
  have reads := reads_part (List.isPrefixOf_iff_prefix.1 isPrefix)
    (reads_run (List.all_eq_true.1 quiet))
  rwa [String.length_toList] at reads

theorem reads_literal {value : Json} (read : readLiteral s = some (value, t)) :
    Reads Clear Plain s t := by
  have word {word : String} {value found : Json} (quiet : word.toList.all isQuiet = true)
      (read : Json.readWord word value s = some (found, t)) : Reads Clear Plain s t :=
    (reads_word quiet read).ofPlain
  unfold readLiteral at read
  split at read
  · next found =>
    cases read
    exact (reads_text found).ofFresh.plain
  · split at read
    · next found =>
      cases read
      exact word (by decide) found
    · split at read
      · next found =>
        cases read
        exact word (by decide) found
      · split at read
        · next found =>
          cases read
          exact word (by decide) found
        · exact reads_numberLiteral read

theorem reads_relation {relation : Relation} (read : readRelation s = some (relation, t)) :
    Reads Plain Clear s t := by
  have two {c d : Char} (first : isSeparator c = true) (second : isSeparator d = true)
      (t : List Char) : Reads Plain Clear (c :: d :: t) t :=
    (reads_separator first _).trans (reads_separator second t).ofPlain
  unfold readRelation at read
  split at read <;> cases read
  · exact two (by decide) (by decide) t
  · exact two (by decide) (by decide) t
  · exact two (by decide) (by decide) t
  · exact two (by decide) (by decide) t
  · exact reads_separator (by decide) t
  · exact reads_separator (by decide) t

theorem reads_functionName {name : String} (read : readFunctionName s = some (name, t)) :
    Reads Plain Clear s t := by
  unfold readFunctionName at read
  dsimp only at read
  split at read
  · next first rest =>
    split_ifs at read
    split at read
    · next more behind =>
      cases read
      refine Reads.trans (t := '(' :: t) ?_ (reads_separator (by decide) t)
      rw [← behind]
      exact reads_class (by decide) _
    · cases read
  · cases read

end Leaves

end Reshape.PathQuery
