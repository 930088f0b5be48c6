/-
Module: Reshape.PathQuery.Lenient
Purpose: from path expressions as people write them to strict ones.
Main exports: PathQuery.stretches, PathQuery.normalize
Trusted boundary: what the three fixed patterns of the rewriting match is written out here as
  readers of characters
-/
import Reshape.Text.Blank
import Reshape.Text.Word

/-!
# Lenient path expressions

Blanks around an expression do not count. A missing root is added, bare names in
brackets are put in quotes, and a dotted index becomes a bracketed one: `arr.1` is
`$.arr[1]`. Text in quotes is never changed. The expressions `""` and `"$"` stand
for the value itself and have no strict form.
-/

namespace Reshape.PathQuery

/-! ## Bare names in brackets -/

/-- A name at the start of a text and what follows it. -/
def takeName? : List Char → Option (List Char × List Char)
  | [] => none
  | c :: rest =>
      if Text.isNameStart c then
        some (c :: rest.takeWhile Text.isWordChar, rest.dropWhile Text.isWordChar)
      else none

theorem length_lt_of_takeName? {s name rest : List Char} (h : takeName? s = some (name, rest)) :
    rest.length < s.length := by
  cases s with
  | nil => simp [takeName?] at h
  | cons c s =>
    by_cases hc : Text.isNameStart c
    · simp only [takeName?, hc, if_true, Option.some.injEq, Prod.mk.injEq] at h
      have := (List.dropWhile_suffix Text.isWordChar (l := s)).length_le
      simp only [← h.2, List.length_cons]
      omega
    · simp [takeName?, hc] at h

/-- Names with commas between them, up to the closing bracket; blanks may stand
around every name. -/
def takeNames? (s : List Char) : Option (List (List Char) × List Char) :=
  match _h : takeName? (Text.trimStart s) with
  | none => none
  | some (name, rest) =>
      match _hr : Text.trimStart rest with
      | ',' :: more => (takeNames? more).map fun (names, after) => (name :: names, after)
      | ']' :: after => some ([name], after)
      | _ => none
termination_by s.length
decreasing_by
  have h1 := length_lt_of_takeName? _h
  have h2 := (List.dropWhile_suffix Text.isBlank (l := s)).length_le
  have h3 := (List.dropWhile_suffix Text.isBlank (l := rest)).length_le
  have h4 : (Text.trimStart rest).length = more.length + 1 := by rw [_hr]; rfl
  simp only [Text.trimStart] at h1 h4
  omega

theorem length_lt_of_takeNames? {s rest : List Char} {names : List (List Char)}
    (h : takeNames? s = some (names, rest)) : rest.length < s.length := by
  fun_induction takeNames? s generalizing names rest with
  | case1 => cases h
  | case2 s name after hn more hm ih =>
    obtain ⟨⟨ns, r⟩, hs, he⟩ := Option.map_eq_some_iff.1 h
    obtain ⟨rfl, rfl⟩ := Prod.mk.inj he
    have h1 := length_lt_of_takeName? hn
    have h2 := (List.dropWhile_suffix Text.isBlank (l := s)).length_le
    have h3 := (List.dropWhile_suffix Text.isBlank (l := after)).length_le
    have h4 := congrArg List.length hm
    have h5 := ih hs
    simp only [Text.trimStart, List.length_cons] at h1 h4
    omega
  | case3 s name after hn more hm =>
    obtain ⟨rfl, rfl⟩ := Prod.mk.inj (Option.some.inj h)
    have h1 := length_lt_of_takeName? hn
    have h2 := (List.dropWhile_suffix Text.isBlank (l := s)).length_le
    have h3 := (List.dropWhile_suffix Text.isBlank (l := after)).length_le
    have h4 := congrArg List.length hm
    simp only [Text.trimStart, List.length_cons] at h1 h4
    omega
  | case4 => cases h

/-- A name in single quotes. -/
def quoteName (name : List Char) : List Char :=
  '\'' :: name ++ ['\'']

/-- The text with bare names in brackets quoted. -/
def quoteBareNames : List Char → List Char
  | [] => []
  | c :: rest =>
      match _h : (if c = '[' then takeNames? rest else none) with
      | some (names, after) =>
          '[' :: [','].intercalate (names.map quoteName) ++ ']' :: quoteBareNames after
      | none => c :: quoteBareNames rest
termination_by s => s.length
decreasing_by
  · have := length_lt_of_takeNames? (Option.ite_none_right_eq_some.1 _h).2
    simp only [List.length_cons]
    omega
  · simp

/-! ## Dotted indices -/

/-- The digits of an index behind a dot and what follows them. A word character
must not follow the digits. -/
def takeIndex? : List Char → Option (List Char × List Char)
  | '.' :: rest =>
      let digits := rest.takeWhile Text.isDecimalDigit
      let after := rest.dropWhile Text.isDecimalDigit
      if digits = [] ∨ (after.take 1).any Text.isWordChar then none else some (digits, after)
  | _ => none

theorem length_lt_of_takeIndex? {s digits rest : List Char}
    (h : takeIndex? s = some (digits, rest)) : rest.length < s.length := by
  unfold takeIndex? at h
  split at h
  · next more =>
    dsimp only at h
    split at h
    · cases h
    · have := (List.dropWhile_suffix Text.isDecimalDigit (l := more)).length_le
      simp only [Option.some.injEq, Prod.mk.injEq] at h
      simp only [← h.2, List.length_cons]
      omega
  · cases h

/-- The text with the indices at its start in brackets; the second part of the
result is what follows them. -/
def bracketIndices (s : List Char) : List Char × List Char :=
  match _h : takeIndex? s with
  | none => ([], s)
  | some (digits, rest) =>
      let (written, after) := bracketIndices rest
      ('[' :: digits ++ ']' :: written, after)
termination_by s.length
decreasing_by exact length_lt_of_takeIndex? _h

theorem length_bracketIndices_le (s : List Char) : (bracketIndices s).2.length ≤ s.length := by
  fun_induction bracketIndices s with
  | case1 => simp
  | case2 s digits rest h written after hb ih =>
    have := length_lt_of_takeIndex? h
    simp only [hb] at ih
    simp only
    omega

/-- What indices may follow: a name, or one of the signs that end a segment. -/
def takeIndexed? : List Char → Option (List Char × List Char)
  | [] => none
  | c :: rest =>
      if c = ']' ∨ c = '*' ∨ c = '$' then some ([c], rest) else takeName? (c :: rest)

theorem length_lt_of_takeIndexed? {s head rest : List Char}
    (h : takeIndexed? s = some (head, rest)) : rest.length < s.length := by
  cases s with
  | nil => simp [takeIndexed?] at h
  | cons c s =>
    by_cases hc : c = ']' ∨ c = '*' ∨ c = '$'
    · simp only [takeIndexed?, hc, if_true, Option.some.injEq, Prod.mk.injEq] at h
      simp [← h.2]
    · simp only [takeIndexed?, hc, if_false] at h
      exact length_lt_of_takeName? h

/-- The text with dotted indices in brackets. A name that no index follows may end
in a shorter name: every character starts a new attempt. -/
def bracketDottedIndices : List Char → List Char
  | [] => []
  | c :: rest =>
      match _h : takeIndexed? (c :: rest) with
      | none => c :: bracketDottedIndices rest
      | some (head, more) =>
          if (bracketIndices more).1 = [] then c :: bracketDottedIndices rest
          else
            head ++ (bracketIndices more).1 ++ bracketDottedIndices (bracketIndices more).2
termination_by s => s.length
decreasing_by
  · simp
  · simp
  · have h1 := length_lt_of_takeIndexed? _h
    have h2 := length_bracketIndices_le more
    omega

/-- A stretch without quotes in strict form. -/
def strictPlain (s : List Char) : List Char :=
  bracketDottedIndices (quoteBareNames s)

/-! ## Quoted stretches -/

/-- A stretch of an expression: quoted text includes its quotes. -/
inductive Stretch where
  | plain (text : List Char)
  | quoted (text : List Char)
  deriving DecidableEq, Repr

/-- Where the scan of an expression stands. -/
inductive Scan where
  /-- Outside of quotes. -/
  | outside
  /-- Inside quotes that `quote` closes. -/
  | inside (quote : Char)
  /-- Behind a backslash inside quotes. -/
  | escaped (quote : Char)
  deriving DecidableEq, Repr

/-- Put a character at the front of a stretch list that starts with plain text. -/
def consPlain (c : Char) : List Stretch → List Stretch
  | .plain text :: rest => .plain (c :: text) :: rest
  | rest => .plain [c] :: rest

/-- Put a character at the front of a stretch list that starts with quoted text. -/
def consQuoted (c : Char) : List Stretch → List Stretch
  | .quoted text :: rest => .quoted (c :: text) :: rest
  | rest => .quoted [c] :: rest

/-- Cut an expression into plain and quoted stretches, in turn. A quote closes at the
next same quote that no backslash escapes; one that never closes runs to the end. -/
def scanStretches : Scan → List Char → List Stretch
  | .outside, [] => [.plain []]
  | .inside _, [] => [.quoted []]
  | .escaped _, [] => [.quoted []]
  | .outside, c :: rest =>
      if c = '\'' ∨ c = '"' then .plain [] :: consQuoted c (scanStretches (.inside c) rest)
      else consPlain c (scanStretches .outside rest)
  | .inside quote, c :: rest =>
      if c = '\\' then consQuoted c (scanStretches (.escaped quote) rest)
      else if c = quote then .quoted [c] :: scanStretches .outside rest
      else consQuoted c (scanStretches (.inside quote) rest)
  | .escaped quote, c :: rest => consQuoted c (scanStretches (.inside quote) rest)

/-- The stretches of an expression. -/
def stretches (s : List Char) : List Stretch :=
  scanStretches .outside s

/-- A stretch in strict form. -/
def Stretch.strict : Stretch → List Char
  | .plain text => strictPlain text
  | .quoted text => text

/-- The expression with a root at its start. -/
def withRoot (s : List Char) : List Char :=
  match s with
  | '$' :: _ => s
  | '[' :: _ => '$' :: s
  | _ => '$' :: '.' :: s

/-- The strict form of an expression; none for the value itself. -/
def normalize (expression : String) : Option String :=
  let trimmed := Text.trim expression.toList
  if trimmed = [] ∨ trimmed = ['$'] then none
  else some (String.ofList ((stretches (withRoot trimmed)).flatMap Stretch.strict))

end Reshape.PathQuery
