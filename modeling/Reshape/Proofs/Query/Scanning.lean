/-
Module: Reshape.Proofs.Query.Scanning
Purpose: scanning takes one token after the other from the front of a text.
Main exports: Query.token?, Query.lex, Query.Separates, Query.Scans,
  Query.token?_append, Query.token?_name, Query.token?_integer
Trusted boundary: the parser and the printer of query documents that the program is given, for
  which those here stand
-/
import Mathlib.Data.List.TakeWhile
import Reshape.Proofs.Decimal.Digits
import Reshape.Proofs.Query.Tokens

/-!
# Scanning

Scanning takes one token after the other from the front of a text, and a token is the same
with more text behind it as long as that text begins with something that ends a number. A
text that is scanned as some tokens in front of every such text can be put together from
parts. Names and integers are always scanned as what they were.
-/

namespace Reshape.Query

/-! ### One token -/

/-- A string behind its opening quote, and the text after it. -/
def stringToken? : List Char → Option (Token × List Char)
  | '"' :: '"' :: more =>
      (takeBlock? more).map fun (inside, after) => (.string (blockValue inside), after)
  | rest =>
      (takeString? rest).bind fun (inside, after) =>
        (unescape? inside).map fun value => (.string (String.ofList value), after)

/-- The token that a text starts with, and the text after it. -/
def token? : List Char → Option (Token × List Char)
  | [] => none
  | c :: rest =>
      if isSign c then some (.sign c, rest)
      else if c = '.' then
        match rest with
        | '.' :: '.' :: more => some (.ellipsis, more)
        | _ => none
      else if isNameFirst c then
        some (.name (String.ofList (c :: rest.takeWhile isNameChar)), rest.dropWhile isNameChar)
      else if c = '-' ∨ c.isDigit then
        (number? (c :: rest.takeWhile (!endsNumber ·))).map fun token =>
          (token, rest.dropWhile (!endsNumber ·))
      else if c = '"' then stringToken? rest
      else none

/-- The tokens of a text, with as many steps as its characters pay for. -/
def lex (text : List Char) : Option (List Token) :=
  scan (text.length + 1) text

theorem scan_cons (fuel : Nat) (c : Char) (rest : List Char) :
    scan (fuel + 1) (c :: rest) =
      if isSeparator c then scan fuel rest
      else if c = '#' then scan fuel (rest.dropWhile fun d => d != '\n' && d != '\r')
      else (token? (c :: rest)).bind fun (token, after) => (scan fuel after).map (token :: ·) := by
  conv => lhs; unfold scan
  split
  · rfl
  split
  · rfl
  split
  · simp [token?, *]
  split
  · next dot =>
      subst dot
      split <;> simp [token?, *]
  split
  · simp [token?, *]
  split
  · split <;> simp [token?, *]
  split
  · next quote =>
      subst quote
      split
      · split <;> simp [token?, stringToken?, *]
      · split
        · split <;> simp [token?, stringToken?, *]
        · simp [token?, stringToken?, *]
  · simp [token?, *]

theorem length_lt_of_takeString? {text inside after : List Char}
    (taken : takeString? text = some (inside, after)) : after.length < text.length := by
  fun_induction takeString? text generalizing inside after with
  | case1 | case3 | case4 => cases taken
  | case2 rest =>
      cases taken
      exact Nat.lt_succ_self _
  | case5 c rest _ ih =>
      obtain ⟨⟨more, left⟩, takenRest, same⟩ := Option.map_eq_some_iff.1 taken
      cases same
      exact Nat.lt_succ_of_lt (Nat.lt_succ_of_lt (ih takenRest))
  | case6 c rest _ _ _ _ ih =>
      obtain ⟨⟨more, left⟩, takenRest, same⟩ := Option.map_eq_some_iff.1 taken
      cases same
      exact Nat.lt_succ_of_lt (ih takenRest)

theorem length_lt_of_takeBlock? {text inside after : List Char}
    (taken : takeBlock? text = some (inside, after)) : after.length + 3 ≤ text.length := by
  fun_induction takeBlock? text generalizing inside after with
  | case1 => cases taken
  | case2 rest ih =>
      obtain ⟨⟨more, left⟩, takenRest, same⟩ := Option.map_eq_some_iff.1 taken
      cases same
      exact Nat.le_trans (ih takenRest) (Nat.le_add_right _ 4)
  | case3 rest =>
      cases taken
      exact Nat.le_refl _
  | case4 c rest _ _ ih =>
      obtain ⟨⟨more, left⟩, takenRest, same⟩ := Option.map_eq_some_iff.1 taken
      cases same
      exact Nat.le_succ_of_le (ih takenRest)

theorem length_le_of_stringToken? {text after : List Char} {token : Token}
    (read : stringToken? text = some (token, after)) : after.length ≤ text.length := by
  unfold stringToken? at read
  split at read
  · next more =>
      obtain ⟨⟨inside, left⟩, taken, same⟩ := Option.map_eq_some_iff.1 read
      cases same
      have shorter := length_lt_of_takeBlock? taken
      simp only [List.length_cons]
      omega
  · obtain ⟨⟨inside, left⟩, taken, value⟩ := Option.bind_eq_some_iff.1 read
    obtain ⟨chars, _, same⟩ := Option.map_eq_some_iff.1 value
    cases same
    exact Nat.le_of_lt (length_lt_of_takeString? taken)

/-- A token has at least one character. -/
theorem length_lt_of_token? {text after : List Char} {token : Token}
    (read : token? text = some (token, after)) : after.length < text.length := by
  cases text with
  | nil => cases read
  | cons c rest =>
      rw [List.length_cons, Nat.lt_succ_iff]
      unfold token? at read
      simp only at read
      split at read
      · cases read
        exact Nat.le_refl _
      split at read
      · split at read
        · cases read
          exact Nat.le_add_right _ 2
        · cases read
      split at read
      · cases read
        exact List.length_dropWhile_le _ _
      split at read
      · obtain ⟨number, _, same⟩ := Option.map_eq_some_iff.1 read
        cases same
        exact List.length_dropWhile_le _ _
      split at read
      · exact length_le_of_stringToken? read
      · cases read

/-- The steps that are left over do not matter. -/
theorem scan_eq_scan {size : Nat} {text : List Char} {fuel other : Nat} (short : text.length ≤ size)
    (enough : size < fuel) (enoughToo : size < other) : scan fuel text = scan other text := by
  induction size generalizing text fuel other with
  | zero =>
      obtain rfl := List.eq_nil_of_length_eq_zero (Nat.le_zero.1 short)
      cases fuel <;> cases other <;> first | omega | rfl
  | succ size ih =>
      obtain _ | fuel := fuel
      · omega
      obtain _ | other := other
      · omega
      cases text with
      | nil => rfl
      | cons c rest =>
          have step : ∀ {after : List Char}, after.length ≤ rest.length →
              scan fuel after = scan other after := by
            intro after shorter
            exact ih (Nat.le_trans shorter (Nat.le_of_succ_le_succ short)) (by omega) (by omega)
          rw [scan_cons, scan_cons, step (Nat.le_refl _), step (List.length_dropWhile_le _ _)]
          congr 2
          apply Option.bind_congr
          rintro ⟨token, after⟩ read
          have shorter : after.length ≤ rest.length := Nat.le_of_lt_succ (length_lt_of_token? read)
          exact congrArg (Option.map (token :: ·)) (step shorter)

theorem scan_eq_lex {fuel : Nat} {text : List Char} (enough : text.length < fuel) :
    scan fuel text = lex text :=
  scan_eq_scan (Nat.le_refl _) enough (Nat.lt_succ_self _)

theorem lex_nil : lex [] = some [] :=
  rfl

theorem lex_cons (c : Char) (rest : List Char) :
    lex (c :: rest) =
      if isSeparator c then lex rest
      else if c = '#' then lex (rest.dropWhile fun d => d != '\n' && d != '\r')
      else (token? (c :: rest)).bind fun (token, after) => (lex after).map (token :: ·) := by
  rw [lex, List.length_cons, scan_cons, scan_eq_lex (Nat.lt_succ_self _),
    scan_eq_lex (Nat.lt_succ_of_le (List.length_dropWhile_le _ _))]
  congr 2
  apply Option.bind_congr
  rintro ⟨token, after⟩ read
  exact congrArg (Option.map (token :: ·)) (scan_eq_lex (length_lt_of_token? read))

theorem tokens?_eq (text : String) :
    tokens? text = (lex text.toList).filter (staysWithin maxOpen) := by
  have same : scan (text.length + 1) text.toList = lex text.toList := by
    rw [← String.length_toList]
    rfl
  rw [tokens?, same]
  cases lex text.toList with
  | none => rfl
  | some tokens => rw [Option.filter_some]

/-! ### A token in front of a text -/

/-- Something stands at the front of a text that no token before it can go on with. -/
def Separates (text : List Char) : Prop :=
  ∀ c ∈ text.head?, endsNumber c = true

theorem separates_nil : Separates [] := by
  intro c head
  cases head

theorem separates_cons {c : Char} {rest : List Char} :
    Separates (c :: rest) ↔ endsNumber c = true := by
  simp [Separates]

theorem Separates.append {text rest : List Char} (separates : Separates text)
    (separatesRest : Separates rest) : Separates (text ++ rest) := by
  cases text with
  | nil => exact separatesRest
  | cons c text => exact separates_cons.2 (separates_cons.1 separates)

/-- The characters that end a number. -/
theorem mem_of_endsNumber {c : Char} (ends : endsNumber c = true) :
    c ∈ "()[]\x7b\x7d!$:=@|&# ,\n\t\r".toList := by
  simp [endsNumber, isSign, isOpening, isClosing, isSeparator] at ends ⊢
  grind

/-- A class of characters that has none of them. -/
theorem excluded_of_endsNumber {c : Char} {inClass : Char → Bool}
    (excludes : "()[]\x7b\x7d!$:=@|&# ,\n\t\r".toList.all (!inClass ·) = true)
    (ends : endsNumber c = true) : inClass c = false := by
  have excluded := List.all_eq_true.1 excludes c (mem_of_endsNumber ends)
  simpa using excluded

/-- What ends a number ends a name as well, and begins no string. -/
theorem endsName_of_endsNumber {c : Char} (ends : endsNumber c = true) :
    isNameChar c = false ∧ c ≠ '"' := by
  constructor
  · exact excluded_of_endsNumber (by decide) ends
  · rintro rfl
    revert ends
    decide

theorem dropWhile_append_of_dropWhile {text rest : List Char} {continues : Char → Bool}
    (all : text.dropWhile continues = []) (stops : ∀ c ∈ rest.head?, continues c = false) :
    (text ++ rest).takeWhile continues = text ∧ (text ++ rest).dropWhile continues = rest := by
  have every := List.dropWhile_eq_nil_iff.1 all
  rw [List.takeWhile_append_of_pos every, List.dropWhile_append_of_pos every]
  cases rest with
  | nil => simp
  | cons c rest =>
      have stop := stops c rfl
      simp [stop]

theorem takeString?_append {text inside after rest : List Char}
    (taken : takeString? text = some (inside, after)) :
    takeString? (text ++ rest) = some (inside, after ++ rest) := by
  fun_induction takeString? text generalizing inside after with
  | case1 | case3 | case4 => cases taken
  | case2 more =>
      cases taken
      rfl
  | case5 c more _ ih =>
      obtain ⟨⟨others, left⟩, takenRest, same⟩ := Option.map_eq_some_iff.1 taken
      cases same
      simp [takeString?, ih takenRest]
  | case6 c more notQuote notBreak _ notPair ih =>
      obtain ⟨⟨others, left⟩, takenRest, same⟩ := Option.map_eq_some_iff.1 taken
      cases same
      have notEscape : c ≠ '\\' := by
        intro escape
        cases more with
        | nil => cases takenRest
        | cons d more => exact notPair d more escape rfl
      rw [List.cons_append, takeString?, ih takenRest]
      · rfl
      all_goals simp_all

theorem takeBlock?_append {text inside after rest : List Char}
    (taken : takeBlock? text = some (inside, after)) :
    takeBlock? (text ++ rest) = some (inside, after ++ rest) := by
  fun_induction takeBlock? text generalizing inside after with
  | case1 => cases taken
  | case2 more ih =>
      obtain ⟨⟨others, left⟩, takenRest, same⟩ := Option.map_eq_some_iff.1 taken
      cases same
      simp [takeBlock?, ih takenRest]
  | case3 more =>
      cases taken
      rfl
  | case4 c more notEscape notEnd ih =>
      obtain ⟨⟨others, left⟩, takenRest, same⟩ := Option.map_eq_some_iff.1 taken
      cases same
      -- Three characters are left, so what ends the block or is escaped is seen without the rest.
      have long := length_lt_of_takeBlock? takenRest
      obtain ⟨x, y, z, last, rfl⟩ : ∃ x y z last, more = x :: y :: z :: last := by
        match more, long with
        | x :: y :: z :: last, _ => exact ⟨x, y, z, last, rfl⟩
      rw [List.cons_append, takeBlock?, ih takenRest]
      · rfl
      · intro tail escape quotes
        simp only [List.cons_append, List.cons.injEq] at quotes
        obtain ⟨rfl, rfl, rfl, -⟩ := quotes
        exact notEscape last escape rfl
      · intro tail quote quotes
        simp only [List.cons_append, List.cons.injEq] at quotes
        obtain ⟨rfl, rfl, -⟩ := quotes
        exact notEnd (z :: last) quote rfl

theorem stringToken?_append {text rest : List Char} {token : Token}
    (read : stringToken? text = some (token, [])) (separates : Separates rest) :
    stringToken? (text ++ rest) = some (token, rest) := by
  unfold stringToken? at read
  split at read
  · next more =>
      obtain ⟨⟨inside, left⟩, taken, same⟩ := Option.map_eq_some_iff.1 read
      cases same
      simp [stringToken?, takeBlock?_append taken]
  · next notBlock =>
      obtain ⟨⟨inside, left⟩, taken, value⟩ := Option.bind_eq_some_iff.1 read
      obtain ⟨chars, unescaped, same⟩ := Option.map_eq_some_iff.1 value
      cases same
      have stillNoBlock : ∀ more, text ++ rest ≠ '"' :: '"' :: more := by
        intro more opened
        match text with
        | [] => cases taken
        | [c] =>
            obtain ⟨rfl, follows⟩ := List.cons.inj opened
            have ends := separates '"' (by simp_all)
            exact (endsName_of_endsNumber ends).2 rfl
        | c :: d :: text =>
            obtain ⟨rfl, follows⟩ := List.cons.inj opened
            obtain ⟨rfl, -⟩ := List.cons.inj follows
            exact notBlock _ rfl
      rw [stringToken?]
      · simp [takeString?_append taken, unescaped]
      · exact stillNoBlock

/-- A token that takes all of a text is the first one of the text with more behind it. -/
theorem token?_append {text rest : List Char} {token : Token}
    (read : token? text = some (token, [])) (separates : Separates rest) :
    token? (text ++ rest) = some (token, rest) := by
  have stopsName : ∀ c ∈ rest.head?, isNameChar c = false :=
    fun c head => (endsName_of_endsNumber (separates c head)).1
  have stopsNumber : ∀ c ∈ rest.head?, (!endsNumber c) = false :=
    fun c head => by simp [separates c head]
  cases text with
  | nil => cases read
  | cons c text =>
      unfold token? at read ⊢
      simp only [List.cons_append] at read ⊢
      by_cases sign : isSign c = true
      · rw [if_pos sign] at read ⊢
        cases read
        rfl
      rw [if_neg sign] at read ⊢
      by_cases dot : c = '.'
      · rw [if_pos dot] at read ⊢
        split at read
        · cases read
          rfl
        · cases read
      rw [if_neg dot] at read ⊢
      by_cases letter : isNameFirst c = true
      · rw [if_pos letter] at read ⊢
        simp only [Option.some.injEq, Prod.mk.injEq] at read
        obtain ⟨rfl, all⟩ := read
        obtain ⟨taken, left⟩ := dropWhile_append_of_dropWhile all stopsName
        rw [taken, left, List.takeWhile_eq_self_iff.2 (List.dropWhile_eq_nil_iff.1 all)]
      rw [if_neg letter] at read ⊢
      by_cases digit : c = '-' ∨ c.isDigit = true
      · rw [if_pos digit] at read ⊢
        obtain ⟨number, value, same⟩ := Option.map_eq_some_iff.1 read
        simp only [Prod.mk.injEq] at same
        obtain ⟨rfl, all⟩ := same
        obtain ⟨taken, left⟩ := dropWhile_append_of_dropWhile all stopsNumber
        rw [List.takeWhile_eq_self_iff.2 (List.dropWhile_eq_nil_iff.1 all)] at value
        rw [taken, left, value]
        rfl
      rw [if_neg digit] at read ⊢
      by_cases quote : c = '"'
      · rw [if_pos quote] at read ⊢
        exact stringToken?_append read separates
      · rw [if_neg quote] at read
        cases read

theorem lex_of_token? {text rest : List Char} {token : Token}
    (read : token? text = some (token, rest)) : lex text = (lex rest).map (token :: ·) := by
  cases text with
  | nil => cases read
  | cons c text =>
      have noToken : " ,\n\t\r\ufeff#".toList.all (fun c => !isSign c && c != '.' &&
          !isNameFirst c && c != '-' && !c.isDigit && c != '"') = true := by
        decide
      have starts : c ∉ " ,\n\t\r\ufeff#".toList := by
        intro inside
        have none := List.all_eq_true.1 noToken c inside
        simp only [Bool.and_eq_true, Bool.not_eq_true', bne_iff_ne] at none
        obtain ⟨⟨⟨⟨⟨sign, dot⟩, letter⟩, minus⟩, digit⟩, quote⟩ := none
        simp [token?, sign, dot, letter, minus, digit, quote] at read
      rw [lex_cons, if_neg, if_neg, read]
      · rfl
      · rintro rfl
        exact starts (by decide)
      · intro separator
        apply starts
        simp only [isSeparator, Bool.or_eq_true, beq_iff_eq] at separator
        rcases separator with ((((rfl | rfl) | rfl) | rfl) | rfl) | rfl <;> decide

/-- A text is scanned as the given tokens, with any text behind it that separates. -/
def Scans (text : List Char) (tokens : List Token) : Prop :=
  ∀ rest, Separates rest → lex (text ++ rest) = (lex rest).map (tokens ++ ·)

namespace Scans

variable {text more : List Char} {tokens others : List Token} {c : Char}

theorem nil : Scans [] [] := by
  intro rest _
  simp

theorem token {token : Token} (read : token? text = some (token, [])) : Scans text [token] := by
  intro rest separates
  exact lex_of_token? (token?_append read separates)

theorem separator (separator : isSeparator c = true) (scans : Scans text tokens) :
    Scans (c :: text) tokens := by
  intro rest separates
  rw [List.cons_append, lex_cons, if_pos separator]
  exact scans rest separates

theorem sign (sign : isSign c = true) (scans : Scans text tokens) :
    Scans (c :: text) (.sign c :: tokens) := by
  intro rest separates
  have first : token? (c :: (text ++ rest)) = some (.sign c, text ++ rest) := by
    simp [token?, sign]
  rw [List.cons_append, lex_of_token? first, scans rest separates, Option.map_map]
  rfl

theorem ellipsis (scans : Scans text tokens) :
    Scans ('.' :: '.' :: '.' :: text) (.ellipsis :: tokens) := by
  intro rest separates
  have first : token? ('.' :: '.' :: '.' :: (text ++ rest)) = some (.ellipsis, text ++ rest) := rfl
  simp only [List.cons_append]
  rw [lex_of_token? first, scans rest separates, Option.map_map]
  rfl

theorem append (front : Scans text tokens) (back : Scans more others) (separates : Separates more) :
    Scans (text ++ more) (tokens ++ others) := by
  intro rest separatesRest
  have both : Separates (more ++ rest) := separates.append separatesRest
  rw [List.append_assoc, front _ both, back rest separatesRest, Option.map_map]
  simp [Function.comp_def]

theorem lex_eq (scans : Scans text tokens) : lex text = some tokens := by
  have all := scans [] separates_nil
  rwa [List.append_nil, lex_nil, Option.map_some, List.append_nil] at all

end Scans

/-! ### Names and integers -/

theorem token?_name {text : String} (name : IsName text) :
    token? text.toList = some (.name text, []) := by
  obtain ⟨c, rest, chars, first, others⟩ := name
  have sign : isSign c = false := by
    apply Bool.eq_false_iff.2
    intro sign
    have ends : endsNumber c = true := by simp [endsNumber, sign]
    have noLetter : isNameFirst c = false := excluded_of_endsNumber (by decide) ends
    rw [noLetter] at first
    cases first
  have dot : c ≠ '.' := by
    rintro rfl
    revert first
    decide
  have all : ∀ d ∈ rest, isNameChar d = true := List.all_eq_true.1 others
  rw [chars]
  unfold token?
  simp only
  rw [if_neg (by simp [sign]), if_neg dot, if_pos first, List.takeWhile_eq_self_iff.2 all,
    List.dropWhile_eq_nil_iff.2 all, ← chars, String.ofList_toList]

theorem isNameFirst_of_isDigit {c : Char} (digit : c.isDigit = true) :
    isNameFirst c = false := by
  have notUnderscore : c ≠ '_' := by
    rintro rfl
    revert digit
    decide
  have low : c.val ≤ 57 := by
    simp only [Char.isDigit, Bool.and_eq_true, decide_eq_true_eq] at digit
    exact digit.2
  have noUpper : c.isUpper = false := by
    unfold Char.isUpper
    grind
  have noLower : c.isLower = false := by
    unfold Char.isLower
    grind
  have noAlpha : c.isAlpha = false := by
    unfold Char.isAlpha
    rw [noUpper, noLower, Bool.or_self]
  simp [isNameFirst, noAlpha, notUnderscore]

theorem endsNumber_of_isDigit {c : Char} (digit : c.isDigit = true) :
    endsNumber c = false := by
  apply Bool.eq_false_iff.2
  intro ends
  have noDigit : c.isDigit = false := excluded_of_endsNumber (by decide) ends
  rw [noDigit] at digit
  cases digit

/-- Digits, which a minus may precede, are one token. -/
theorem token?_digits {c : Char} {rest : List Char} (start : c = '-' ∨ c.isDigit = true)
    (digits : ∀ d ∈ rest, d.isDigit = true) :
    token? (c :: rest) = (number? (c :: rest)).map (·, []) := by
  have all : ∀ d ∈ rest, (!endsNumber d) = true := by
    intro d inside
    simp [endsNumber_of_isDigit (digits d inside)]
  have sign : ¬isSign c = true := by
    intro sign
    have ends : endsNumber c = true := by simp [endsNumber, sign]
    rcases start with rfl | digit
    · revert ends
      decide
    · rw [endsNumber_of_isDigit digit] at ends
      cases ends
  have dot : c ≠ '.' := by
    rintro rfl
    revert start
    decide
  have letter : ¬isNameFirst c = true := by
    rcases start with rfl | digit
    · decide
    · simp [isNameFirst_of_isDigit digit]
  unfold token?
  simp only
  rw [if_neg sign, if_neg dot, if_neg letter, if_pos start, List.takeWhile_eq_self_iff.2 all,
    List.dropWhile_eq_nil_iff.2 all]

/-- The integer that digits write, with a minus in front or without. -/
def ofSignedDigits : List Char → Int
  | '-' :: digits => -(Decimal.ofDigits digits : Int)
  | digits => Decimal.ofDigits digits

theorem number?_of_isInteger {s : List Char} (integer : isInteger s = true)
    (whole : ∀ c ∈ s, c ≠ 'e' ∧ c ≠ 'E' ∧ c ≠ '.') (lower : minInt64 ≤ ofSignedDigits s)
    (upper : ofSignedDigits s ≤ maxInt64) : number? s = some (.integer (ofSignedDigits s)) := by
  have noExponent : s.takeWhile (fun c => c != 'e' && c != 'E') = s := by
    apply List.takeWhile_eq_self_iff.2
    intro c inside
    simp [whole c inside]
  have noPoint : s.takeWhile (· != '.') = s := by
    apply List.takeWhile_eq_self_iff.2
    intro c inside
    simp [whole c inside]
  unfold number?
  simp only [noExponent, noPoint, integer, Bool.not_true, Bool.false_eq_true, if_false, if_true]
  exact if_pos ⟨lower, upper⟩

theorem isUnsigned_toDigits (n : Nat) :
    isInteger.isUnsigned (Nat.toDigits 10 n) = true := by
  rcases Nat.eq_zero_or_pos n with rfl | positive
  · decide
  · have digits : (Nat.toDigits 10 n).all Char.isDigit = true :=
      List.all_eq_true.2 fun c inside => Decimal.isDigit_of_mem_toDigits inside
    simp [isInteger.isUnsigned, Nat.toDigits_ne_nil, Decimal.head?_toDigits_ne_zero positive,
      digits]

/-- The digits of a number are no part of a double. -/
theorem whole_of_mem_toDigits {n : Nat} {c : Char} (inside : c ∈ Nat.toDigits 10 n) :
    c ≠ 'e' ∧ c ≠ 'E' ∧ c ≠ '.' := by
  have digit := Decimal.isDigit_of_mem_toDigits inside
  refine ⟨?_, ?_, ?_⟩ <;> rintro rfl <;> revert digit <;> decide

theorem token?_natural {n : Nat} (upper : (n : Int) ≤ maxInt64) :
    token? (Nat.toDigits 10 n) = some (.integer n, []) := by
  have digits : ∀ c ∈ Nat.toDigits 10 n, c.isDigit = true :=
    fun c => Decimal.isDigit_of_mem_toDigits
  obtain ⟨c, rest, same⟩ := List.exists_cons_of_ne_nil (@Nat.toDigits_ne_nil n 10)
  have first : c.isDigit = true := digits c (by simp [same])
  have notMinus : c ≠ '-' := by
    rintro rfl
    revert first
    decide
  have integer : isInteger (Nat.toDigits 10 n) = true := by
    rw [same, isInteger]
    · rw [← same, isUnsigned_toDigits]
    · simpa using notMinus
  have value : ofSignedDigits (Nat.toDigits 10 n) = n := by
    rw [same, ofSignedDigits]
    · rw [← same, Decimal.ofDigits_toDigits]
    · simpa using notMinus
  have read : number? (Nat.toDigits 10 n) = some (.integer n) := by
    have lower : minInt64 ≤ (n : Int) := by
      have : minInt64 ≤ 0 := by decide
      omega
    rw [number?_of_isInteger integer (fun c => whole_of_mem_toDigits) (value ▸ lower)
      (value ▸ upper), value]
  rw [same, token?_digits (.inr first) fun d inside => digits d (by simp [same, inside]), ← same,
    read]
  rfl

theorem token?_negative {n : Nat} (lower : minInt64 ≤ -(n : Int)) :
    token? ('-' :: Nat.toDigits 10 n) = some (.integer (-n), []) := by
  have value : ofSignedDigits ('-' :: Nat.toDigits 10 n) = -(n : Int) := by
    rw [ofSignedDigits, Decimal.ofDigits_toDigits]
  have whole : ∀ c ∈ '-' :: Nat.toDigits 10 n, c ≠ 'e' ∧ c ≠ 'E' ∧ c ≠ '.' := by
    intro c inside
    rcases List.mem_cons.1 inside with rfl | inside
    · decide
    · exact whole_of_mem_toDigits inside
  have upper : -(n : Int) ≤ maxInt64 := by
    have : (0 : Int) ≤ maxInt64 := by decide
    omega
  have integer : isInteger ('-' :: Nat.toDigits 10 n) = true := isUnsigned_toDigits n
  rw [token?_digits (.inl rfl) fun d => Decimal.isDigit_of_mem_toDigits,
    number?_of_isInteger integer whole (value ▸ lower) (value ▸ upper), value]
  rfl

theorem token?_integer {i : Int} (lower : minInt64 ≤ i) (upper : i ≤ maxInt64) :
    token? (toString i).toList = some (.integer i, []) := by
  cases i with
  | ofNat n =>
      have text : (toString (Int.ofNat n)).toList = Nat.toDigits 10 n := by
        change (Nat.repr n).toList = _
        rw [Nat.repr_eq_ofList_toDigits, String.toList_ofList]
      rw [text]
      exact token?_natural upper
  | negSucc n =>
      have text : (toString (Int.negSucc n)).toList = '-' :: Nat.toDigits 10 (n + 1) := by
        change ("-" ++ Nat.repr (n + 1)).toList = _
        simp [Nat.repr_eq_ofList_toDigits]
      rw [text]
      exact token?_negative lower

end Reshape.Query
