/-
Module: Reshape.Proofs.Replay.Substitution
Purpose: substitution replaces the references of an argument once, and keeps all else.
Main exports: Trace.Template, Trace.Template.IsExact, Trace.Names, Json.Substituted,
  Trace.substitution_single_pass
Trusted boundary: none
-/
import Mathlib.Data.List.Forall2
import Reshape.Proofs.Text.Classes
import Reshape.Replay.Trace

/-!
# Substitution in one pass

Every text has exactly one reading as literal parts with references between them, in which
each reference has all the digits that follow its dollar sign and no literal part holds a
reference. Filling in puts the entries between the literal parts, and what is put in stays as
it is. Around the texts an argument keeps its structure.
-/

namespace Reshape

namespace Trace

/-! ### Texts with references -/

/-- A text as literal parts with references between them: a first literal part, and then the
digits of each reference with the literal part behind it. -/
structure Template where
  head : List Char
  tail : List (List Char × List Char)

/-- A text in which no dollar sign has a digit behind it. -/
def IsLiteral (text : List Char) : Prop :=
  ∀ before c after, text = before ++ '$' :: c :: after → Text.isDecimalDigit c = false

namespace Template

/-- The text that a template writes. -/
def text (template : Template) : List Char :=
  template.head ++ template.tail.flatMap fun part => '$' :: (part.1 ++ part.2)

/-- The text with the display form of the entry in the place of each reference. -/
def filled (trace : Trace) (template : Template) : List Char :=
  template.head ++ template.tail.flatMap fun part =>
    (trace.entry part.1).display.toList ++ part.2

/-- References are runs of digits as long as they can be, and there are none but these. -/
structure IsExact (template : Template) : Prop where
  literal : IsLiteral template.head ∧ ∀ part ∈ template.tail, IsLiteral part.2
  digits : ∀ part ∈ template.tail, part.1 ≠ [] ∧ ∀ c ∈ part.1, Text.isDecimalDigit c = true
  longest : ∀ part ∈ template.tail, ∀ c ∈ part.2.head?, Text.isDecimalDigit c = false

/-- The pieces that a template consists of. -/
def pieces (template : Template) : List Piece :=
  template.head.map .literal ++ template.tail.flatMap fun part =>
    .reference part.1 :: part.2.map .literal

end Template

/-- A text that is a dollar sign with decimal digits behind it and nothing else. -/
structure IsReference (text digits : List Char) : Prop where
  whole : text = '$' :: digits
  some : digits ≠ []
  all : ∀ c ∈ digits, Text.isDecimalDigit c = true

/-- The digits read as a number: only the ASCII ones do. -/
def ReadsAs (digits : List Char) (index : Nat) : Prop :=
  (∀ c ∈ digits, c.isDigit = true) ∧ Decimal.ofDigits digits = index

/-- What the digits of a reference name: the entry whose index they read as, and null if there
is none. -/
inductive Names (trace : Trace) (digits : List Char) : Json → Prop where
  | recorded {index : Nat} {entry : Json} (reads : ReadsAs digits index)
      (found : trace.entries[index]? = some entry) : Names trace digits entry
  | missing (beyond : ∀ index, ReadsAs digits index → trace.entries.length ≤ index) :
      Names trace digits .null

theorem names_entry (trace : Trace) (digits : List Char) :
    trace.Names digits (trace.entry digits) := by
  rw [entry]
  split
  · next all =>
    have reads : ReadsAs digits (Decimal.ofDigits digits) := ⟨List.all_eq_true.1 all, rfl⟩
    cases found : trace.entries[Decimal.ofDigits digits]? with
    | some entry => exact .recorded reads found
    | none =>
        refine .missing ?_
        rintro index ⟨-, rfl⟩
        exact List.getElem?_eq_none_iff.1 found
  · next other => exact .missing fun _ reads => absurd (List.all_eq_true.2 reads.1) other

/-! ### Cutting texts -/

theorem IsLiteral.of_cons {c : Char} {text : List Char} (plain : IsLiteral (c :: text)) :
    IsLiteral text :=
  fun before d after same => plain (c :: before) d after (by rw [same, List.cons_append])

/-- A literal part is cut into its characters, if no digit comes next. -/
theorem pieces_literal {literal rest : List Char} (plain : IsLiteral literal)
    (apart : ∀ c ∈ rest.head?, Text.isDecimalDigit c = false) :
    pieces (literal ++ rest) = literal.map .literal ++ pieces rest := by
  induction literal with
  | nil => rfl
  | cons c literal ih =>
      have noReference : ¬ (c = '$' ∧
          (literal ++ rest).takeWhile Text.isDecimalDigit ≠ []) := by
        rintro ⟨rfl, some⟩
        refine some (List.takeWhile_eq_nil_iff.2 fun inside => ?_)
        rw [List.get_eq_getElem, Bool.not_eq_true]
        cases literal with
        | nil => exact apart _ (by simp [List.head?_eq_getElem?, List.nil_append])
        | cons d literal => exact plain [] d literal rfl
      rw [List.cons_append, pieces, if_neg noReference, ih plain.of_cons]
      rfl

/-- A reference is cut off with all its digits, if no digit comes next. -/
theorem pieces_reference {digits rest : List Char} (some : digits ≠ [])
    (all : ∀ c ∈ digits, Text.isDecimalDigit c = true)
    (longest : ∀ c ∈ rest.head?, Text.isDecimalDigit c = false) :
    pieces ('$' :: (digits ++ rest)) = .reference digits :: pieces rest := by
  rw [pieces, Text.takeWhile_run all longest, Text.dropWhile_run all longest,
    if_pos ⟨rfl, some⟩]

namespace Template

variable {template other : Template}

/-- An exact template consists of the pieces into which its text is cut. -/
theorem pieces_text (exact : template.IsExact) : Trace.pieces template.text = template.pieces := by
  obtain ⟨head, tail⟩ := template
  obtain ⟨⟨plain, plains⟩, digits, longest⟩ := exact
  -- Behind a literal part comes nothing or the dollar sign of a reference.
  have apart : ∀ parts : List (List Char × List Char),
      ∀ c ∈ (parts.flatMap fun part => '$' :: (part.1 ++ part.2)).head?,
        Text.isDecimalDigit c = false := by
    rintro (_ | ⟨part, parts⟩) c first
    · cases first
    · cases first
      decide
  rw [text, pieces, pieces_literal plain (apart tail)]
  congr 1
  induction tail with
  | nil => rw [List.flatMap_nil, List.flatMap_nil, Trace.pieces]
  | cons part tail ih =>
      obtain ⟨run, literal⟩ := part
      obtain ⟨here, plains⟩ := List.forall_mem_cons.1 plains
      obtain ⟨⟨some, all⟩, digits⟩ := List.forall_mem_cons.1 digits
      obtain ⟨stops, longest⟩ := List.forall_mem_cons.1 longest
      rw [List.flatMap_cons, List.flatMap_cons, List.cons_append, List.cons_append,
        List.append_assoc, pieces_reference some all, pieces_literal here (apart tail),
        ih digits longest plain plains]
      · intro c first
        cases literal with
        | nil => exact apart tail c first
        | cons d literal => exact stops c first

/-- A text has an exact template. -/
theorem exists_isExact (text : List Char) : ∃ template : Template, template.text = text ∧
    template.IsExact := by
  fun_induction Trace.pieces text with
  | case1 => exact ⟨⟨[], []⟩, rfl, ⟨fun before c after => by simp, nofun⟩, nofun, nofun⟩
  | case2 c rest isReference ih =>
      obtain ⟨rfl, some⟩ := isReference
      obtain ⟨⟨head, tail⟩, whole, ⟨plain, plains⟩, digits, longest⟩ := ih
      refine ⟨⟨[], (rest.takeWhile Text.isDecimalDigit, head) :: tail⟩, ?_,
        ⟨fun before c after => by simp, List.forall_mem_cons.2 ⟨plain, plains⟩⟩,
        List.forall_mem_cons.2 ⟨⟨some, ?_⟩, digits⟩, List.forall_mem_cons.2 ⟨?_, longest⟩⟩
      · have split : rest.takeWhile Text.isDecimalDigit ++ rest.dropWhile Text.isDecimalDigit =
          rest := List.takeWhile_append_dropWhile
        rw [← whole] at split
        simpa [Template.text] using split
      · exact fun c inside => List.mem_takeWhile_imp inside
      · intro c first
        refine Text.head?_dropWhile _ rest c ?_
        rw [← whole, Template.text, List.head?_append, Option.mem_def.1 first]
        rfl
  | case3 c rest noReference ih =>
      obtain ⟨⟨head, tail⟩, rfl, ⟨plain, plains⟩, digits, longest⟩ := ih
      refine ⟨⟨c :: head, tail⟩, rfl, ⟨?_, plains⟩, digits, longest⟩
      rintro (_ | ⟨first, before⟩) d after same
      · obtain ⟨rfl, rfl⟩ := List.cons.inj same
        refine Bool.eq_false_iff.2 fun digit => noReference ⟨rfl, ?_⟩
        simp [Template.text, digit]
      · exact plain before d after (List.cons.inj same).2

/-! ### One reading -/

/-- Characters in front of references can be told from them. -/
theorem map_literal_append_inj {first second : List Char} {pieces others : List Piece}
    (behind : ∀ c, pieces.head? ≠ some (.literal c))
    (behind' : ∀ c, others.head? ≠ some (.literal c))
    (same : first.map .literal ++ pieces = second.map .literal ++ others) :
    first = second ∧ pieces = others := by
  induction first generalizing second with
  | nil =>
      cases second with
      | nil => exact ⟨rfl, same⟩
      | cons c second => exact absurd (congrArg List.head? same) (behind c)
  | cons c first ih =>
      cases second with
      | nil => exact absurd (congrArg List.head? same).symm (behind' c)
      | cons d second =>
          obtain ⟨here, later⟩ := List.cons.inj same
          obtain ⟨rfl, rest⟩ := ih later
          cases here
          exact ⟨rfl, rest⟩

/-- The pieces of a template determine it. -/
theorem pieces_injective (same : template.pieces = other.pieces) : template = other := by
  obtain ⟨head, tail⟩ := template
  obtain ⟨head', tail'⟩ := other
  have behind : ∀ (parts : List (List Char × List Char)) (c : Char),
      (parts.flatMap fun part => Piece.reference part.1 :: part.2.map .literal).head? ≠
        some (.literal c) := by
    rintro (_ | ⟨part, parts⟩) c <;> simp
  obtain ⟨rfl, tails⟩ := map_literal_append_inj (behind tail) (behind tail') same
  clear same
  congr 1
  induction tail generalizing tail' with
  | nil =>
      cases tail' with
      | nil => rfl
      | cons part tail' => cases tails
  | cons part tail ih =>
      cases tail' with
      | nil => cases tails
      | cons part' tail' =>
          obtain ⟨digits, literal⟩ := part
          obtain ⟨digits', literal'⟩ := part'
          obtain ⟨here, behindIt⟩ := List.cons.inj tails
          obtain ⟨rfl, later⟩ := map_literal_append_inj (behind tail) (behind tail') behindIt
          cases here
          rw [ih tail' later]

/-- A text has one exact template and no other. -/
theorem existsUnique_isExact (text : List Char) :
    ∃! template : Template, template.text = text ∧ template.IsExact := by
  obtain ⟨template, whole, exact⟩ := exists_isExact text
  refine ⟨template, ⟨whole, exact⟩, ?_⟩
  rintro other ⟨same, exact'⟩
  exact pieces_injective (by rw [← pieces_text exact', ← pieces_text exact, same, whole])

/-- Filling in puts the entries between the literal parts. -/
theorem fill_eq_filled (exact : template.IsExact) (trace : Trace) {text : String}
    (whole : template.text = text.toList) :
    trace.fill text = String.ofList (template.filled trace) := by
  have each : ∀ literal : List Char, (literal.map Piece.literal).flatMap trace.render = literal := by
    intro literal
    induction literal with
    | nil => rfl
    | cons c literal ih => rw [List.map_cons, List.flatMap_cons, ih]; rfl
  rw [fill, ← whole, pieces_text exact, pieces, filled, List.flatMap_append, each,
    List.flatMap_assoc]
  simp only [List.flatMap_cons, each]
  rfl

end Template

/-- The digits of a text that is a reference as a whole are found. -/
theorem reference?_eq_some {text digits : List Char} :
    reference? text = some digits ↔ IsReference text digits := by
  constructor
  · intro found
    rw [reference?] at found
    split at found
    · next cut =>
      cases found
      obtain ⟨template, rfl, exact⟩ := Template.exists_isExact text
      rw [Template.pieces_text exact] at cut
      obtain rfl : template = ⟨[], [(digits, [])]⟩ := Template.pieces_injective cut
      obtain ⟨some, all⟩ := exact.digits _ List.mem_cons_self
      exact ⟨by simp [Template.text], some, all⟩
    · cases found
  · rintro ⟨rfl, some, all⟩
    have cut : pieces ('$' :: (digits ++ [])) = .reference digits :: pieces [] :=
      pieces_reference some all nofun
    rw [List.append_nil] at cut
    rw [reference?, cut, pieces]

/-! ### Arguments -/

/-- What resolving makes of a text. -/
structure Resolves (trace : Trace) (text : String) (result : Json) : Prop where
  reference : ∀ digits, IsReference text.toList digits → trace.Names digits result
  other : (∀ digits, ¬ IsReference text.toList digits) → result = .string text

/-- What interpolating makes of a text. -/
structure Interpolates (trace : Trace) (text : String) (result : Json) : Prop where
  reference : ∀ digits, IsReference text.toList digits → trace.Names digits result
  other : (∀ digits, ¬ IsReference text.toList digits) →
    ∃ template : Template, template.text = text.toList ∧ template.IsExact ∧
      result = .string (String.ofList (template.filled trace))

end Trace

namespace Json

/-- A value with every text in it replaced as `leaf` says. Arrays keep their length, objects
their keys in their order, and all other values are kept. -/
inductive Substituted (leaf : String → Json → Prop) : Json → Json → Prop where
  | text {text : String} {result : Json} (becomes : leaf text result) :
      Substituted leaf (.string text) result
  | array {items results : List Json} (each : List.Forall₂ (Substituted leaf) items results) :
      Substituted leaf (.array items) (.array results)
  | object {members results : Members} (keys : members.map Prod.fst = results.map Prod.fst)
      (each : List.Forall₂ (Substituted leaf) (members.map Prod.snd) (results.map Prod.snd)) :
      Substituted leaf (.object members) (.object results)
  | null : Substituted leaf .null .null
  | bool (value : Bool) : Substituted leaf (.bool value) (.bool value)
  | number (value : Number) : Substituted leaf (.number value) (.number value)

end Json

namespace Trace

variable {trace : Trace}

mutual

theorem substituted_substitute {other : String → String} {leaf : String → Json → Prop}
    (becomes : ∀ text : String, leaf text (trace.substitute other (.string text))) :
    ∀ argument : Json, Json.Substituted leaf argument (trace.substitute other argument)
  | .string text => .text (becomes text)
  | .array items => by
      rw [substitute]
      exact .array (substituted_items becomes items)
  | .object members => by
      rw [substitute]
      obtain ⟨keys, each⟩ := substituted_members becomes members
      exact .object keys each
  | .null => .null
  | .bool value => .bool value
  | .number value => .number value

theorem substituted_items {other : String → String} {leaf : String → Json → Prop}
    (becomes : ∀ text : String, leaf text (trace.substitute other (.string text))) :
    ∀ items : List Json,
      List.Forall₂ (Json.Substituted leaf) items (trace.substituteItems other items)
  | [] => .nil
  | item :: rest => by
      rw [substituteItems]
      exact .cons (substituted_substitute becomes item) (substituted_items becomes rest)

theorem substituted_members {other : String → String} {leaf : String → Json → Prop}
    (becomes : ∀ text : String, leaf text (trace.substitute other (.string text))) :
    ∀ members : Members,
      members.map Prod.fst = (trace.substituteMembers other members).map Prod.fst ∧
      List.Forall₂ (Json.Substituted leaf) (members.map Prod.snd)
        ((trace.substituteMembers other members).map Prod.snd)
  | [] => ⟨rfl, .nil⟩
  | (key, value) :: rest => by
      rw [substituteMembers]
      obtain ⟨keys, each⟩ := substituted_members becomes rest
      exact ⟨congrArg (key :: ·) keys, .cons (substituted_substitute becomes value) each⟩

end

/-- A text that is a reference is replaced by the entry it names, any other one as told. -/
theorem substitute_string (trace : Trace) (other : String → String) (text : String) :
    (∃ digits, IsReference text.toList digits ∧
      trace.substitute other (.string text) = trace.entry digits) ∨
    (∀ digits, ¬ IsReference text.toList digits) ∧
      trace.substitute other (.string text) = .string (other text) := by
  cases found : reference? text.toList with
  | some digits => exact .inl ⟨digits, reference?_eq_some.1 found, by simp [substitute, found]⟩
  | none =>
      refine .inr ⟨fun digits isReference => ?_, by simp [substitute, found]⟩
      rw [reference?_eq_some.2 isReference] at found
      cases found

theorem IsReference.digits_eq {text digits digits' : List Char} (first : IsReference text digits)
    (second : IsReference text digits') : digits = digits' :=
  (List.cons.inj (first.whole.symm.trans second.whole)).2

/-- Substitution goes over an argument once, and keeps its structure. Resolving replaces every
text in it that is a reference as a whole by the entry that its digits name, or by null if they
name none, and keeps every other text. Interpolating replaces those as well, and of every other
text it keeps the literal parts and replaces the references between them by the display forms of
their entries; into these parts each text falls in one way, with references as long as possible.
What is put in stands in the result as it is. -/
theorem substitution_single_pass (trace : Trace) (argument : Json) :
    Json.Substituted trace.Resolves argument (trace.resolve argument) ∧
      Json.Substituted trace.Interpolates argument (trace.interpolate argument) ∧
      (∀ digits, trace.Names digits (trace.entry digits)) ∧
      ∀ text, ∃! template : Template, template.text = text ∧ template.IsExact := by
  refine ⟨substituted_substitute (fun text => ?_) argument,
    substituted_substitute (fun text => ?_) argument, trace.names_entry,
    Template.existsUnique_isExact⟩
  · rcases trace.substitute_string id text with ⟨digits, here, gives⟩ | ⟨none, gives⟩
    · rw [gives]
      exact ⟨fun digits' here' => here.digits_eq here' ▸ trace.names_entry digits,
        fun none => absurd here (none digits)⟩
    · rw [gives]
      exact ⟨fun digits here => absurd here (none digits), fun _ => rfl⟩
  · rcases trace.substitute_string trace.fill text with
      ⟨digits, here, gives⟩ | ⟨none, gives⟩
    · rw [gives]
      exact ⟨fun digits' here' => here.digits_eq here' ▸ trace.names_entry digits,
        fun none => absurd here (none digits)⟩
    · rw [gives]
      obtain ⟨template, whole, exact⟩ := Template.exists_isExact text.toList
      exact ⟨fun digits here => absurd here (none digits), fun _ =>
        ⟨template, whole, exact, by rw [Template.fill_eq_filled exact trace whole]⟩⟩

/-- Entries that look like references are put in as they are; a digit of another script belongs
to a reference, which then names nothing. -/
example :
    let trace : Trace := ⟨[.string "$1", .string "$0", .bool true]⟩
    trace.resolve (.array [.string "$0", .string "$$1", .object [("$1", .string "$01")]]) =
        .array [.string "$1", .string "$$1", .object [("$1", .string "$0")]] ∧
      trace.interpolate (.array [.string "$$0$1", .string "$1٢$2"]) =
        .array [.string "$$1$0", .string "nulltrue"] := by
  cbv

end Trace

end Reshape
