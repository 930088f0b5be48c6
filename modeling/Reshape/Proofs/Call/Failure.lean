/-
Module: Reshape.Proofs.Call.Failure
Purpose: which calls fail, over the functions that every registry starts with.
Main exports: Builtin.AsksFor, Dispatcher.FailingCall, Dispatcher.fails_dispatch_builtin
Trusted boundary: the library of patterns, of which nothing is assumed, and the parser of JSON
-/
import Mathlib.Algebra.Ring.Int.Defs
import Mathlib.Algebra.Ring.Nat
import Mathlib.Data.List.Basic
import Reshape.Call.Dispatch
import Reshape.Proofs.Except

/-!
# The calls that fail

A call is answered by the first of three tiers that knows its name, so it fails when that
tier does. Most functions have a value for whatever they are given. Failures come from the
namespaces that are used through a member only, from text that has to be read as JSON or as
a pattern, and from strings and arrays that would become too long. Which patterns there are
is for the library of patterns to say: all of this holds for any library.
-/

namespace Reshape

open Dispatcher (dropDiscriminator)

/-! ### How a namespace is used -/

namespace Invocation

/-- A member is used when the first argument is a text other than `"new"`. -/
theorem split_ne_static {args : List Json} :
    (∀ member, (split args).1 ≠ .static member) ↔
      args.head?.bind Json.string? = none ∨ args.head? = some (.string "new") := by
  cases args with
  | nil => simp [split]
  | cons first rest =>
      cases first with
      | string member =>
          by_cases new : member = "new"
          · simp [split, new]
          · simp [split, new, Json.string?]
      | _ => simp [split, Json.string?]

theorem split_eq_static {args : List Json} {member : String} (named : member ≠ "new") :
    (split args).1 = .static member ↔ args.head? = some (.string member) := by
  cases args with
  | nil => simp [split]
  | cons first rest =>
      cases first with
      | string other =>
          by_cases new : other = "new"
          · simp [split, new, named.symm]
          · simp [split, new]
      | _ => simp [split]

/-- One argument is left without naming a member when it stands alone or behind a null or
`"new"`; a first argument that is null or a text is never left. -/
theorem split_eq_single {args : List Json} {number : Json.Number} :
    ((∀ member, (split args).1 ≠ .static member) ∧ (split args).2 = [.number number]) ↔
      args = [.number number] ∨ args = [.null, .number number] ∨
        args = [.string "new", .number number] := by
  cases args with
  | nil => simp [split]
  | cons first rest =>
      cases first with
      | string other =>
          by_cases new : other = "new"
          · simp [split, new]
          · simp [split, new]
      | _ => simp [split]

end Invocation

/-! ### Namespaces -/

theorem fails_builtLength {requested : Nat} {what : String} :
    Fails (builtLength requested what) ↔ 2 ^ 24 < requested := by
  rw [builtLength, CallError.maxBuiltLength]
  split
  · next short => simpa using short
  · next long => simpa using long

/-- An answer that fails. -/
def FailsIn (answer : Option (Except CallError Json)) : Prop :=
  ∃ result, answer = some result ∧ Fails result

@[simp] theorem failsIn_some {result : Except CallError Json} :
    FailsIn (some result) ↔ Fails result := by
  simp [FailsIn]

@[simp] theorem not_failsIn_none : ¬ FailsIn none := by
  simp [FailsIn]

/-- A tier that only gives values does not fail. -/
@[simp] theorem not_failsIn_map_ok {α : Type} (found : Option α) (f : α → Json) :
    ¬ FailsIn (found.map fun value => .ok (f value)) := by
  cases found <;> simp

namespace Namespace

/-- An array cannot be made from a single number that is no length. -/
theorem fails_arrayOf {args : List Json} :
    Fails (arrayOf args) ↔
      ∃ number : Json.Number, args = [.number number] ∧
        ∀ length : Nat, number.toInt? = some (length : Int) → 2 ^ 24 < length := by
  rw [arrayOf.eq_def]
  split
  · next number =>
      cases whole : number.toInt? with
      | none => simp [whole]
      | some i =>
          simp only [List.cons.injEq, Json.number.injEq, and_true, exists_eq_left', whole,
            Option.some.injEq]
          split
          · next negative =>
              simp only [fails_error, true_iff]
              omega
          · next natural =>
              rw [fails_map, fails_builtLength]
              constructor
              · intro long length same
                omega
              · intro long
                exact long i.toNat (by omega)
  · next other =>
      simp only [not_fails_ok, false_iff]
      rintro ⟨number, single, -⟩
      exact other number single

theorem failsIn_math? {use : Invocation} {args : List Json} :
    FailsIn (math? use args) ↔ ∀ member, use ≠ .static member := by
  cases use with
  | static member => simp [math?]
  | construct | call => simp [math?]

theorem failsIn_json? {use : Invocation} {args : List Json} :
    FailsIn (json? use args) ↔
      (∀ member, use ≠ .static member) ∨
        use = .static "parse" ∧ Json.parse? (arg args 0).display = none := by
  rw [json?.eq_def]
  split
  · simp
  · cases Json.parse? (arg args 0).display <;> simp
  · simp_all
  · simp_all

theorem failsIn_array? {use : Invocation} {args : List Json} :
    FailsIn (array? use args) ↔ (∀ member, use ≠ .static member) ∧ Fails (arrayOf args) := by
  rw [array?.eq_def]
  split <;> simp_all

theorem failsIn_find? {now : Calendar.Moment} {name : String} {args : List Json}
    (notDate : name ≠ "Date") :
    FailsIn (find? now name args) ↔
      (name = "Math" ∨ name = "JSON") ∧ (∀ member, (Invocation.split args).1 ≠ .static member) ∨
      name = "JSON" ∧ (Invocation.split args).1 = .static "parse" ∧
        Json.parse? (arg (Invocation.split args).2 0).display = none ∨
      name = "Array" ∧ (∀ member, (Invocation.split args).1 ≠ .static member) ∧
        Fails (arrayOf (Invocation.split args).2) := by
  simp only [find?]
  generalize Invocation.split args = split
  obtain ⟨use, rest⟩ := split
  split
  · exact absurd rfl notDate
  · simpa using not_failsIn_map_ok (number? use rest) id
  · simpa using not_failsIn_map_ok (string? use rest) id
  · simpa using not_failsIn_map_ok (boolean? use rest) id
  · simp [failsIn_array?]
  · simpa using not_failsIn_map_ok (object? use rest) id
  · simp [failsIn_math?]
  · simp [failsIn_json?]
  · simp_all

end Namespace

/-! ### Registered functions -/

namespace Builtin

/-- A registered function that has a value for everything. -/
def Total (entry : Registered) : Prop :=
  ∀ value args, ¬ Fails (entry.run value args)

theorem total_plain (f : Json → List Json → Json) : Total (plain f) := fun _ _ => not_fails_ok _

theorem total_onNull (f : Json → List Json → Json) : Total (onNull f) := fun _ _ => not_fails_ok _

theorem total_arithmeticOf (op : Float → Float → Float) : Total (arithmeticOf op) :=
  fun _ _ => not_fails_ok _

theorem total_conditionalOf (test : Test) : Total (conditionalOf test) :=
  fun _ _ => not_fails_ok _

theorem total_truthOf (f : Json → List Json → Bool) : Total (truthOf f) :=
  fun _ _ => not_fails_ok _

/-- All functions but `filter` have a value for everything. -/
theorem total_of_mem_builtin [Pattern.Library] : ∀ entry ∈ Registry.builtin,
    entry.1 ≠ "filter" → Total entry.2 := by
  simp [Registry.builtin, collections, comparisons, arithmetic, utilities, naming, onItems, onText,
    total_plain, total_onNull, total_arithmeticOf, total_conditionalOf, total_truthOf]

theorem find?_filter [Pattern.Library] : Registry.builtin.find? "filter" = some ⟨filter, false⟩ := rfl

/-- What a text asks the library for. Behind a slash at the start the last slash ends the
pattern, and the letters after it are options; any other text is a pattern as a whole. -/
inductive AsksFor : String → Pattern.Options → String → Prop where
  | delimited {text flags : String} (last : '/' ∉ flags.toList) :
      AsksFor ("/" ++ text ++ "/" ++ flags)
        { anyCase := 'i' ∈ flags.toList
          multiLine := 'm' ∈ flags.toList
          dotAll := 's' ∈ flags.toList
          extended := 'x' ∈ flags.toList } text
  | bare {source : String} (undelimited : ∀ text flags, source ≠ "/" ++ text ++ "/" ++ flags) :
      AsksFor source {} source

theorem patternRequest_of_asksFor {source text : String} {options : Pattern.Options}
    (asks : AsksFor source options text) : patternRequest source = (options, text) := by
  cases asks with
  | @delimited _ flags last =>
      have letters : ("/" ++ text ++ "/" ++ flags).toList =
          '/' :: (text.toList ++ '/' :: flags.toList) := by simp
      simp [patternRequest, letters, Text.cutLast?_append last]
  | bare undelimited =>
      rw [patternRequest]
      split
      · next rest letters =>
          have uncut : Text.cutLast? '/' rest = none := by
            refine Option.eq_none_iff_forall_ne_some.2 fun parts cut => ?_
            obtain ⟨rfl, -⟩ := Text.eq_append_of_cutLast? cut
            refine undelimited (String.ofList parts.1) (String.ofList parts.2) ?_
            simp [← String.toList_inj, letters]
          rw [uncut]
      · rfl

theorem exists_asksFor (source : String) : ∃ options text, AsksFor source options text := by
  by_cases delimited : ∃ text flags, source = "/" ++ text ++ "/" ++ flags
  · obtain ⟨text, flags, rfl⟩ := delimited
    -- the letters behind the second slash may hold slashes of their own
    have slash : Text.cutLast? '/' (text.toList ++ '/' :: flags.toList) ≠ none := by
      simp [Text.cutLast?_eq_none_iff]
    obtain ⟨⟨front, back⟩, cut⟩ := Option.ne_none_iff_exists'.1 slash
    obtain ⟨parted, last⟩ := Text.eq_append_of_cutLast? cut
    have same : "/" ++ text ++ "/" ++ flags =
        "/" ++ String.ofList front ++ "/" ++ String.ofList back := by
      simp [← String.toList_inj, parted]
    rw [same]
    exact ⟨_, _, .delimited (by simpa using last)⟩
  · exact ⟨_, _, .bare fun text flags same => delimited ⟨text, flags, same⟩⟩

/-- The pattern is cut out of a text as `AsksFor` says. -/
theorem patternRequest_eq_iff {source text : String} {options : Pattern.Options} :
    patternRequest source = (options, text) ↔ AsksFor source options text := by
  refine ⟨fun same => ?_, patternRequest_of_asksFor⟩
  obtain ⟨asked, whole, asks⟩ := exists_asksFor source
  rw [patternRequest_of_asksFor asks] at same
  cases same
  exact asks

/-- The library refuses the pattern that a text asks for. -/
def PatternRefused [Pattern.Library] (source : String) : Prop :=
  ∃ options text, AsksFor source options text ∧ Pattern.Library.build? options text = none

theorem patternRefused_iff [Pattern.Library] {source : String} :
    PatternRefused source ↔
      Pattern.Library.build? (patternRequest source).1 (patternRequest source).2 = none := by
  simp [PatternRefused, ← patternRequest_eq_iff, Prod.ext_iff]

theorem fails_filter [Pattern.Library] {value : Json} {args : List Json} :
    Fails (filter value args) ↔
      ∃ items, value = .array items ∧
        ∀ source, args.head? = some (.string source) → PatternRefused source := by
  cases value with
  | array items =>
      rw [filter, ← List.head?_eq_getElem?]
      cases given : args.head?.bind Json.string? with
      | none =>
          refine iff_of_true (fails_error _) ⟨items, rfl, fun source first => ?_⟩
          simp [first, Json.string?] at given
      | some source =>
          obtain ⟨value, first, text⟩ := Option.bind_eq_some_iff.1 given
          obtain rfl : value = .string source := by
            cases value <;> simp [Json.string?] at text
            rw [text]
          cases built : Pattern.Library.build? (patternRequest source).1
            (patternRequest source).2 <;> simp [first, patternRefused_iff, built]
  | _ => simp [filter]

/-- A registered function fails exactly when it is `filter` and does so. -/
theorem fails_call [Pattern.Library] {name : String} {value : Json} {args : List Json}
    (known : Registry.builtin.has name = true) :
    Fails (Registry.builtin.call name value args) ↔
      name = "filter" ∧ Fails (filter value args) := by
  obtain ⟨entry, found⟩ := Option.isSome_iff_exists.1 known
  rw [Registry.call, found]
  by_cases isFilter : name = "filter"
  · subst isFilter
    rw [find?_filter, Option.some.injEq] at found
    simp [← found]
  · obtain ⟨front, back, listed, -⟩ := List.lookup_eq_some_iff.1 found
    have inside : (name, entry) ∈ Registry.builtin := by simp [listed]
    simpa [isFilter] using total_of_mem_builtin _ inside isFilter value args

end Builtin

/-! ### Members -/

namespace Member

variable {text : String} {args : List Json}

theorem fails_pad {atStart : Bool} :
    Fails (pad atStart text.toList args) ↔
      (text.length : Int) < (Json.index? args.head?).getD 0 ∧
        2 ^ 24 < (Json.index? args.head?).getD 0 ∧ (textArg? args 1).getD " " ≠ "" := by
  rw [pad, String.length_toList, ← List.head?_eq_getElem?]
  split
  · next empty =>
      have blank : (textArg? args 1).getD " " = "" := String.toList_eq_nil_iff.1 empty
      simp [blank]
  · next filled =>
      have filled : (textArg? args 1).getD " " ≠ "" := fun blank => filled (by simp [blank])
      split
      · next short =>
          simp only [not_fails_ok, false_iff]
          omega
      · next long =>
          rw [fails_map, fails_builtLength]
          simp only [filled, ne_eq, not_false_eq_true, and_true]
          omega

theorem fails_repeated :
    Fails (repeated text.toList args) ↔
      (Json.index? args.head?).getD 0 < 0 ∨
        2 ^ 24 < (Json.index? args.head?).getD 0 * text.length := by
  rw [repeated, String.length_toList, ← List.head?_eq_getElem?]
  split
  · next negative => simp [negative]
  · next natural =>
      split
      · next nothing =>
          rcases nothing with empty | zero
          · simp [String.toList_eq_nil_iff.1 empty, natural]
          · simp [zero]
      · next long =>
          rw [fails_map, fails_builtLength]
          obtain ⟨count, same⟩ := Int.eq_ofNat_of_zero_le (Int.not_lt.1 natural)
          rw [same, Int.toNat_natCast, Nat.mul_comm]
          omega

/-- Only a text has members that fail: it may be repeated or filled up too far. -/
theorem failsIn_find? {value : Json} {name : String} {args : List Json} :
    FailsIn (find? value name args) ↔
      ∃ text, value = .string text ∧
        (name = "repeat" ∧ Fails (repeated text.toList args) ∨
          ∃ atStart, name = (if atStart then "padStart" else "padEnd") ∧
            Fails (pad atStart text.toList args)) := by
  cases value with
  | string text =>
      rw [find?, ofText?.eq_def]
      dsimp only
      split <;> simp_all
  | array items => simpa [find?] using not_failsIn_map_ok (ofItems? items name args) id
  | number n => simpa [find?] using not_failsIn_map_ok (ofNumber? n name args) id
  | bool b =>
      rw [find?]
      split <;> simp
  | null | object _ => simp [find?]

end Member

/-! ### Calls -/

namespace Dispatcher

/-- The integer that a call gives first, zero when it gives none. -/
def countOf (args : List Json) : Int :=
  (Json.index? (dropDiscriminator args).head?).getD 0

/-- The text that a call gives second, a blank when it gives none. -/
def fillOf (args : List Json) : String :=
  (Member.textArg? (dropDiscriminator args) 1).getD " "

/-- The calls that fail, over the functions that every registry starts with and dates apart. -/
inductive FailingCall [Pattern.Library] : String → Json → List Json → Prop where
  /-- `Math` and `JSON` are used through a member, which the first argument has to name. -/
  | undirected {name : String} {value : Json} {args : List Json}
      (space : name = "Math" ∨ name = "JSON")
      (nameless : args.head?.bind Json.string? = none ∨ args.head? = some (.string "new")) :
      FailingCall name value args
  /-- Text to be read that is no JSON. -/
  | malformedJson {value : Json} {rest : List Json}
      (unread : Json.parse? (rest.head?.getD .null).display = none) :
      FailingCall "JSON" value (.string "parse" :: rest)
  /-- A single number that is no natural number, or too large, as the length of an array. -/
  | arrayLength {value : Json} {args : List Json} {number : Json.Number}
      (single : args = [.number number] ∨ args = [.null, .number number] ∨
        args = [.string "new", .number number])
      (refused : ∀ length : Nat, number.toInt? = some (length : Int) → 2 ^ 24 < length) :
      FailingCall "Array" value args
  /-- A pattern for the items of an array that is no text, or one that the library refuses. -/
  | pattern {items args : List Json}
      (refused : ∀ source, (dropDiscriminator args).head? = some (.string source) →
        Builtin.PatternRefused source) : FailingCall "filter" (.array items) args
  /-- A text repeated a negative number of times, or too often. -/
  | repetition {text : String} {args : List Json}
      (refused : countOf args < 0 ∨ 2 ^ 24 < countOf args * text.length) :
      FailingCall "repeat" (.string text) args
  /-- A text filled up to more than it has and may have. -/
  | padding {name text : String} {args : List Json} (side : name = "padStart" ∨ name = "padEnd")
      (longer : (text.length : Int) < countOf args) (tooLong : 2 ^ 24 < countOf args)
      (filled : fillOf args ≠ "") : FailingCall name (.string text) args

/-- A call fails when the tier does that answers it. -/
theorem fails_dispatch {d : Dispatcher} {name : String} {value : Json} {args : List Json} :
    Fails (d.dispatch name value args) ↔
      FailsIn (Namespace.find? d.now name args) ∨
      Namespace.find? d.now name args = none ∧
        (d.registry.has name = true ∧ Fails (d.registry.call name value (dropDiscriminator args)) ∨
          d.registry.has name = false ∧
            FailsIn (Member.find? value name (dropDiscriminator args))) := by
  rw [dispatch]
  cases Namespace.find? d.now name args with
  | some result => simp
  | none =>
      cases known : d.registry.has name with
      | true => simp
      | false => cases Member.find? value name (dropDiscriminator args) <;> simp

variable [Pattern.Library] {now : Calendar.Moment} {name : String} {value : Json}
  {args : List Json}

theorem FailingCall.of_fails (notDate : name ≠ "Date")
    (fails : Fails (dispatch ⟨.builtin, now⟩ name value args)) : FailingCall name value args := by
  rw [fails_dispatch, Namespace.failsIn_find? notDate] at fails
  obtain (⟨space, direction⟩ | ⟨rfl, parses, unread⟩ | ⟨rfl, nameless, refused⟩) |
    ⟨-, ⟨known, fails⟩ | ⟨-, fails⟩⟩ := fails
  · exact .undirected space (Invocation.split_ne_static.1 direction)
  · obtain ⟨rest, rfl⟩ := List.head?_eq_some_iff.1 ((Invocation.split_eq_static (by decide)).1 parses)
    refine .malformedJson ?_
    simpa [Invocation.split, Namespace.arg, List.head?_eq_getElem?] using unread
  · obtain ⟨number, single, refused⟩ := Namespace.fails_arrayOf.1 refused
    exact .arrayLength (Invocation.split_eq_single.1 ⟨nameless, single⟩) refused
  · obtain ⟨rfl, fails⟩ := (Builtin.fails_call known).1 fails
    obtain ⟨items, rfl, refused⟩ := Builtin.fails_filter.1 fails
    exact .pattern refused
  · obtain ⟨text, rfl, ⟨rfl, refused⟩ | ⟨atStart, rfl, refused⟩⟩ := Member.failsIn_find?.1 fails
    · exact .repetition (Member.fails_repeated.1 refused)
    · obtain ⟨longer, tooLong, filled⟩ := Member.fails_pad.1 refused
      exact .padding (by cases atStart <;> simp) longer tooLong filled

/-- A member of a text fails its call when no namespace and no function has its name. -/
theorem fails_dispatch_of_member {text : String} (space : Namespace.find? now name args = none)
    (unregistered : Registry.builtin.has name = false)
    (fails : FailsIn (Member.find? (.string text) name (dropDiscriminator args))) :
    Fails (dispatch ⟨.builtin, now⟩ name (.string text) args) :=
  fails_dispatch.2 (.inr ⟨space, .inr ⟨unregistered, fails⟩⟩)

theorem FailingCall.fails (notDate : name ≠ "Date") (call : FailingCall name value args) :
    Fails (dispatch ⟨.builtin, now⟩ name value args) := by
  have inSpace : FailsIn (Namespace.find? now name args) →
      Fails (dispatch ⟨.builtin, now⟩ name value args) := fun fails => fails_dispatch.2 (.inl fails)
  rw [Namespace.failsIn_find? notDate] at inSpace
  cases call with
  | undirected space nameless => exact inSpace (.inl ⟨space, Invocation.split_ne_static.2 nameless⟩)
  | malformedJson unread =>
      refine inSpace (.inr (.inl ⟨rfl, by simp [Invocation.split], ?_⟩))
      simpa [Invocation.split, Namespace.arg, List.head?_eq_getElem?] using unread
  | arrayLength single refused =>
      obtain ⟨nameless, single⟩ := Invocation.split_eq_single.2 single
      exact inSpace (.inr (.inr ⟨rfl, nameless, Namespace.fails_arrayOf.2 ⟨_, single, refused⟩⟩))
  | @pattern items args refused =>
      have fails : Fails (Builtin.filter (.array items) (dropDiscriminator args)) :=
        Builtin.fails_filter.2 ⟨items, rfl, refused⟩
      exact fails_dispatch.2 (.inr ⟨rfl, .inl ⟨rfl, (Builtin.fails_call rfl).2 ⟨rfl, fails⟩⟩⟩)
  | repetition refused =>
      have fails := Member.fails_repeated.2 refused
      exact fails_dispatch_of_member rfl rfl (Member.failsIn_find?.2 ⟨_, rfl, .inl ⟨rfl, fails⟩⟩)
  | @padding _ text args side longer tooLong filled =>
      have fails (atStart : Bool) : Fails (Member.pad atStart text.toList (dropDiscriminator args)) :=
        Member.fails_pad.2 ⟨longer, tooLong, filled⟩
      rcases side with rfl | rfl
      · exact fails_dispatch_of_member rfl rfl (Member.failsIn_find?.2
          ⟨_, rfl, .inr ⟨true, rfl, fails true⟩⟩)
      · exact fails_dispatch_of_member rfl rfl (Member.failsIn_find?.2
          ⟨_, rfl, .inr ⟨false, rfl, fails false⟩⟩)

theorem fails_dispatch_builtin (notDate : name ≠ "Date") :
    Fails (dispatch ⟨.builtin, now⟩ name value args) ↔ FailingCall name value args :=
  ⟨FailingCall.of_fails notDate, FailingCall.fails notDate⟩

end Dispatcher

end Reshape
