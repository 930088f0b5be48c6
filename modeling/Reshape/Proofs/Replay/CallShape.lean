/-
Module: Reshape.Proofs.Replay.CallShape
Purpose: when the data of a response decide how many arguments a function gets and how a
  namespace is used.
Main exports: Trace.leadingReference?, Replay.ReceivesAll, Replay.ShapeAsWritten,
  Replay.shapeAsWritten_iff
Trusted boundary: none
-/
import Mathlib.Data.List.Basic
import Reshape.Pattern.Reader
import Reshape.Proofs.Tree.Identical
import Reshape.Replay.Run

/-!
# The shape of a call

A null in front of the arguments is dropped, and a namespace is told by its first argument
how it is used. Both are looked at after the references have been replaced. An entry of the
trace can therefore stand where the program says null, `"new"` or a member, and it does so
when the first argument is a reference as a whole.
-/

namespace Reshape

open Dispatcher (dropDiscriminator)

namespace Trace

variable {trace : Trace}

/-- A reference starts with a dollar sign. -/
theorem head?_of_reference? {text digits : List Char} (found : reference? text = some digits) :
    text.head? = some '$' := by
  cases text with
  | nil => simp [reference?, pieces] at found
  | cons c rest =>
      by_cases dollar : c = '$' ∧ rest.takeWhile Text.isDecimalDigit ≠ []
      · rw [dollar.1, List.head?_cons]
      · rw [reference?, pieces, if_neg dollar] at found
        simp at found

theorem resolve_of_reference? {text : String} {digits : List Char}
    (found : reference? text.toList = some digits) :
    trace.resolve (.string text) = trace.entry digits := by
  simp [resolve, substitute, found]

theorem resolve_of_no_reference {text : String} (plain : reference? text.toList = none) :
    trace.resolve (.string text) = .string text := by
  simp [resolve, substitute, plain]

/-- The digits of the first argument when it is a reference as a whole. -/
def leadingReference? : List Json → Option (List Char)
  | .string text :: _ => reference? text.toList
  | _ => none

theorem leadingReference?_eq_some {args : List Json} {digits : List Char} :
    leadingReference? args = some digits ↔
      ∃ text rest, args = .string text :: rest ∧ reference? text.toList = some digits := by
  match args with
  | .string text :: rest => simp [leadingReference?]
  | [] | .null :: _ | .bool _ :: _ | .number _ :: _ | .array _ :: _ | .object _ :: _ =>
      simp [leadingReference?]

end Trace

open Trace (leadingReference?)

/-! ### Namespaces -/

namespace Invocation

variable {trace : Trace} {args : List Json}

/-- Without a leading reference a namespace is used as the written arguments say, and gets
what they leave, resolved. -/
theorem split_map_resolve (plain : leadingReference? args = none) :
    split (args.map trace.resolve) = ((split args).1, (split args).2.map trace.resolve) := by
  match args with
  | [] => rfl
  | .string text :: rest =>
      rw [List.map_cons, Trace.resolve_of_no_reference plain, split, split]
  | .null :: _ | .bool _ :: _ | .number _ :: _ | .array _ :: _ | .object _ :: _ => rfl

/-- As it is written, a leading reference names a member. -/
theorem split_of_reference? {text : String} {digits : List Char}
    (found : Trace.reference? text.toList = some digits) (rest : List Json) :
    (split (.string text :: rest)).1 = .static text := by
  have named : text ≠ "new" := by
    intro same
    have dollar : text.toList.head? = some '$' := Trace.head?_of_reference? found
    rw [same] at dollar
    exact absurd dollar (by decide)
  simp [split, named]

/-- A namespace is used as written exactly when a leading reference resolves to its own text. -/
theorem split_map_resolve_iff :
    (split (args.map trace.resolve)).1 = (split args).1 ↔
      ∀ digits, leadingReference? args = some digits →
        args.head? = some (trace.entry digits) := by
  cases leads : leadingReference? args with
  | none => simp [split_map_resolve leads]
  | some digits =>
      obtain ⟨text, rest, rfl, found⟩ := Trace.leadingReference?_eq_some.1 leads
      rw [split_of_reference? found, List.map_cons, Trace.resolve_of_reference? found]
      have written := split_of_reference? found (rest.map trace.resolve)
      constructor
      · intro same digits' leads'
        obtain rfl : digits = digits' := by simpa using leads'
        cases data : trace.entry digits with
        | string other =>
            rw [data, split] at same
            by_cases new : other = "new" <;> simp_all
        | _ => simp [data, split] at same
      · intro same
        have data : Json.string text = trace.entry digits := by simpa using same digits rfl
        rw [← data, written]

end Invocation

/-! ### Functions and members -/

namespace Dispatcher

theorem dropDiscriminator_eq_self {args : List Json} :
    dropDiscriminator args = args ↔ args.head? ≠ some .null := by
  cases args with
  | nil => simp [dropDiscriminator]
  | cons first rest => cases first <;> simp [dropDiscriminator]

end Dispatcher

namespace Replay

variable {trace : Trace} {args : List Json}

/-- The function or member that a call comes to gets every argument that is written, each one
resolved. -/
structure ReceivesAll (trace : Trace) (args : List Json) : Prop where
  registered : ∀ (setting : Setting) (name : String) (value : Json) (entry : Registered),
    Namespace.find? setting.dispatcher.now name (args.map trace.resolve) = none →
      setting.dispatcher.registry.find? name = some entry →
      (value.isNull = true → entry.nullSafe = true) →
      runOperation setting (.call name args) trace value =
        (entry.run value (args.map trace.resolve)).map (·, [])
  member : ∀ (setting : Setting) (name : String) (value : Json) (result : Except CallError Json),
    Namespace.find? setting.dispatcher.now name (args.map trace.resolve) = none →
      setting.dispatcher.registry.find? name = none → value.isNull = false →
      Member.find? value name (args.map trace.resolve) = some result →
      runOperation setting (.call name args) trace value = result.map (·, [])

/-- The shape of a call is the one that is written: arguments that do not start with null all
reach the function or member, and a namespace is used as they say. -/
structure ShapeAsWritten (trace : Trace) (args : List Json) : Prop where
  receives : args.head? ≠ some .null → ReceivesAll trace args
  use : (Invocation.split (args.map trace.resolve)).1 = (Invocation.split args).1

/-- What is written reaches a function exactly when no null stands in front after resolving. -/
theorem receivesAll_iff :
    ReceivesAll trace args ↔ (args.map trace.resolve).head? ≠ some .null := by
  rw [← Dispatcher.dropDiscriminator_eq_self]
  constructor
  · -- A function that gives its arguments back shows what a call hands on.
    rintro ⟨registered, -⟩
    let probe : Registered := ⟨fun _ given => .ok (.array given), true⟩
    let setting : Setting := ⟨⟨[("probe", probe)], ⟨0, 0⟩⟩, ⟨.null, []⟩⟩
    have handed := registered setting "probe" (.bool true) probe rfl rfl (fun _ => rfl)
    simpa [runOperation, Json.isNull, setting, probe, Dispatcher.dispatch, Namespace.find?,
      Registry.has, Registry.call, Registry.find?, Except.map] using handed
  · intro same
    refine ⟨fun setting name value entry unknown found safe => ?_,
      fun setting name value result unknown missing filled found => ?_⟩
    · have runs : (value.isNull && !runsOnNull setting.dispatcher (.call name args)) = false := by
        cases null : value.isNull with
        | false => rfl
        | true =>
            simp [runsOnNull, Dispatcher.isNullSafe, Registry.isNullSafe, found, safe null]
      simp [runOperation, runs, Dispatcher.dispatch, unknown, Registry.has, Registry.call, found, same]
    · simp [runOperation, filled, Dispatcher.dispatch, unknown, Registry.has, missing, same, found]

/-- Arguments that do not start with a written null all arrive unless a leading reference
resolves to null. -/
theorem receivesAll_unless_null_iff :
    (args.head? ≠ some .null → ReceivesAll trace args) ↔
      ∀ digits, leadingReference? args = some digits → trace.entry digits ≠ .null := by
  rw [receivesAll_iff]
  match args with
  | [] => simp [leadingReference?]
  | .string text :: rest =>
      cases found : Trace.reference? text.toList with
      | none => simp [leadingReference?, found, Trace.resolve_of_no_reference found]
      | some digits => simp [leadingReference?, found, Trace.resolve_of_reference? found]
  | .null :: _ | .bool _ :: _ | .number _ :: _ | .array _ :: _ | .object _ :: _ =>
      simp [leadingReference?, Trace.resolve, Trace.substitute]

theorem shapeAsWritten_of_no_reference (plain : leadingReference? args = none) (trace : Trace) :
    ShapeAsWritten trace args :=
  ⟨receivesAll_unless_null_iff.2 (by simp [plain]), by rw [Invocation.split_map_resolve plain]⟩

/-- At the start of a chain on null every reference resolves to null. -/
theorem entry_start_null (digits : List Char) : (Trace.start .null).entry digits = .null := by
  rw [Trace.entry, Trace.start]
  split
  · cases Decimal.ofDigits digits <;> rfl
  · rfl

/-- All written arguments reach a function or member unless a leading reference resolves to
null, a namespace is used as written unless a leading reference resolves to anything but
itself, and the shape of a call is the written one for all data exactly when its arguments
start with no reference. -/
theorem shapeAsWritten_iff (args : List Json) :
    (∀ trace : Trace, (args.head? ≠ some .null → ReceivesAll trace args) ↔
      ∀ digits, leadingReference? args = some digits → trace.entry digits ≠ .null) ∧
    (∀ trace : Trace, (Invocation.split (args.map trace.resolve)).1 = (Invocation.split args).1 ↔
      ∀ digits, leadingReference? args = some digits →
        args.head? = some (trace.entry digits)) ∧
    ((∀ trace, ShapeAsWritten trace args) ↔ leadingReference? args = none) := by
  refine ⟨fun _ => receivesAll_unless_null_iff, fun _ => Invocation.split_map_resolve_iff, ?_,
    shapeAsWritten_of_no_reference⟩
  intro all
  have receives := receivesAll_unless_null_iff.1 (all (.start .null)).receives
  exact Option.eq_none_iff_forall_ne_some.2 fun digits leads =>
    receives digits leads (entry_start_null digits)

/-- A function loses an argument to a null of the response, and a text of the response is taken
for a member of a namespace. -/
theorem not_shapeAsWritten_replaced :
    let calls : Dispatcher := ⟨.builtin, ⟨0, 0⟩⟩
    let program : Program := [
      ⟨⟨"a"⟩, [.assign [.array [.string "z"]], .call "push" [.string "$0", .string "x"]]⟩,
      ⟨⟨"b"⟩, [.call "String" [.string "$0"]]⟩]
    (∃ (trace : Trace) (args : List Json), args.head? ≠ some .null ∧ ¬ ReceivesAll trace args) ∧
      (∃ (trace : Trace) (args : List Json),
        (Invocation.split (args.map trace.resolve)).1 ≠ (Invocation.split args).1) ∧
      program.run calls (.object [("a", .null), ("b", .string "fromCharCode")]) =
        .ok (.object [("a", .array [.string "z", .string "x"]), ("b", .string "")]) := by
  intro calls program
  refine ⟨⟨.start .null, [.string "$0", .string "x"], by decide, fun receives => ?_⟩,
    ⟨.start (.string "fromCharCode"), [.string "$0"], by decide +kernel⟩, by decide +kernel⟩
  exact receivesAll_iff.1 receives (by decide +kernel)

end Replay

end Reshape
