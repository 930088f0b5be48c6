/-
Module: Reshape.Proofs.Replay.References
Purpose: a reference at the end of a chain names the value after as many operations as its
  number says.
Main exports: Trace.reference, Trace.interpolate_reference, Replay.valueAfter,
  Replay.reference_names_value
Trusted boundary: none
-/
import Mathlib.Data.List.TakeWhile
import Reshape.Pattern.Reader
import Reshape.Proofs.Decimal.Digits
import Reshape.Proofs.Replay.Runs
import Reshape.Proofs.Text.Classes
import Reshape.Proofs.Tree.Identical

/-!
# What a reference names

The trace of a chain has one entry for the value at its start and one for every operation,
whether this ran or was passed over. A dollar sign with a number is looked up there, so it
names the value that the operations up to that number give when they run alone. A chain
inside `each` starts a trace of its own on every item.
-/

namespace Reshape

/-! ### References as texts -/

namespace Trace

variable {digits : List Char}

/-- A dollar sign with digits behind it is a reference as a whole. -/
theorem reference?_digits (some : digits ≠ []) (all : ∀ c ∈ digits, c.isDigit = true) :
    reference? ('$' :: digits) = .some digits := by
  have decimal : ∀ c ∈ digits, Text.isDecimalDigit c = true := fun c inside =>
    Text.isDecimalDigit_of_isDigit (all c inside)
  have taken : digits.takeWhile Text.isDecimalDigit = digits :=
    List.takeWhile_eq_self_iff.2 decimal
  have dropped : digits.dropWhile Text.isDecimalDigit = [] :=
    List.dropWhile_eq_nil_iff.2 decimal
  rw [reference?, pieces, taken, dropped, if_pos ⟨rfl, some⟩, pieces]

/-- The reference with the given number. -/
def reference (index : Nat) : Json :=
  .string ("$" ++ toString index)

/-- A reference is replaced by the entry with its number, or by null if there is none. -/
theorem interpolate_reference (trace : Trace) (index : Nat) :
    trace.interpolate (reference index) = (trace.entries[index]?).getD .null := by
  have text : ("$" ++ toString index).toList = '$' :: Nat.toDigits 10 index := by
    simp [toString, Nat.repr]
  have all : ∀ c ∈ Nat.toDigits 10 index, c.isDigit = true :=
    fun _ inside => Decimal.isDigit_of_mem_toDigits inside
  rw [interpolate, reference, substitute, text, reference?_digits Nat.toDigits_ne_nil all]
  simp only [entry]
  rw [if_pos (List.all_eq_true.2 all), Decimal.ofDigits_toDigits]

end Trace

open Trace (reference)

namespace Replay

variable {setting : Setting} {operations : List Operation} {trace reached : Trace}
  {value last : Json} {edits : List Edit}

/-! ### References to the values of a chain -/

/-- The value after the first operations of a chain, as many as the number says; null when the
chain has fewer. -/
def valueAfter (setting : Setting) (operations : List Operation) (index : Nat) (value : Json) :
    Except CallError Json :=
  if index ≤ operations.length then
    (runChain setting (operations.take index) (.start value) value).map Prod.fst
  else .ok .null

/-- Before any operation there is the initial value. -/
@[simp] theorem valueAfter_zero : valueAfter setting operations 0 value = .ok value := by
  rw [valueAfter, if_pos (Nat.zero_le _), List.take_zero, runChain]
  rfl

/-- The trace that a chain leaves holds the values after its operations. -/
theorem Runs.valueAfter_eq (runs : Runs setting operations (.start value) value reached last edits)
    (index : Nat) :
    valueAfter setting operations index value = .ok ((reached.entries[index]?).getD .null) := by
  rw [valueAfter]
  split
  · next within =>
      obtain ⟨given, asked, gives, entry⟩ := runs.getElem?_entries within
      rw [gives, entry]
      rfl
  · next beyond => rw [runs.getElem?_entries_of_lt (Nat.lt_of_not_le beyond)]; rfl

/-- A reference that is assigned at the end of a chain that succeeds gives the value that its
number names, and the chain asks for the edits it asks for without. -/
theorem runChain_reference
    (runs : runChain setting operations (.start value) value = .ok (last, edits)) (index : Nat) :
    ∃ given, valueAfter setting operations index value = .ok given ∧
      runChain setting (operations ++ [.assign [reference index]]) (.start value) value =
        .ok (given, edits) := by
  obtain ⟨reached, runs⟩ := runChain_eq_ok.1 runs
  refine ⟨_, runs.valueAfter_eq index, runChain_eq_ok.2 ⟨_, runs_append.2
    ⟨reached, last, edits, [], runs, runs_singleton.2 ⟨?_, rfl⟩, (List.append_nil edits).symm⟩⟩⟩
  rw [runOperation, runsOnNull, Bool.not_true, Bool.and_false, if_neg Bool.false_ne_true,
    List.map_singleton, Trace.interpolate_reference]
  rfl

/-! ### References inside `each` -/

/-- On a list `each` gives what its chain gives on the items, and asks for no edits. -/
theorem runOperation_each_array {items : List Json} :
    runOperation setting (.each operations) trace (.array items) = .ok (last, edits) ↔
      ∃ results, List.Forall₂
        (fun item result => runChain setting operations (.start item) item = .ok result)
        items results ∧ last = .array (results.map Prod.fst) ∧ edits = [] := by
  unfold runOperation
  simp only [Json.isNull, Bool.false_and, Bool.false_eq_true, if_false, bind_eq_ok, mapM_eq_ok,
    Except.ok.injEq, Prod.mk.injEq, @eq_comm _ last, @eq_comm _ edits]

/-- On a value that is neither null nor a list `each` gives what its chain gives. -/
theorem runOperation_each_single (present : value.isNull = false)
    (single : ∀ items, value ≠ .array items) :
    runOperation setting (.each operations) trace value = .ok (last, edits) ↔
      (∃ asked, runChain setting operations (.start value) value = .ok (last, asked)) ∧
        edits = [] := by
  unfold runOperation
  rw [present, Bool.false_and, if_neg Bool.false_ne_true]
  cases value with
  | array items => exact absurd rfl (single items)
  | _ =>
      constructor
      · intro succeeds
        obtain ⟨⟨given, asked⟩, ran, same⟩ := bind_eq_ok.1 succeeds
        cases same
        exact ⟨⟨asked, ran⟩, rfl⟩
      · rintro ⟨⟨asked, ran⟩, rfl⟩
        exact bind_eq_ok.2 ⟨_, ran, rfl⟩

/-- Inside `each` the number counts the operations of the inner chain, for every item on its
own. -/
theorem each_array_reference {items : List Json}
    (runs : runOperation setting (.each operations) trace (.array items) = .ok (last, edits))
    (index : Nat) :
    ∃ results,
      List.Forall₂ (fun item given => valueAfter setting operations index item = .ok given)
        items results ∧
      runOperation setting (.each (operations ++ [.assign [reference index]])) trace
        (.array items) = .ok (.array results, []) := by
  obtain ⟨passed, ran, -⟩ := runOperation_each_array.1 runs
  -- every item gets its result and the edits of its chain, which `each` drops
  have named : ∃ pairs, List.Forall₂ (fun item (pair : Json × List Edit) =>
      valueAfter setting operations index item = .ok pair.1 ∧
      runChain setting (operations ++ [.assign [reference index]]) (.start item) item =
        .ok pair) items pairs := by
    clear runs
    induction ran with
    | nil => exact ⟨[], .nil⟩
    | cons here _ ih =>
        obtain ⟨pairs, others⟩ := ih
        obtain ⟨given, names, gives⟩ := runChain_reference here index
        exact ⟨(given, _) :: pairs, .cons ⟨names, gives⟩ others⟩
  obtain ⟨pairs, named⟩ := named
  refine ⟨pairs.map Prod.fst, List.forall₂_map_right_iff.2 (named.imp fun _ _ both => both.1),
    runOperation_each_array.2 ⟨pairs, named.imp fun _ _ both => both.2, rfl, rfl⟩⟩

/-- On a value that is no list the number counts the operations of the inner chain on it. -/
theorem each_single_reference (present : value.isNull = false)
    (single : ∀ items, value ≠ .array items)
    (runs : runOperation setting (.each operations) trace value = .ok (last, edits))
    (index : Nat) :
    ∃ given, valueAfter setting operations index value = .ok given ∧
      runOperation setting (.each (operations ++ [.assign [reference index]])) trace value =
        .ok (given, []) := by
  obtain ⟨⟨asked, ran⟩, -⟩ := (runOperation_each_single present single).1 runs
  obtain ⟨given, names, gives⟩ := runChain_reference ran index
  exact ⟨given, names, (runOperation_each_single present single).2 ⟨⟨asked, gives⟩, rfl⟩⟩

/-- A reference names the value after as many operations as its number says: assigned at the end
of a chain that succeeds, it gives what these operations alone give on the same value in the same
setting, the initial value for zero, and null where the chain has fewer. Every operation counts,
the ones that null is passed over by as well. Inside `each` the count starts anew on every item
of a list, and on the value itself where this is no list. The chain and its beginnings run while
the clock stands at one instant. -/
theorem reference_names_value [Pattern.Library] (registry : Registry) (instant : Calendar.Moment)
    (sight : Sight) (operations : List Operation) (index : Nat) :
    let setting : Setting := ⟨.frozenAt instant registry, sight⟩
    (∀ value, valueAfter setting operations 0 value = .ok value) ∧
    (∀ value last edits, runChain setting operations (.start value) value = .ok (last, edits) →
      ∃ given, valueAfter setting operations index value = .ok given ∧
        runChain setting (operations ++ [.assign [reference index]]) (.start value) value =
          .ok (given, edits)) ∧
    (∀ trace items last edits,
      runOperation setting (.each operations) trace (.array items) = .ok (last, edits) →
      ∃ results,
        List.Forall₂ (fun item given => valueAfter setting operations index item = .ok given)
          items results ∧
        runOperation setting (.each (operations ++ [.assign [reference index]])) trace
          (.array items) = .ok (.array results, [])) ∧
    ∀ trace value last edits, value.isNull = false → (∀ items, value ≠ .array items) →
      runOperation setting (.each operations) trace value = .ok (last, edits) →
      ∃ given, valueAfter setting operations index value = .ok given ∧
        runOperation setting (.each (operations ++ [.assign [reference index]])) trace value =
          .ok (given, []) :=
  ⟨fun _ => valueAfter_zero, fun _ _ _ runs => runChain_reference runs index,
    fun _ _ _ _ runs => each_array_reference runs index,
    fun _ _ _ _ present single runs => each_single_reference present single runs index⟩

/-- The second operation of a chain is passed over as its value is null, and counts. In `each`
the initial value is that of every item, and behind the chain there is null. -/
theorem reference_names_value_skipped :
    let operations : List Operation :=
      [.assign [], .rename "passed over", .assign [.bool true], .assign [.bool false]]
    let naming : Nat → List Operation := fun index => operations ++ [.assign [reference index]]
    let setting : Setting := ⟨.frozenAt ⟨0, 0⟩ [], ⟨.null, []⟩⟩
    let text : Json := .string "first"
    let trace : Trace := .start text
    (runChain setting operations trace text = .ok (.bool false, []) ∧
      runChain setting (naming 3) trace text = .ok (.bool true, [])) ∧
    (runOperation setting (.each operations) trace (.array [text, .null]) =
        .ok (.array [.bool false, .bool false], []) ∧
      runOperation setting (.each (naming 0)) trace (.array [text, .null]) =
        .ok (.array [text, .null], [])) ∧
    (text.isNull = false ∧ (∀ items, text ≠ .array items) ∧
      runOperation setting (.each operations) trace text = .ok (.bool false, []) ∧
      runOperation setting (.each (naming 5)) trace text = .ok (.null, [])) := by
  intro operations naming setting text trace
  have names := reference_names_value [] ⟨0, 0⟩ ⟨.null, []⟩ operations
  have single : ∀ items, text ≠ .array items := nofun
  refine ⟨⟨rfl, ?_⟩, ⟨rfl, ?_⟩, rfl, single, rfl, ?_⟩
  · obtain ⟨given, ⟨⟩, gives⟩ := (names 3).2.1 text _ _ rfl
    exact gives
  · obtain ⟨results, _ | ⟨⟨⟩, _ | ⟨⟨⟩, ⟨⟩⟩⟩, gives⟩ := (names 0).2.2.1 trace [text, .null] _ _ rfl
    exact gives
  · obtain ⟨given, ⟨⟩, gives⟩ := (names 5).2.2.2 trace text _ _ rfl single rfl
    exact gives

end Replay

end Reshape
