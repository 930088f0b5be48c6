/-
Module: Reshape.Proofs.Replay.Runs
Purpose: the run of a chain operation by operation, with the trace that it leaves.
Main exports: Replay.Runs, Replay.runChain_eq_ok, Replay.runs_append,
  Replay.exists_failing_operation, Replay.Runs.getElem?_entries
Trusted boundary: none
-/
import Mathlib.Data.List.Basic
import Reshape.Proofs.Except
import Reshape.Replay.Chain

/-!
# Runs of a chain

A chain that succeeds takes every operation once, and its run over a part in front followed
by the run over the rest is the run as a whole. The trace grows by the value of each
operation and ends with the present value, so its entries are the values that the parts in
front give.
-/

namespace Reshape.Replay

/-- The operations of a chain succeed one after the other: from a trace and a value they lead
to the trace and the value they leave, and ask for edits in turn. -/
inductive Runs (setting : Setting) :
    List Operation → Trace → Json → Trace → Json → List Edit → Prop where
  | done {trace : Trace} {value : Json} : Runs setting [] trace value trace value []
  | step {operation : Operation} {rest : List Operation} {trace reached : Trace}
      {value next last : Json} {own more : List Edit}
      (here : runOperation setting operation trace value = .ok (next, own))
      (later : Runs setting rest (trace.record next) next reached last more) :
      Runs setting (operation :: rest) trace value reached last (own ++ more)

variable {setting : Setting} {operations front back : List Operation} {operation : Operation}
  {trace reached : Trace} {value last : Json} {edits : List Edit}

/-- A chain gives a result exactly when it runs to it. -/
theorem runChain_eq_ok :
    runChain setting operations trace value = .ok (last, edits) ↔
      ∃ reached, Runs setting operations trace value reached last edits := by
  constructor
  · intro runs
    induction operations generalizing trace value edits with
    | nil =>
        rw [runChain, Except.ok.injEq, Prod.mk.injEq] at runs
        obtain ⟨rfl, rfl⟩ := runs
        exact ⟨trace, .done⟩
    | cons operation rest ih =>
        rw [runChain] at runs
        obtain ⟨⟨next, own⟩, here, runs⟩ := bind_eq_ok.1 runs
        obtain ⟨⟨_, more⟩, later, same⟩ := bind_eq_ok.1 runs
        cases same
        obtain ⟨reached, follows⟩ := ih later
        exact ⟨reached, .step here follows⟩
  · rintro ⟨reached, runs⟩
    induction runs with
    | done => rw [runChain]
    | step here _ ih =>
        rw [runChain]
        exact bind_eq_ok.2 ⟨_, here, bind_eq_ok.2 ⟨_, ih, rfl⟩⟩

/-- The run of one operation. -/
theorem runs_singleton :
    Runs setting [operation] trace value reached last edits ↔
      runOperation setting operation trace value = .ok (last, edits) ∧
        reached = trace.record last := by
  constructor
  · intro runs
    obtain _ | ⟨here, later⟩ := runs
    cases later
    exact ⟨by rwa [List.append_nil], rfl⟩
  · rintro ⟨here, rfl⟩
    simpa using Runs.step here .done

/-- A run over two lists of operations is the run over the first one and, from where that
leads, the run over the second one. -/
theorem runs_append :
    Runs setting (front ++ back) trace value reached last edits ↔
      ∃ passed middle own more, Runs setting front trace value passed middle own ∧
        Runs setting back passed middle reached last more ∧ edits = own ++ more := by
  constructor
  · intro runs
    induction front generalizing trace value edits with
    | nil => exact ⟨trace, value, [], edits, .done, runs, rfl⟩
    | cons operation front ih =>
        obtain _ | ⟨here, later⟩ := runs
        obtain ⟨passed, middle, own, more, first, second, rfl⟩ := ih later
        exact ⟨passed, middle, _, more, .step here first, second, (List.append_assoc _ _ _).symm⟩
  · rintro ⟨passed, middle, own, more, first, second, rfl⟩
    induction first with
    | done => exact second
    | step here _ ih =>
        rw [List.append_assoc]
        exact .step here (ih second)

/-- A chain that fails does so at one operation, after operations that succeed. -/
theorem exists_failing_operation {e : CallError}
    (fails : runChain setting operations trace value = .error e) :
    ∃ front operation back passed middle own, operations = front ++ operation :: back ∧
      Runs setting front trace value passed middle own ∧
      runOperation setting operation passed middle = .error e := by
  induction operations generalizing trace value with
  | nil =>
      rw [runChain] at fails
      cases fails
  | cons operation rest ih =>
      rw [runChain] at fails
      rcases bind_eq_error.1 fails with here | ⟨⟨next, own⟩, here, fails⟩
      · exact ⟨[], operation, rest, trace, value, [], rfl, .done, here⟩
      · rcases bind_eq_error.1 fails with later | ⟨_, -, succeeds⟩
        · obtain ⟨front, other, back, passed, middle, more, rfl, ran, failing⟩ := ih later
          exact ⟨operation :: front, other, back, passed, middle, _, rfl, .step here ran, failing⟩
        · cases succeeds

/-- An operation that fails behind operations that succeed makes the chain fail. -/
theorem runChain_concat_eq_error {e : CallError}
    (ran : Runs setting front trace value reached last edits)
    (failing : runOperation setting operation reached last = .error e) :
    runChain setting (front ++ [operation]) trace value = .error e := by
  induction ran with
  | done =>
      rw [List.nil_append, runChain]
      exact bind_eq_error.2 (.inl failing)
  | step here _ ih =>
      rw [List.cons_append, runChain]
      exact bind_eq_error.2 (.inr ⟨_, here, bind_eq_error.2 (.inl (ih failing))⟩)

/-! ### The trace -/

namespace Runs

/-- The trace grows by one entry for each operation, behind those it had. -/
theorem entries_eq (runs : Runs setting operations trace value reached last edits) :
    ∃ passed, reached.entries = trace.entries ++ passed ∧ passed.length = operations.length := by
  induction runs with
  | done => exact ⟨[], by simp⟩
  | @step _ _ _ _ _ next _ _ _ _ _ ih =>
      obtain ⟨passed, entries, count⟩ := ih
      exact ⟨next :: passed, by simp [entries, Trace.record], by simp [count]⟩

/-- A trace that ends with the present value does so after every operation. -/
theorem getLast?_entries (runs : Runs setting operations trace value reached last edits)
    (present : trace.entries.getLast? = some value) : reached.entries.getLast? = some last := by
  induction runs with
  | done => exact present
  | step _ _ ih => exact ih (by simp [Trace.record])

/-- The entry of an index that the trace of a chain has is the value after that many
operations. -/
theorem getElem?_entries (runs : Runs setting operations (.start value) value reached last edits)
    {index : Nat} (within : index ≤ operations.length) :
    ∃ given asked, runChain setting (operations.take index) (.start value) value =
      .ok (given, asked) ∧ reached.entries[index]? = some given := by
  rw [← List.take_append_drop index operations, runs_append] at runs
  obtain ⟨passed, middle, own, more, first, second, rfl⟩ := runs
  refine ⟨middle, own, runChain_eq_ok.2 ⟨passed, first⟩, ?_⟩
  obtain ⟨earlier, entries, count⟩ := first.entries_eq
  obtain ⟨later, further, -⟩ := second.entries_eq
  have length : passed.entries.length = index + 1 := by
    simp [entries, count, Trace.start, within]
  have ends := first.getLast?_entries rfl
  rw [List.getLast?_eq_getElem?, length, Nat.add_sub_cancel] at ends
  rw [further, List.getElem?_append_left (by omega), ends]

/-- Behind its operations the trace of a chain has no entries. -/
theorem getElem?_entries_of_lt
    (runs : Runs setting operations (.start value) value reached last edits) {index : Nat}
    (beyond : operations.length < index) : reached.entries[index]? = none := by
  obtain ⟨passed, entries, count⟩ := runs.entries_eq
  refine List.getElem?_eq_none ?_
  simp only [entries, Trace.start, List.length_append, List.length_singleton, count]
  omega

end Runs

end Reshape.Replay
