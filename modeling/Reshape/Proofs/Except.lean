/-
Module: Reshape.Proofs.Except
Purpose: when a computation in stages that may fail succeeds, and where it fails.
Main exports: bind_eq_ok, bind_eq_error, map_eq_ok, mapM_eq_ok, Fails, foldlM_eq_error
Trusted boundary: none
-/
import Mathlib.Data.List.Forall2

/-!
# Success in stages

A computation in stages succeeds when every stage does, each on the result of the one
before it. It fails with the first stage that does.
-/

namespace Reshape

variable {ε α β : Type}

theorem bind_eq_ok {first : Except ε α} {next : α → Except ε β} {result : β} :
    (first >>= next) = .ok result ↔ ∃ value, first = .ok value ∧ next value = .ok result := by
  cases first with
  | error e =>
      constructor
      · intro success
        cases success
      · rintro ⟨value, failed, -⟩
        cases failed
  | ok value =>
      constructor
      · intro success
        exact ⟨value, rfl, success⟩
      · rintro ⟨same, given, success⟩
        cases given
        exact success

theorem bind_eq_error {first : Except ε α} {next : α → Except ε β} {e : ε} :
    (first >>= next) = .error e ↔
      first = .error e ∨ ∃ value, first = .ok value ∧ next value = .error e := by
  cases first with
  | error refused => simp [bind, Except.bind]
  | ok value => simp [bind, Except.bind]

theorem map_eq_ok {first : Except ε α} {f : α → β} {result : β} :
    first.map f = .ok result ↔ ∃ value, first = .ok value ∧ f value = result := by
  cases first with
  | error e => simp [Except.map]
  | ok value => simp [Except.map]

theorem map_eq_error {first : Except ε α} {f : α → β} {e : ε} :
    first.map f = .error e ↔ first = .error e := by
  cases first with
  | error e => simp [Except.map]
  | ok value => simp [Except.map]

/-- A list of computations succeeds with the results of all of them. -/
theorem mapM_eq_ok {f : α → Except ε β} {xs : List α} {values : List β} :
    xs.mapM f = .ok values ↔ List.Forall₂ (fun x value => f x = .ok value) xs values := by
  induction xs generalizing values with
  | nil =>
      rw [List.forall₂_nil_left_iff]
      exact ⟨fun succeeds => (Except.ok.inj succeeds).symm, fun none => none ▸ rfl⟩
  | cons first rest ih =>
      rw [List.mapM_cons, List.forall₂_cons_left_iff, bind_eq_ok]
      constructor
      · rintro ⟨value, here, succeeds⟩
        obtain ⟨others, later, same⟩ := bind_eq_ok.1 succeeds
        exact ⟨value, others, here, ih.1 later, (Except.ok.inj same).symm⟩
      · rintro ⟨value, others, here, later, rfl⟩
        exact ⟨value, here, bind_eq_ok.2 ⟨others, ih.2 later, rfl⟩⟩

/-- A computation that fails. -/
def Fails (result : Except ε α) : Prop :=
  ∃ e, result = .error e

@[simp] theorem not_fails_ok (value : α) : ¬ Fails (.ok value : Except ε α) := by
  simp [Fails]

@[simp] theorem fails_error (e : ε) : Fails (.error e : Except ε α) := ⟨e, rfl⟩

@[simp] theorem fails_map {first : Except ε α} {f : α → β} : Fails (first.map f) ↔ Fails first := by
  simp [Fails, map_eq_error]

/-- A computation that does not fail gives a result. -/
theorem exists_eq_ok {result : Except ε α} (succeeds : ¬ Fails result) :
    ∃ value, result = .ok value := by
  cases result with
  | error e => exact absurd (fails_error e) succeeds
  | ok value => exact ⟨value, rfl⟩

/-- A list of computations that all give a result. -/
theorem exists_mapM_eq_ok {f : α → Except ε β} {xs : List α}
    (succeed : ∀ x ∈ xs, ∃ value, f x = .ok value) : ∃ values, xs.mapM f = .ok values := by
  induction xs with
  | nil => exact ⟨[], rfl⟩
  | cons first rest ih =>
      obtain ⟨here, later⟩ := List.forall_mem_cons.1 succeed
      obtain ⟨value, given⟩ := here
      obtain ⟨values, others⟩ := ih later
      refine ⟨value :: values, ?_⟩
      rw [List.mapM_cons, given, others]
      rfl

/-- A pass over a list fails at the first entry that fails, after a part that succeeds. -/
theorem foldlM_eq_error {step : α → β → Except ε α} {start : α} {xs : List β} {e : ε} :
    xs.foldlM step start = .error e ↔
      ∃ front x back reached, xs = front ++ x :: back ∧ front.foldlM step start = .ok reached ∧
        step reached x = .error e := by
  induction xs generalizing start with
  | nil => simp [pure, Except.pure]
  | cons first rest ih =>
      rw [List.foldlM_cons]
      cases stepped : step start first with
      | error refused =>
          constructor
          · intro failed
            cases failed
            exact ⟨[], first, rest, start, rfl, rfl, stepped⟩
          · rintro ⟨front, x, back, reached, same, reaches, failed⟩
            cases front with
            | nil =>
                cases same
                cases reaches
                exact stepped.symm.trans failed
            | cons other front =>
                cases same
                rw [List.foldlM_cons, stepped] at reaches
                cases reaches
      | ok next =>
          refine Iff.trans (@ih next) ⟨?_, ?_⟩
          · rintro ⟨front, x, back, reached, rfl, reaches, failed⟩
            refine ⟨first :: front, x, back, reached, rfl, ?_, failed⟩
            rw [List.foldlM_cons, stepped]
            exact reaches
          · rintro ⟨front, x, back, reached, same, reaches, failed⟩
            cases front with
            | nil =>
                cases same
                cases reaches
                rw [stepped] at failed
                cases failed
            | cons other front =>
                cases same
                rw [List.foldlM_cons, stepped] at reaches
                exact ⟨front, x, back, reached, rfl, reaches, failed⟩

end Reshape
