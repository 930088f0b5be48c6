/-
Module: Reshape.Proofs.Replay.Safety
Purpose: programs that cannot fail on any response, over the functions that every registry
  starts with.
Main exports: Operation.isSafe, Program.exists_run, Dispatcher.failingCall_iff
Trusted boundary: the library of patterns, of which nothing is assumed
-/
import Reshape.Pattern.Reader
import Reshape.Proofs.Call.Failure
import Reshape.Proofs.Replay.Relocation

/-!
# Programs that cannot fail

Besides a path expression only a call can fail, and only under a few names. A program that
has neither, at any depth of `each`, gives a result for every response.
-/

namespace Reshape

namespace Operation

/-- The names under which a call can fail. -/
def riskyNames : List String :=
  ["Date", "Math", "JSON", "Array", "filter", "repeat", "padStart", "padEnd"]

mutual

/-- An operation that neither navigates nor calls what can fail, at any depth of `each`. -/
def isSafe : Operation → Bool
  | .navigate _ _ => false
  | .each operations => areSafe operations
  | .hoist _ | .rename _ | .assign _ => true
  | .call name _ => decide (name ∉ riskyNames)

def areSafe : List Operation → Bool
  | [] => true
  | operation :: rest => operation.isSafe && areSafe rest

end

end Operation

namespace Dispatcher

theorem FailingCall.mem_riskyNames [Pattern.Library] {name : String} {value : Json} {args : List Json}
    (fails : FailingCall name value args) : name ∈ Operation.riskyNames := by
  rcases fails with ⟨rfl | rfl, -⟩ | - | - | - | - | ⟨rfl | rfl, -⟩ <;> decide

theorem exists_dispatch [Pattern.Library] {now : Calendar.Moment} {name : String}
    (safe : name ∉ Operation.riskyNames) (value : Json) (args : List Json) :
    ∃ result, dispatch ⟨.builtin, now⟩ name value args = .ok result := by
  have notDate : name ≠ "Date" := by
    rintro rfl
    exact safe (by decide)
  exact exists_eq_ok fun fails =>
    safe ((fails_dispatch_builtin notDate).1 fails).mem_riskyNames

end Dispatcher

namespace Replay

open Operation (areSafe)

variable [Pattern.Library] {now : Calendar.Moment} {sight : Sight}

mutual

theorem exists_runChain : ∀ {operations : List Operation} (_safe : areSafe operations = true)
    (trace : Trace) (value : Json),
    ∃ result, runChain ⟨⟨.builtin, now⟩, sight⟩ operations trace value = .ok result
  | [], _, _, value => ⟨(value, []), by rw [runChain]⟩
  | operation :: rest, safe, trace, value => by
      rw [areSafe, Bool.and_eq_true] at safe
      obtain ⟨⟨next, edits⟩, here⟩ := exists_runOperation safe.1 trace value
      obtain ⟨⟨last, more⟩, later⟩ := exists_runChain safe.2 (trace.record next) next
      refine ⟨(last, edits ++ more), ?_⟩
      rw [runChain]
      exact bind_eq_ok.2 ⟨_, here, bind_eq_ok.2 ⟨_, later, rfl⟩⟩

theorem exists_runOperation : ∀ {operation : Operation} (_safe : operation.isSafe = true)
    (trace : Trace) (value : Json),
    ∃ result, runOperation ⟨⟨.builtin, now⟩, sight⟩ operation trace value = .ok result
  | .each operations, safe, trace, value => by
      rw [Operation.isSafe] at safe
      have once := fun item => exists_runChain safe (.start item) item
      unfold runOperation
      split
      · exact ⟨_, rfl⟩
      · cases value with
        | array items =>
            obtain ⟨results, given⟩ := exists_mapM_eq_ok fun item (_ : item ∈ items) => once item
            exact ⟨_, bind_eq_ok.2 ⟨results, given, rfl⟩⟩
        | _ =>
            obtain ⟨result, given⟩ := once _
            exact ⟨_, bind_eq_ok.2 ⟨result, given, rfl⟩⟩
  | .hoist keep, _, trace, value => by
      unfold runOperation
      split
      · exact ⟨_, rfl⟩
      · cases value <;> exact ⟨_, rfl⟩
  | .rename key, _, trace, value => by
      rw [runOperation]
      split <;> exact ⟨_, rfl⟩
  | .assign args, _, trace, value => by
      rw [runOperation]
      split <;> exact ⟨_, rfl⟩
  | .call name args, safe, trace, value => by
      rw [Operation.isSafe, decide_eq_true_eq] at safe
      rw [runOperation]
      split
      · exact ⟨_, rfl⟩
      · obtain ⟨result, given⟩ := Dispatcher.exists_dispatch safe value (args.map trace.resolve)
        exact ⟨_, map_eq_ok.2 ⟨result, given, rfl⟩⟩

end

end Replay

namespace Program

/-- A program whose operations are all safe has a result for every response. -/
theorem exists_run [Pattern.Library] {now : Calendar.Moment} {program : Program}
    (safe : ∀ rule ∈ program, Operation.areSafe rule.operations = true) (tree : Json) :
    ∃ result, program.run ⟨.builtin, now⟩ tree = .ok result := by
  induction program generalizing tree with
  | nil => exact ⟨tree, rfl⟩
  | cons rule rest ih =>
      obtain ⟨here, later⟩ := List.forall_mem_cons.1 safe
      have succeeds : (rule.apply ⟨.builtin, now⟩ tree).failure = none := by
        refine Json.failure_reviseEach_of_total (fun _ value sight => ?_) tree () 0 _
        obtain ⟨result, given⟩ := Replay.exists_runChain here (.start value) value
        exact ⟨_, map_eq_ok.2 ⟨result, given, rfl⟩⟩
      obtain ⟨result, given⟩ := ih later (rule.apply ⟨.builtin, now⟩ tree).tree
      refine ⟨result, ?_⟩
      rw [run_eq_ok] at given ⊢
      rwa [replay_cons succeeds]

end Program

namespace Dispatcher

/-- Whatever the library of patterns accepts: over the functions that every registry starts
with, and dates apart, exactly the failing calls give an error. A program that neither navigates
nor calls by a name under which a call can fail has a result for every response. -/
theorem failingCall_iff [Pattern.Library] (now : Calendar.Moment) :
    (∀ (name : String) (value : Json) (args : List Json), name ≠ "Date" →
      ((∃ e, dispatch ⟨.builtin, now⟩ name value args = .error e) ↔
        FailingCall name value args)) ∧
      ∀ (program : Program) (tree : Json),
        (∀ rule ∈ program, Operation.areSafe rule.operations = true) →
          ∃ result, program.run ⟨.builtin, now⟩ tree = .ok result :=
  ⟨fun _ _ _ notDate => fails_dispatch_builtin notDate,
    fun _ tree safe => Program.exists_run safe tree⟩

/-- A text filled up too far at its end and a pattern whose group is left open, both behind a
null that is dropped, and a chain in `each` that calls members, functions and unknown names. -/
theorem failingCall_iff_padding :
    let now : Calendar.Moment := ⟨0, 0⟩
    let args : List Json := [.null, .ofInt 16777217, .string "-"]
    let pattern : List Json := [.null, .string "/a/(b/i"]
    let program : Program := [⟨⟨"a"⟩, [.each [.call "Number" [.string "$0"], .call "add" [.ofInt 1],
      .call "toFixed" [], .each [.call "nothing" [], .call "Object" [.string "keys"]]],
      .assign [.string "$1"], .hoist true]⟩]
    ("padEnd" ≠ "Date" ∧ FailingCall "padEnd" (.string "x") args ∧
      ∃ e, dispatch ⟨.builtin, now⟩ "padEnd" (.string "x") args = .error e) ∧
    ("filter" ≠ "Date" ∧ FailingCall "filter" (.array []) pattern ∧
      ∃ e, dispatch ⟨.builtin, now⟩ "filter" (.array []) pattern = .error e) ∧
    ((∀ rule ∈ program, Operation.areSafe rule.operations = true) ∧
      ∃ result, program.run ⟨.builtin, now⟩ (.object [("a", .array [.null, .string "7"])]) =
        .ok result) := by
  intro now args pattern program
  have tooLong : FailingCall "padEnd" (.string "x") args :=
    .padding (.inr rfl) (by decide +kernel) (by decide +kernel) (by decide +kernel)
  have asks : Builtin.AsksFor "/a/(b/i" { anyCase := true } "a/(b" :=
    Builtin.patternRequest_eq_iff.1 (by decide +kernel)
  have refused : FailingCall "filter" (.array []) pattern := by
    refine .pattern fun source given => ?_
    cases given
    exact ⟨_, _, asks, by decide +kernel⟩
  have safe : ∀ rule ∈ program, Operation.areSafe rule.operations = true := by decide
  obtain ⟨calls, runs⟩ := failingCall_iff now
  exact ⟨⟨by decide, tooLong, (calls _ _ _ (by decide)).2 tooLong⟩,
    ⟨by decide, refused, (calls _ _ _ (by decide)).2 refused⟩, safe, runs program _ safe⟩

end Dispatcher

end Reshape
