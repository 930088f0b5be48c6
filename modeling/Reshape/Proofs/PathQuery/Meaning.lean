/-
Module: Reshape.Proofs.PathQuery.Meaning
Purpose: which strict expressions keep their meaning when lenient ones are accepted too.
Main exports: PathQuery.NamesByDigits, PathQuery.settled_iff, PathQuery.evaluate_of_strict
Trusted boundary: the parser and the evaluator of path queries that the program is given, for
  which those here stand
-/
import Mathlib
import Reshape.PathQuery.Basic
import Reshape.Pattern.Reader
import Reshape.Proofs.PathQuery.Idempotence
import Reshape.Proofs.PathQuery.Readers

/-!
# Strict expressions among lenient ones

A member name may start with decimal digits of any script but ASCII. When no other word character
follows them such a name looks like a dotted index, and in brackets it is neither an index nor a
name: the expression is refused. A member name may also end in blanks outside ASCII, and at the end
of an expression these are trimmed. All other strict expressions mean what they say.
-/

namespace Reshape.PathQuery

/-- An expression that names a member by decimal digits, the first of them outside ASCII, behind
a dot that follows a name, a closing bracket, a star or the root. No word character stands behind
the digits: what goes on with the name, if anything, is another character outside ASCII. -/
def NamesByDigits (s : List Char) : Prop :=
  ∃ before head digits after,
    .plain (before ++ (head ++ '.' :: (digits ++ after))) ∈ stretches s ∧
      IsHead head ∧ IsDigits digits ∧ (∀ d ∈ digits.head?, 0x80 ≤ d.toNat) ∧
      ∀ c ∈ after.head?, EndsIndex c

theorem exists_indexAt {s : List Char} (some : ¬ NoDottedIndex s) :
    ∃ before rest, s = before ++ rest ∧ IndexAt rest := by
  induction s with
  | nil => exact absurd noDottedIndex_nil some
  | cons c s ih =>
      rw [noDottedIndex_cons, not_and_or, not_not] at some
      rcases some with index | later
      · exact ⟨[], c :: s, rfl, index⟩
      · obtain ⟨before, rest, rfl, index⟩ := ih later
        exact ⟨c :: before, rest, rfl, index⟩

/-- The only lenient forms in an expression that passes are names by digits. -/
theorem settled_iff {s : List Char} (passes : Passes .outside s) :
    (∀ plain, .plain plain ∈ stretches s → Settled plain) ↔ ¬ NamesByDigits s := by
  constructor
  · rintro settled ⟨before, head, digits, after, listed, isHead, isDigits, -, ends⟩
    refine not_noDottedIndex_of_indexAt ?_ (settled _ listed).of_append_right.indices
    exact ⟨head, digits, after, isHead, isDigits, ends, rfl⟩
  · intro noNames plain listed
    obtain ⟨isPlain, passes⟩ := passes.of_mem listed
    refine ⟨passes.noBareNames isPlain, by_contra fun some => noNames ?_⟩
    obtain ⟨before, _, rfl, head, digits, after, isHead, isDigits, ends, rfl⟩ := exists_indexAt some
    refine ⟨before, head, digits, after, listed, isHead, isDigits, ?_, ends⟩
    rintro d first
    obtain ⟨digits, rfl⟩ := List.head?_eq_some_iff.1 first
    have front : IsPlain before := fun c inside => isPlain c (List.mem_append_left _ inside)
    have behind := passes.of_append.2
    rw [Scan.after_outside front] at behind
    refine Nat.le_of_not_lt fun ascii => ?_
    have digit := Text.isDigit_of_isDecimalDigit (isDigits.all d List.mem_cons_self) ascii
    rw [Passes.isDigit_of_indexAt isHead behind] at digit
    cases digit

theorem Query.root_of_parse? {s : List Char} {query : Query}
    (parsed : Query.parse? s = some query) : ∃ t, s = '$' :: t := by
  rw [Query.parse?] at parsed
  split at parsed
  · next segments found =>
    rw [readQuery] at found
    split at found
    · cases found
    · next fromRoot rest origin =>
      obtain ⟨⟨segments, after⟩, -, same⟩ := Option.map_eq_some_iff.1 found
      cases same
      unfold readOrigin at origin
      split at origin <;> cases origin
      exact ⟨rest, rfl⟩
  · cases parsed

theorem evaluate_root [Pattern.Library] {expression : String} (whole : expression.toList = ['$']) (value : Json) :
    evaluate expression value = .ok value := by
  have none : normalize expression = none := by
    rw [normalize, whole]
    exact if_pos (.inr (by decide))
  rw [evaluate, none]

/-- Blanks around an expression matter for its report only. -/
theorem evaluate_trim [Pattern.Library] (expression : String) (value : Json) :
    (evaluate (String.ofList (Text.trim expression.toList)) value).toOption =
      (evaluate expression value).toOption := by
  have same : normalize (String.ofList (Text.trim expression.toList)) = normalize expression := by
    rw [normalize, normalize, String.toList_ofList, Text.trim_trim]
  rw [evaluate, evaluate, same]
  cases normalize expression with
  | none => rfl
  | some strict =>
      dsimp only
      cases Query.parse? strict.toList <;> rfl

/-- A strict expression without a blank at its end means what it says, or is refused when it names
a member by digits. With a blank there, it means what the text without the blanks means. -/
theorem evaluate_of_strict [Pattern.Library] {expression : String} {query : Query}
    (parsed : Query.parse? expression.toList = some query) (value : Json) :
    ((∀ c ∈ expression.toList.getLast?, Text.isBlank c = false) →
      (¬ NamesByDigits expression.toList →
        evaluate expression value = .ok (unwrap (query.nodes value value))) ∧
      (NamesByDigits expression.toList →
        evaluate expression value = .error (.malformedPath expression value))) ∧
    (evaluate expression value).toOption =
      (evaluate (String.ofList (Text.trim expression.toList)) value).toOption := by
  refine ⟨fun last => ?_, (evaluate_trim expression value).symm⟩
  have passes := Query.passes_of_parse? parsed
  obtain ⟨s, whole⟩ := Query.root_of_parse? parsed
  rw [whole] at parsed passes last ⊢
  by_cases more : s = []
  · subst more
    cases Option.some.inj (parsed.symm.trans (rfl : _ = some (Query.mk true [])))
    refine ⟨fun _ => by simp [evaluate_root whole, Query.nodes, followAll, unwrap], ?_⟩
    rintro ⟨before, head, digits, after, listed, -⟩
    rw [show stretches ['$'] = [.plain ['$']] from rfl, List.mem_singleton,
      Stretch.plain.injEq] at listed
    have dot : '.' ∈ ['$'] := by simp [← listed]
    exact absurd dot (by decide)
  · constructor
    · intro noNames
      have same := normalize_eq_self whole more last ((settled_iff passes).2 noNames)
      rw [evaluate, same]
      dsimp only
      rw [whole, parsed]
    · intro names
      rw [evaluate, normalize_root whole more last]
      split
      · next none => cases none
      · next strict normalized =>
        cases normalized
        rw [String.toList_ofList]
        split
        · next other parsed' =>
          refine absurd names ((settled_iff passes).1 fun plain listed => ?_)
          exact passes.settled (Query.passes_of_parse? parsed') listed
        · rfl

theorem evaluate_of_strict_members :
    evaluate "$.a['b.1']" (.object [("a", .object [("b.1", .string "quoted")])]) =
        .ok (.string "quoted") ∧
      evaluate "$.a.١" (.object [("a", .object [("١", .string "digit")])]) =
        .error (.malformedPath "$.a.١" (.object [("a", .object [("١", .string "digit")])])) := by
  constructor
  · have parsed : Query.parse? "$.a['b.1']".toList =
        some (.mk true [.child [.name "a"], .child [.name "b.1"]]) := by cbv
    have noNames : ¬ NamesByDigits "$.a['b.1']".toList := by
      refine (settled_iff (Query.passes_of_parse? parsed)).1 fun plain listed => ?_
      have cut : stretches "$.a['b.1']".toList =
        [.plain "$.a[".toList, .quoted "'b.1'".toList, .plain "]".toList] := by decide +kernel
      rw [cut] at listed
      simp only [List.mem_cons, Stretch.plain.injEq, reduceCtorEq, List.not_mem_nil, or_false,
        false_or] at listed
      rcases listed with rfl | rfl <;> exact settled_iff_strictPlain.2 (by decide +kernel)
    have last : ∀ c ∈ "$.a['b.1']".toList.getLast?, Text.isBlank c = false := by
      rintro c ⟨⟩
      decide
    exact ((evaluate_of_strict parsed _).1 last).1 noNames
  · have parsed : Query.parse? "$.a.١".toList =
        some (.mk true [.child [.name "a"], .child [.name "١"]]) := by cbv
    have names : NamesByDigits "$.a.١".toList :=
      ⟨['$', '.'], ['a'], ['١'], [], by decide, .name (.intro (by decide) (List.forall_mem_nil _)),
        ⟨by decide, List.forall_mem_singleton.2 (by decide)⟩, by simp, by simp⟩
    have last : ∀ c ∈ "$.a.١".toList.getLast?, Text.isBlank c = false := by
      rintro c ⟨⟩
      decide
    exact ((evaluate_of_strict parsed _).1 last).2 names

/-- Not every strict expression means what it says. -/
theorem not_evaluate_strict_digit :
    ¬ ∀ (expression : String) (query : Query) (value : Json),
      Query.parse? expression.toList = some query →
        evaluate expression value = .ok (unwrap (query.nodes value value)) := by
  intro keeps
  have kept := keeps "$.a.١" (.mk true [.child [.name "a"], .child [.name "١"]]) .null (by cbv)
  have refused : evaluate "$.a.١" .null = .error (.malformedPath "$.a.١" .null) := by
    have rewritten : normalize "$.a.١" = some "$.a[١]" := by decide +kernel
    have unread : Query.parse? "$.a[١]".toList = none := by cbv
    rw [evaluate, rewritten]
    dsimp only
    rw [unread]
  rw [refused] at kept
  cases kept

end Reshape.PathQuery
