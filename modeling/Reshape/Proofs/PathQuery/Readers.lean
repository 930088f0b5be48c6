/-
Module: Reshape.Proofs.PathQuery.Readers
Purpose: a strict expression passes from its root to its end.
Main exports: PathQuery.Readers, PathQuery.readers, PathQuery.Query.passes_of_parse?
Trusted boundary: the parser of path queries that the program is given, for which the one here
  stands
-/
import Reshape.Proofs.PathQuery.Reading

/-!
# Readers of nested parts

Queries, selectors, conditions and calls hold each other. Their readers bound the steps by the
same number, so all of them are followed by one induction on it.
-/

namespace Reshape.PathQuery

open Footing

section

variable {s t : List Char}

/-- Making something of what was read does not move the end. -/
theorem exists_of_map {α β : Type} {read : Option (α × List Char)}
    {make : α × List Char → β × List Char} {made : β} (gives : read.map make = some (made, t))
    (keeps : ∀ part, (make part).2 = part.2) : ∃ part, read = some (part, t) := by
  obtain ⟨⟨part, after⟩, found, same⟩ := Option.map_eq_some_iff.1 gives
  have kept := keeps (part, after)
  rw [same] at kept
  obtain rfl : t = after := kept
  exact ⟨part, found⟩

/-! ### Selectors without conditions -/

theorem reads_bound {kind : Footing → Prop} (clear : ∀ footing, Clear footing → kind footing)
    (fresh : ∀ footing, kind footing → Fresh footing) (s : List Char) :
    Reads kind kind s (readBound s).2 := by
  rw [readBound]
  split
  · next found =>
    exact ((reads_integer found).weaken fresh fun _ => id).trans
      ((reads_clearBlanks _).weaken (fun _ => id) clear)
  · exact Reads.refl (fun _ => id) s

theorem reads_slice {selector : Selector} (read : readSlice s = some (selector, t)) :
    Reads Fresh Clear s t := by
  have first : Reads Fresh Fresh s (readBound s).2 :=
    reads_bound (fun _ => Clear.fresh) (fun _ => id) s
  rw [readSlice] at read
  split at read
  · next start rest found =>
    rw [found] at first
    have colon (t : List Char) : Reads Fresh Clear (':' :: t) t :=
      reads_start (by decide) (by decide) t
    have second : Reads Clear Clear (Json.skipBlanks rest) (readBound (Json.skipBlanks rest)).2 :=
      reads_bound (fun _ => id) (fun _ => Clear.fresh) _
    have front := first.trans ((colon rest).trans ((reads_clearBlanks rest).trans second))
    split at read
    · next stop more found =>
      rw [found] at front
      have behind := front.trans (colon more).ofFresh
      split at read
      · next step after found =>
        cases read
        exact behind.trans ((reads_clearBlanks more).trans (reads_integer found).ofFresh)
      · cases read
        exact behind
    · next stop after _ found =>
      cases read
      rw [found] at front
      exact front
  · cases read

theorem reads_plainSelector {selector : Selector}
    (read : readPlainSelector s = some (selector, t)) : Reads Fresh Plain s t := by
  unfold readPlainSelector at read
  split at read
  · cases read
    refine Reads.char (fun _ fresh => ?_) t
    exact ⟨_, step_fresh (by decide) fresh, true, rfl⟩
  · split at read
    · next found =>
      cases read
      exact (reads_text found).plain
    · split at read
      · next found =>
        cases read
        exact (reads_slice found).plain
      · obtain ⟨n, found⟩ := exists_of_map read fun _ => rfl
        exact (reads_integer found).plain

/-! ### Queries that lead to at most one node -/

theorem reads_origin {fromRoot : Bool} (read : readOrigin s = some (fromRoot, t)) :
    Reads Plain Plain s t := by
  unfold readOrigin at read
  split at read <;> cases read
  · exact reads_quiet (by decide) t
  · exact reads_quiet (by decide) t

/-- What stands in brackets, and the closing one. -/
theorem reads_closed {s t : List Char} (reads : Reads Fresh Plain s (']' :: t)) :
    Reads Plain Plain ('[' :: s) t :=
  (reads_open s).trans (reads.trans (reads_quiet (by decide) t))

theorem reads_singularSegment {segment : Segment}
    (read : readSingularSegment s = some (segment, t)) : Reads Plain Plain s t := by
  unfold readSingularSegment at read
  split at read
  · next rest =>
    obtain ⟨name, found⟩ := exists_of_map read fun _ => rfl
    exact (reads_dot rest).trans (reads_name found)
  · next rest =>
    split at read
    · next found =>
      cases read
      exact reads_closed (reads_text found).plain
    · cases read
    · split at read
      · next found =>
        cases read
        exact reads_closed (reads_integer found).plain
      · cases read
  · cases read

theorem reads_singularSegments (fuel : Nat) (s : List Char) :
    Reads Plain Plain s (readSingularSegments fuel s).2 := by
  induction fuel generalizing s with
  | zero => exact Reads.refl (fun _ => id) s
  | succ fuel ih =>
      rw [readSingularSegments]
      split
      · next segment rest found =>
        exact (reads_plainBlanks s).trans ((reads_singularSegment found).trans (ih rest))
      · exact Reads.refl (fun _ => id) s

theorem reads_singular {query : Query} (read : readSingular s = some (query, t)) :
    Reads Plain Plain s t := by
  obtain ⟨⟨fromRoot, rest⟩, found, same⟩ := Option.map_eq_some_iff.1 read
  cases same
  exact (reads_origin found).trans (reads_singularSegments rest.length rest)

end

/-! ### All readers -/

/-- Every reader with `fuel` steps reads from where its part may start to where it may end. -/
structure Readers (fuel : Nat) : Prop where
  query : ∀ {s t q}, readQuery fuel s = some (q, t) → Reads Plain Plain s t
  segments : ∀ {s t l}, readSegments fuel s = some (l, t) → Reads Plain Plain s t
  segment : ∀ {s t q}, readSegment fuel s = some (q, t) → Reads Plain Plain s t
  selectors : ∀ {s t l}, readSelectors fuel s = some (l, t) → Reads Fresh Plain s t
  selector : ∀ {s t q}, readSelector fuel s = some (q, t) → Reads Fresh Plain s t
  either : ∀ {s t q}, readEither fuel s = some (q, t) → Reads Clear Plain s t
  both : ∀ {s t q}, readBoth fuel s = some (q, t) → Reads Clear Plain s t
  basic : ∀ {s t q}, readBasic fuel s = some (q, t) → Reads Clear Plain s t
  parenthesized : ∀ {s t q}, readParenthesized fuel s = some (q, t) → Reads Clear Plain s t
  test : ∀ {s t q}, readTest fuel s = some (q, t) → Reads Clear Plain s t
  operand : ∀ {s t q}, readOperand fuel s = some (q, t) → Reads Clear Plain s t
  call : ∀ {s t q}, readCall fuel s = some (q, t) → Reads Clear Plain s t
  arguments : ∀ {s t l}, readArguments fuel s = some (l, t) → Reads Clear Plain s t
  argument : ∀ {s t q}, readArgument fuel s = some (q, t) → Reads Clear Plain s t

namespace Readers

variable {fuel : Nat} {s t : List Char}

theorem query_succ (readers : Readers fuel) {q : Query}
    (read : readQuery (fuel + 1) s = some (q, t)) : Reads Plain Plain s t := by
  rw [readQuery] at read
  split at read
  · cases read
  · next found =>
    obtain ⟨segments, behind⟩ := exists_of_map read fun _ => rfl
    exact (reads_origin found).trans (readers.segments behind)

theorem segments_succ (readers : Readers fuel) {l : List Segment}
    (read : readSegments (fuel + 1) s = some (l, t)) : Reads Plain Plain s t := by
  rw [readSegments] at read
  split at read
  · cases read
    exact Reads.refl (fun _ => id) s
  · next found =>
    obtain ⟨segments, behind⟩ := exists_of_map read fun _ => rfl
    exact (reads_plainBlanks s).trans ((readers.segment found).trans (readers.segments behind))

theorem segment_succ (readers : Readers fuel) {q : Segment}
    (read : readSegment (fuel + 1) s = some (q, t)) : Reads Plain Plain s t := by
  unfold readSegment at read
  split at read
  · cases read
    exact (reads_dots _).trans (reads_named (by decide) (by decide) t)
  · next rest =>
    obtain ⟨selectors, found⟩ := exists_of_map read fun _ => rfl
    exact (reads_dots _).trans ((reads_namedOpen rest).trans
      ((reads_freshBlanks rest).trans (readers.selectors found)))
  · obtain ⟨name, found⟩ := exists_of_map read fun _ => rfl
    exact (reads_dots _).trans (reads_name found)
  · cases read
    exact (reads_dot _).trans (reads_named (by decide) (by decide) t)
  · obtain ⟨name, found⟩ := exists_of_map read fun _ => rfl
    exact (reads_dot _).trans (reads_name found)
  · next rest =>
    obtain ⟨selectors, found⟩ := exists_of_map read fun _ => rfl
    exact (reads_open rest).trans ((reads_freshBlanks rest).trans (readers.selectors found))
  · cases read

/-- A part, blanks and a sign behind it. -/
theorem separated {start : Footing → Prop} {s t u : List Char} {c : Char}
    (reads : Reads start Plain s t) (blanks : Json.skipBlanks t = c :: u)
    (separator : isSeparator c = true) : Reads start Clear s u := by
  have behind := reads.trans (reads_plainBlanks t)
  rw [blanks] at behind
  exact behind.trans (reads_separator separator u)

theorem selectors_succ (readers : Readers fuel) {l : List Selector}
    (read : readSelectors (fuel + 1) s = some (l, t)) : Reads Fresh Plain s t := by
  rw [readSelectors] at read
  split at read
  · cases read
  · next found =>
    have first := readers.selector found
    split at read
    · next more comma =>
      obtain ⟨selectors, behind⟩ := exists_of_map read fun _ => rfl
      exact (separated first comma (by decide)).trans ((reads_clearBlanks more).trans
        (readers.selectors behind).ofFresh)
    · next closing =>
      cases read
      have behind := first.trans (reads_plainBlanks _)
      rw [closing] at behind
      exact behind.trans (reads_quiet (by decide) t)
    · cases read

theorem selector_succ (readers : Readers fuel) {q : Selector}
    (read : readSelector (fuel + 1) s = some (q, t)) : Reads Fresh Plain s t := by
  unfold readSelector at read
  split at read
  · next rest =>
    obtain ⟨condition, found⟩ := exists_of_map read fun _ => rfl
    exact (reads_start (by decide) (by decide) rest).trans
      ((reads_clearBlanks rest).trans (readers.either found))
  · exact reads_plainSelector read

/-- A part, and another one behind a sign of two characters. -/
theorem joined {s t u : List Char} {c : Char} (first : Reads Clear Plain s t)
    (sign : Json.skipBlanks t = c :: c :: u) (separator : isSeparator c = true) :
    Reads Clear Clear s (Json.skipBlanks u) :=
  (separated first sign separator).trans
    ((reads_separator separator u).ofPlain.trans (reads_clearBlanks u))

theorem either_succ (readers : Readers fuel) {q : Condition}
    (read : readEither (fuel + 1) s = some (q, t)) : Reads Clear Plain s t := by
  rw [readEither] at read
  split at read
  · cases read
  · next found =>
    have first := readers.both found
    split at read
    · next more sign =>
      obtain ⟨second, behind⟩ := exists_of_map read fun _ => rfl
      exact (joined first sign (by decide)).trans (readers.either behind)
    · cases read
      exact first

theorem both_succ (readers : Readers fuel) {q : Condition}
    (read : readBoth (fuel + 1) s = some (q, t)) : Reads Clear Plain s t := by
  rw [readBoth] at read
  split at read
  · cases read
  · next found =>
    have first := readers.basic found
    split at read
    · next more sign =>
      obtain ⟨second, behind⟩ := exists_of_map read fun _ => rfl
      exact (joined first sign (by decide)).trans (readers.both behind)
    · cases read
      exact first

/-- A sign in front of a condition. -/
theorem reads_before {c : Char} (separator : isSeparator c = true) (s : List Char) :
    Reads Clear Clear (c :: s) s :=
  (reads_separator separator s).ofPlain

theorem basic_succ (readers : Readers fuel) {q : Condition}
    (read : readBasic (fuel + 1) s = some (q, t)) : Reads Clear Plain s t := by
  unfold readBasic at read
  split at read
  · next rest =>
    have front := (reads_before (c := '!') (by decide) rest).trans (reads_clearBlanks rest)
    split at read
    · next more opening =>
      obtain ⟨condition, found⟩ := exists_of_map read fun _ => rfl
      rw [opening] at front
      exact front.trans ((reads_before (by decide) more).trans (readers.parenthesized found))
    · obtain ⟨condition, found⟩ := exists_of_map read fun _ => rfl
      exact front.trans (readers.test found)
  · next rest => exact (reads_before (by decide) rest).trans (readers.parenthesized read)
  · split at read
    · exact readers.test read
    · next left rest found =>
      split at read
      · exact readers.test read
      · next relation more sign =>
        obtain ⟨right, behind⟩ := exists_of_map read fun _ => rfl
        exact (readers.operand found).trans ((reads_plainBlanks rest).trans
          ((reads_relation sign).trans ((reads_clearBlanks more).trans (readers.operand behind))))

theorem parenthesized_succ (readers : Readers fuel) {q : Condition}
    (read : readParenthesized (fuel + 1) s = some (q, t)) : Reads Clear Plain s t := by
  rw [readParenthesized] at read
  split at read
  · cases read
  · next found =>
    split at read
    · next closing =>
      cases read
      exact (reads_clearBlanks s).trans
        (separated (readers.either found) closing (by decide)).plain
    · cases read

theorem test_succ (readers : Readers fuel) {q : Condition}
    (read : readTest (fuel + 1) s = some (q, t)) : Reads Clear Plain s t := by
  rw [readTest] at read
  split at read
  · next found =>
    cases read
    exact (readers.query found).ofPlain
  · split at read
    · next found =>
      cases read
      exact readers.call found
    · cases read

theorem operand_succ (readers : Readers fuel) {q : Operand}
    (read : readOperand (fuel + 1) s = some (q, t)) : Reads Clear Plain s t := by
  rw [readOperand] at read
  split at read
  · next found =>
    cases read
    exact reads_literal found
  · split at read
    · next found =>
      cases read
      exact (reads_singular found).ofPlain
    · split at read
      · next found =>
        cases read
        exact readers.call found
      · cases read

theorem call_succ (readers : Readers fuel) {q : Called}
    (read : readCall (fuel + 1) s = some (q, t)) : Reads Clear Plain s t := by
  rw [readCall] at read
  split at read
  · cases read
  · next name rest found =>
    split at read
    · cases read
    · next arguments after behind =>
      obtain ⟨called, -, same⟩ := Option.map_eq_some_iff.1 read
      cases same
      exact (reads_functionName found).ofPlain.trans
        ((reads_clearBlanks rest).trans (readers.arguments behind))

theorem arguments_succ (readers : Readers fuel) {l : List Argument}
    (read : readArguments (fuel + 1) s = some (l, t)) : Reads Clear Plain s t := by
  rw [readArguments] at read
  split at read
  · cases read
  · next found =>
    have first := readers.argument found
    split at read
    · next more comma =>
      obtain ⟨arguments, behind⟩ := exists_of_map read fun _ => rfl
      exact (separated first comma (by decide)).trans
        ((reads_clearBlanks more).trans (readers.arguments behind))
    · next closing =>
      cases read
      exact (separated first closing (by decide)).plain
    · cases read

theorem argument_succ (readers : Readers fuel) {q : Argument}
    (read : readArgument (fuel + 1) s = some (q, t)) : Reads Clear Plain s t := by
  rw [readArgument] at read
  split at read
  · next found =>
    cases read
    exact reads_literal found
  · split at read
    · next found =>
      cases read
      exact (readers.query found).ofPlain
    · split at read
      · next found =>
        cases read
        exact readers.call found
      · cases read

end Readers

theorem readers (fuel : Nat) : Readers fuel := by
  induction fuel with
  | zero => constructor <;> exact nofun
  | succ fuel ih =>
      exact ⟨ih.query_succ, ih.segments_succ, ih.segment_succ, ih.selectors_succ, ih.selector_succ,
        ih.either_succ, ih.both_succ, ih.basic_succ, ih.parenthesized_succ, ih.test_succ,
        ih.operand_succ, ih.call_succ, ih.arguments_succ, ih.argument_succ⟩

/-- A strict expression passes. -/
theorem Query.passes_of_parse? {s : List Char} {query : Query}
    (parsed : Query.parse? s = some query) : Passes .outside s := by
  rw [Query.parse?] at parsed
  split at parsed
  · next found =>
    obtain ⟨front, whole, ran⟩ := (readers _).query found
    rw [List.append_nil] at whole
    obtain ⟨last, passed, -⟩ := ran (.plain false) ⟨false, rfl⟩
    rw [← whole] at passed
    exact ⟨.plain false, last, rfl, passed⟩
  · cases parsed

end Reshape.PathQuery
