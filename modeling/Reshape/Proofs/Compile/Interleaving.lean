/-
Module: Reshape.Proofs.Compile.Interleaving
Purpose: what a collection holds after calls for several collectors, in whatever order they
  come, and what it is filled with.
Main exports: Collection.Call, Collection.after, Collection.mentions, Collection.Orderly,
  Collection.gathered, Collection.finish_after
Trusted boundary: none
-/
import Mathlib.Data.List.Induction
import Reshape.Proofs.Compile.Acceptance

/-!
# Interleaved calls

Calls that declare fragments, add rules and leave slots open may come in any order and for any
collector. Each call adds at most one slot, at the end of the body of its own collector, and a
body is started by the first call that mentions its fragment. So a body is what the calls for
it have added, in their order, and the bodies stand in the order in which their fragments were
first mentioned.
-/

namespace Reshape

/-- The fragment whose body a collector is. -/
def Collector.fragment? : Collector → Option String
  | .program => none
  | .fragment name => some name

namespace Collection

/-! ### Calls -/

/-- A call to a collection. -/
inductive Call where
  /-- Start the body of a fragment. -/
  | declare (name : String)
  /-- Add a rule to a collector. -/
  | push (collector : Collector) (rule : Rule)
  /-- Leave a slot open for a fragment, at an address of a collector. -/
  | enqueue (collector : Collector) (base : Address) (fragment : String)

/-- The fragment that a call declares or whose body it adds to. -/
def Call.mention? : Call → Option String
  | .declare name => some name
  | .push collector _ => collector.fragment?
  | .enqueue collector _ _ => collector.fragment?

/-- The slot that a call adds to a collector. -/
def Call.slot? (collector : Collector) : Call → Option Slot
  | .declare _ => none
  | .push target rule => if target = collector then some (.rule rule) else none
  | .enqueue target base fragment =>
      if target = collector then some (.spread base fragment) else none

/-- The collection after one call. Only a declaration can fail. -/
def perform (collection : Collection) : Call → Except CompileError Collection
  | .declare name => collection.declare name
  | .push collector rule => .ok (collection.add collector [.rule rule])
  | .enqueue collector base fragment => .ok (collection.add collector [.spread base fragment])

/-- The collection after calls in turn. After one that fails it goes on with what it was. -/
def after (calls : List Call) : Collection :=
  calls.foldl (fun collection call => (collection.perform call).toOption.getD collection) .empty

/-- The fragments that calls mention, in the order of their first mention. -/
def mentions (calls : List Call) : List String :=
  (calls.filterMap Call.mention?).eraseDups

/-- The slots that calls add to a collector, in the order of the calls. -/
def slotsFor (collector : Collector) (calls : List Call) : List Slot :=
  calls.filterMap (Call.slot? collector)

variable {calls : List Call}

theorem mem_mentions {name : String} :
    name ∈ mentions calls ↔ ∃ call ∈ calls, call.mention? = some name := by
  rw [mentions, List.mem_eraseDups, List.mem_filterMap]

/-- A name that is mentioned again keeps its place, and a new one goes to the end. -/
theorem mentions_concat (calls : List Call) (call : Call) :
    mentions (calls ++ [call]) =
      mentions calls ++ call.mention?.toList.filter (· ∉ mentions calls) := by
  have known (name : String) : name ∈ mentions calls ↔ name ∈ calls.filterMap Call.mention? :=
    List.mem_eraseDups
  have single : [call].filterMap Call.mention? = call.mention?.toList := by
    cases mentioned : call.mention? <;> simp [mentioned]
  rw [mentions, List.filterMap_append, List.eraseDups_append, single]
  refine congrArg (mentions calls ++ ·) ?_
  simp only [known, List.removeAll, List.elem_eq_mem]
  cases call.mention? with
  | none => rfl
  | some name =>
      by_cases before : name ∈ calls.filterMap Call.mention? <;>
        simp only [before, Option.toList_some, List.filter_singleton, decide_true, decide_false,
          Bool.not_true, Bool.not_false, not_true, not_false_iff, cond_true, cond_false]
      · rfl
      · rfl

theorem nodup_mentions (calls : List Call) : (mentions calls).Nodup := by
  induction calls using List.reverseRecOn with
  | nil => exact .nil
  | append_singleton calls call ih =>
      rw [mentions_concat, List.nodup_append]
      refine ⟨ih, ?_, ?_⟩
      · cases call.mention? <;> simp [List.filter_cons]
        split <;> simp
      · rintro name inside other new rfl
        simpa [inside] using (List.mem_filter.1 new).2

/-! ### What is collected -/

/-- Bodies by their names. -/
def bodiesOf (names : List String) (body : String → List Slot) : List (String × List Slot) :=
  names.map fun name => (name, body name)

theorem map_fst_bodiesOf (names : List String) (body : String → List Slot) :
    (bodiesOf names body).map Prod.fst = names := by
  simp [bodiesOf, Function.comp_def]

/-- Slots for a fragment go to its body, which is started when it is new. -/
theorem addToFragment_bodiesOf {name : String} {slots : List Slot} {names : List String}
    {body body' : String → List Slot} (distinct : names.Nodup)
    (own : name ∈ names → body' name = body name ++ slots) (new : name ∉ names → body' name = slots)
    (others : ∀ other ∈ names, other ≠ name → body' other = body other) :
    addToFragment name slots (bodiesOf names body) =
      bodiesOf (names ++ [name].filter (· ∉ names)) body' := by
  induction names with
  | nil => simp [bodiesOf, addToFragment, new]
  | cons first names ih =>
      obtain ⟨fresh, distinct⟩ := List.nodup_cons.1 distinct
      have whole : bodiesOf (first :: names) body =
          (first, body first) :: bodiesOf names body := rfl
      rw [whole, addToFragment]
      by_cases same : first = name
      · subst same
        have rest : bodiesOf names body = bodiesOf names body' := by
          refine List.map_congr_left fun other inside => ?_
          rw [others other (List.mem_cons_of_mem _ inside) fun same => fresh (same ▸ inside)]
        rw [if_pos rfl, rest]
        simp [bodiesOf, own]
      · rw [if_neg same, ih distinct (fun inside => own (List.mem_cons_of_mem _ inside))
          (fun absent => new (by simp [Ne.symm same, absent]))
          fun other inside => others other (List.mem_cons_of_mem _ inside)]
        have kept : [name].filter (· ∉ first :: names) = [name].filter (· ∉ names) :=
          List.filter_congr fun other inside => by
            obtain rfl := List.mem_singleton.1 inside
            simp [Ne.symm same]
        rw [kept]
        simp [bodiesOf, others first List.mem_cons_self same]

theorem slotsFor_concat (collector : Collector) (calls : List Call) (call : Call) :
    slotsFor collector (calls ++ [call]) =
      slotsFor collector calls ++ (call.slot? collector).toList := by
  cases added : call.slot? collector <;> simp [slotsFor, List.filterMap_append, added]

/-- A declaration adds no slot. -/
theorem slotsFor_declare (collector : Collector) (calls : List Call) (name : String) :
    slotsFor collector (calls ++ [.declare name]) = slotsFor collector calls := by
  rw [slotsFor_concat, Call.slot?, Option.toList_none, List.append_nil]

/-- Nothing is collected for a fragment that is not mentioned. -/
theorem slotsFor_of_notMem {name : String} (absent : name ∉ mentions calls) :
    slotsFor (.fragment name) calls = [] := by
  refine List.filterMap_eq_nil_iff.2 fun call inside => ?_
  have other : call.mention? ≠ some name := fun mentioned =>
    absent (mem_mentions.2 ⟨call, inside, mentioned⟩)
  cases call with
  | declare name => rfl
  | push target rule =>
      refine if_neg ?_
      rintro rfl
      exact other rfl
  | enqueue target base fragment =>
      refine if_neg ?_
      rintro rfl
      exact other rfl

/-- The collection that holds for each collector what the calls add to it. -/
def collected (calls : List Call) : Collection :=
  ⟨slotsFor .program calls, bodiesOf (mentions calls) fun name => slotsFor (.fragment name) calls⟩

theorem names_collected (calls : List Call) : (collected calls).names = mentions calls :=
  map_fst_bodiesOf _ _

theorem declare_collected (calls : List Call) (name : String) :
    (collected calls).declare name =
      if name ∈ mentions calls then .error (.duplicateFragment name)
      else .ok (collected (calls ++ [.declare name])) := by
  rw [declare, names_collected]
  split
  · rfl
  · next new =>
    have names : mentions (calls ++ [.declare name]) = mentions calls ++ [name] := by
      rw [mentions_concat, Call.mention?, Option.toList_some, List.filter_singleton]
      simp [new]
    simp [collected, slotsFor_declare, names, bodiesOf, slotsFor_of_notMem new]

/-- A call that adds a slot to a collector, and nothing to the others. -/
structure Call.Adds (call : Call) (target : Collector) (slot : Slot) : Prop where
  mention : call.mention? = target.fragment?
  own : call.slot? target = some slot
  others : ∀ collector, target ≠ collector → call.slot? collector = none

theorem add_collected {call : Call} {target : Collector} {slot : Slot}
    (adds : call.Adds target slot) :
    (collected calls).add target [slot] = collected (calls ++ [call]) := by
  have same : slotsFor target (calls ++ [call]) = slotsFor target calls ++ [slot] := by
    rw [slotsFor_concat, adds.own, Option.toList_some]
  have others (collector : Collector) (differ : target ≠ collector) :
      slotsFor collector (calls ++ [call]) = slotsFor collector calls := by
    rw [slotsFor_concat, adds.others collector differ, Option.toList_none, List.append_nil]
  cases target with
  | program =>
      have names : mentions (calls ++ [call]) = mentions calls := by
        rw [mentions_concat, adds.mention]
        exact List.append_nil _
      have body (name : String) := others (.fragment name) (by simp)
      simp only [collected, add, same, names, body]
  | fragment name =>
      have names : mentions (calls ++ [call]) =
          mentions calls ++ [name].filter (· ∉ mentions calls) := by
        rw [mentions_concat, adds.mention]
        rfl
      have program := others .program (by simp)
      rw [collected, collected, add, program, names]
      refine congrArg _ (addToFragment_bodiesOf (nodup_mentions calls) (fun _ => same) ?_ ?_)
      · intro new
        rw [same, slotsFor_of_notMem new, List.nil_append]
      · intro other _ differ
        exact others _ fun equal => differ (Collector.fragment.inj equal).symm

/-- A call that succeeds adds what it adds to its collector. -/
theorem perform_collected (calls : List Call) (call : Call) :
    ((collected calls).perform call).toOption.getD (collected calls) =
      collected (calls ++ [call]) := by
  cases call with
  | declare name =>
      rw [perform, declare_collected]
      split
      · next known =>
        have names : mentions (calls ++ [.declare name]) = mentions calls := by
          rw [mentions_concat, Call.mention?, Option.toList_some, List.filter_singleton]
          simp [known]
        simp [collected, slotsFor_declare, names, Except.toOption]
      · rfl
  | push target rule =>
      exact add_collected ⟨rfl, if_pos rfl, fun collector differ => if_neg differ⟩
  | enqueue target base fragment =>
      exact add_collected ⟨rfl, if_pos rfl, fun collector differ => if_neg differ⟩

/-- However calls interleave, each collector holds what the calls for it have added. -/
theorem after_eq_collected (calls : List Call) : after calls = collected calls := by
  induction calls using List.reverseRecOn with
  | nil => rfl
  | append_singleton calls call ih =>
      rw [← perform_collected, ← ih, after, List.foldl_append]
      rfl

/-! ### What is filled in -/

/-- The names of the slots that calls leave open for a fragment in a collector. -/
theorem spread_mem_slotsFor {collector : Collector} {base : Address} {fragment : String} :
    .spread base fragment ∈ slotsFor collector calls ↔
      .enqueue collector base fragment ∈ calls := by
  rw [slotsFor, List.mem_filterMap]
  constructor
  · rintro ⟨call, inside, added⟩
    cases call with
    | declare name => cases added
    | push target rule => simp [Call.slot?] at added
    | enqueue target around name =>
        simp only [Call.slot?, Option.ite_none_right_eq_some, Option.some.injEq,
          Slot.spread.injEq] at added
        obtain ⟨rfl, rfl, rfl⟩ := added
        exact inside
  · exact fun inside => ⟨_, inside, if_pos rfl⟩

theorem idxOf_lt_iff {front back : List String} {name other : String} (fresh : name ∉ front) :
    (front ++ name :: back).idxOf other < (front ++ name :: back).idxOf name ↔ other ∈ front := by
  rw [List.idxOf_append, List.idxOf_append, if_neg fresh, List.idxOf_cons_self, Nat.zero_add]
  split
  · next inside => exact iff_of_true (List.idxOf_lt_length_iff.2 inside) inside
  · next absent => exact iff_of_false (by omega) absent

/-- Bodies can be filled in turn when each spreads only fragments that stand before it. -/
theorem resolves_iff_idxOf {names : List String} (distinct : names.Nodup)
    (named : String → List String) :
    Resolves [] (names.map fun name => (name, named name)) ↔
      ∀ name ∈ names, ∀ other ∈ named name, names.idxOf other < names.idxOf name := by
  have fresh {front back : List String} {name : String} (whole : names = front ++ name :: back) :
      name ∉ front := by
    rw [whole, List.nodup_append] at distinct
    exact fun inside => distinct.2.2 name inside name List.mem_cons_self rfl
  constructor
  · intro resolves name inside other spread
    obtain ⟨front, back, whole⟩ := List.append_of_mem inside
    have split : names.map (fun name => (name, named name)) =
        front.map (fun name => (name, named name)) ++
          (name, named name) :: back.map fun name => (name, named name) := by
      rw [whole, List.map_append, List.map_cons]
    have earlier := resolves split other spread
    rw [List.nil_append, List.map_map] at earlier
    rw [whole, idxOf_lt_iff (fresh whole)]
    simpa using earlier
  · intro ordered front name spreads back split other spread
    obtain ⟨before, rest, whole, rfl, later⟩ := List.map_eq_append_iff.1 split
    obtain ⟨own, behind, rfl, same, -⟩ := List.map_eq_cons_iff.1 later
    cases same
    have earlier := ordered name (by simp [whole]) other spread
    rw [whole, idxOf_lt_iff (fresh whole)] at earlier
    simpa using earlier

/-- Every spread names a fragment that is mentioned, and in the body of a fragment one that is
first mentioned before that fragment itself. -/
structure Orderly (calls : List Call) : Prop where
  bodies : ∀ name base fragment, .enqueue (.fragment name) base fragment ∈ calls →
    (mentions calls).idxOf fragment < (mentions calls).idxOf name
  program : ∀ base fragment, .enqueue .program base fragment ∈ calls → fragment ∈ mentions calls

theorem exists_fillFragments_collected (calls : List Call) :
    (∃ table, fillFragments (mentions calls) [] (collected calls).fragments = .ok table) ↔
      ∀ name base fragment, .enqueue (.fragment name) base fragment ∈ calls →
        (mentions calls).idxOf fragment < (mentions calls).idxOf name := by
  have whole : references (collected calls).fragments = (mentions calls).map fun name =>
      (name, Slot.fragments (slotsFor (.fragment name) calls)) := by
    rw [references, collected, bodiesOf, List.map_map]
    rfl
  rw [exists_fillFragments, List.map_nil, whole, resolves_iff_idxOf (nodup_mentions calls)]
  simp only [Slot.mem_fragments, spread_mem_slotsFor]
  constructor
  · intro ordered name base fragment inside
    exact ordered name (mem_mentions.2 ⟨_, inside, rfl⟩) fragment ⟨base, inside⟩
  · rintro ordered name - fragment ⟨base, inside⟩
    exact ordered name base fragment inside

/-- The fragments of a table that was filled are those mentioned, in their order. -/
theorem map_fst_filled {table : FragmentTable}
    (filled : fillFragments (mentions calls) [] (collected calls).fragments = .ok table) :
    table.map Prod.fst = mentions calls := by
  rw [map_fst_fillFragments filled, List.map_nil, List.nil_append, references, List.map_map]
  exact names_collected calls

theorem exists_finish_iff (calls : List Call) :
    (∃ result, (after calls).finish = .ok result) ↔ Orderly calls := by
  rw [after_eq_collected]
  constructor
  · rintro ⟨⟨rules, table⟩, finished⟩
    obtain ⟨filled, known, -⟩ := finish_eq_ok.1 finished
    rw [names_collected] at filled
    refine ⟨(exists_fillFragments_collected calls).1 ⟨table, filled⟩, ?_⟩
    intro base fragment inside
    rw [← map_fst_filled filled, ← isSome_lookup_iff]
    exact known base fragment (spread_mem_slotsFor.2 inside)
  · rintro ⟨bodies, program⟩
    obtain ⟨table, filled⟩ := (exists_fillFragments_collected calls).2 bodies
    refine ⟨(_, table), finish_eq_ok.2 ⟨names_collected calls ▸ filled, ?_, rfl⟩⟩
    intro base fragment inside
    rw [isSome_lookup_iff, map_fst_filled filled]
    exact program base fragment (spread_mem_slotsFor.1 inside)

/-- The rules that a call gives a collector: its own rule, or those of the fragment that it
spreads, each under the address of the spread. -/
def Call.rules (table : FragmentTable) (collector : Collector) : Call → List Rule
  | .declare _ => []
  | .push target rule => if target = collector then [rule] else []
  | .enqueue target base fragment =>
      if target = collector then ((table.lookup fragment).getD []).map (Rule.under base) else []

/-- The rules that calls give a collector, in the order of the calls. -/
def gathered (table : FragmentTable) (collector : Collector) (calls : List Call) : List Rule :=
  calls.flatMap (Call.rules table collector)

theorem allRules_slotsFor (table : FragmentTable) (collector : Collector) (calls : List Call) :
    Slot.allRules table (slotsFor collector calls) = gathered table collector calls := by
  rw [Slot.allRules, slotsFor, List.filterMap_eq_flatMap_toList, List.flatMap_assoc, gathered]
  refine List.flatMap_congr fun call _ => ?_
  cases call with
  | declare name => rfl
  | push target rule =>
      rw [Call.slot?, Call.rules]
      split <;> simp [Slot.rules]
  | enqueue target base fragment =>
      rw [Call.slot?, Call.rules]
      split <;> simp [Slot.rules]

/-- Nothing is lost or doubled, however the calls interleave. A declaration fails when its
fragment was mentioned before, and then changes nothing. All slots can be filled when the calls
are orderly, and then the fragments stand in the order of their first mention, each with what
the calls for it give, and so does the program. -/
theorem finish_after (calls : List Call) :
    (∀ name error, (after calls).declare name = .error error ↔
        name ∈ mentions calls ∧ error = .duplicateFragment name) ∧
      (∀ name ∈ mentions calls, after (calls ++ [.declare name]) = after calls) ∧
      ((∃ result, (after calls).finish = .ok result) ↔ Orderly calls) ∧
      ∀ rules table, (after calls).finish = .ok (rules, table) →
        table = (mentions calls).map (fun name => (name, gathered table (.fragment name) calls)) ∧
          rules = gathered table .program calls := by
  refine ⟨fun name error => ?_, fun name known => ?_, exists_finish_iff calls, ?_⟩
  · rw [after_eq_collected, declare_collected]
    split
    · next known => simp [known, eq_comm]
    · next new => simp [new]
  · have declared : (after calls).perform (.declare name) = .error (.duplicateFragment name) := by
      rw [after_eq_collected, perform, declare_collected, if_pos known]
    rw [after, List.foldl_append, ← after, List.foldl_cons, declared]
    rfl
  · intro rules table finished
    rw [after_eq_collected] at finished
    obtain ⟨filled, -, program⟩ := finish_eq_ok.1 finished
    have whole := fillFragments_eq filled
    refine ⟨whole.trans ?_, program.trans (allRules_slotsFor _ _ _)⟩
    rw [List.nil_append, collected, bodiesOf, List.map_map]
    exact List.map_congr_left fun name _ => congrArg (name, ·) (allRules_slotsFor _ _ _)

/-- Two bodies and the program grow in turn, one of them is declared too late, and the spread in
the program comes before the rules of its fragment. -/
theorem finish_after_interleaved :
    let calls : List Call := [.enqueue .program ⟨"a.b"⟩ "g", .push (.fragment "f") ⟨⟨"x"⟩, []⟩,
      .declare "f", .push (.fragment "g") ⟨⟨""⟩, []⟩, .enqueue (.fragment "g") ⟨"y"⟩ "f",
      .push .program ⟨⟨"c"⟩, []⟩, .push (.fragment "f") ⟨⟨"z"⟩, []⟩]
    mentions calls = ["f", "g"] ∧ Orderly calls ∧
      ∃ rules table, (after calls).finish = .ok (rules, table) ∧
        table = (mentions calls).map (fun name => (name, gathered table (.fragment name) calls)) ∧
        rules.map (·.address.text) = ["a.b", "a.b.y.x", "a.b.y.z", "c"] := by
  intro calls
  obtain ⟨-, -, succeeds, filled⟩ := finish_after calls
  have finished : (after calls).finish = .ok (_, _) := rfl
  exact ⟨by decide, succeeds.1 ⟨_, finished⟩, _, _, finished, (filled _ _ finished).1, rfl⟩

end Collection

end Reshape
