/-
Module: Reshape.Proofs.Compile.Collected
Purpose: when the slots of a document are collected and filled with success, and what
  rules they are filled with.
Main exports: Slot.rules, Collection.fillFragments_eq, Compile.collect_eq_ok,
  Compile.compileDocument_eq_ok
Trusted boundary: none
-/
import Mathlib.Data.List.Basic
import Reshape.Compile.Basic
import Reshape.Proofs.Except

/-!
# Collected rules

A document compiles when its fragments have different names and every slot left open for
a fragment is filled from the fragments filled before. A fragment is filled once, with
part of the table, and what it is filled with is what the whole table gives.
-/

namespace Reshape

/-- The rules that a slot stands for, given those of the fragments. -/
def Slot.rules (table : FragmentTable) : Slot → List Rule
  | .rule own => [own]
  | .spread base fragment => ((table.lookup fragment).getD []).map (Rule.under base)

/-- The rules that a list of slots stands for. -/
def Slot.allRules (table : FragmentTable) (slots : List Slot) : List Rule :=
  slots.flatMap (Slot.rules table)

namespace Slot

variable {table other : FragmentTable} {slots : List Slot}

theorem allRules_append (table : FragmentTable) (slots more : List Slot) :
    allRules table (slots ++ more) = allRules table slots ++ allRules table more :=
  List.flatMap_append

theorem allRules_map_rule (table : FragmentTable) (rules : List Rule) :
    allRules table (rules.map .rule) = rules := by
  induction rules with
  | nil => rfl
  | cons first rules ih => exact congrArg (first :: ·) ih

/-- Only the fragments that are spread count. -/
theorem allRules_congr
    (same : ∀ base fragment, .spread base fragment ∈ slots →
      table.lookup fragment = other.lookup fragment) :
    allRules table slots = allRules other slots := by
  refine List.flatMap_congr fun slot inside => ?_
  cases slot with
  | rule own => rfl
  | spread base fragment => simp only [rules, same base fragment inside]

end Slot

namespace Collection

open Slot (allRules)

variable {collector : Collector} {table filled : FragmentTable} {declared : List String}

/-! ### Filling -/

/-- The slots are filled when all fragments that they spread are there. -/
theorem fill_eq_ok {slots : List Slot} {rules : List Rule} :
    fill collector table declared slots = .ok rules ↔
      (∀ base fragment, .spread base fragment ∈ slots → (table.lookup fragment).isSome) ∧
        rules = allRules table slots := by
  induction slots generalizing rules with
  | nil => simp [fill, allRules, eq_comm (b := rules)]
  | cons slot slots ih =>
      cases slot with
      | rule rule =>
          simp only [fill, map_eq_ok, ih, allRules, List.flatMap_cons, Slot.rules, List.mem_cons,
            reduceCtorEq, false_or]
          constructor
          · rintro ⟨_, ⟨known, rfl⟩, rfl⟩
            exact ⟨known, rfl⟩
          · rintro ⟨known, rfl⟩
            exact ⟨_, ⟨known, rfl⟩, rfl⟩
      | spread base fragment =>
          rw [fill]
          cases found : table.lookup fragment with
          | none =>
              simp only [reduceCtorEq, false_iff]
              rintro ⟨known, -⟩
              simpa [found] using known base fragment (by simp)
          | some body =>
              simp only [map_eq_ok, ih, allRules, List.flatMap_cons, Slot.rules, found,
                Option.getD_some]
              constructor
              · rintro ⟨_, ⟨known, rfl⟩, rfl⟩
                refine ⟨fun around name inside => ?_, rfl⟩
                rcases List.mem_cons.1 inside with same | inside
                · cases same
                  simp [found]
                · exact known around name inside
              · rintro ⟨known, rfl⟩
                refine ⟨_, ⟨fun around name inside => ?_, rfl⟩, rfl⟩
                exact known around name (by simp [inside])

theorem fillFragments_cons {name : String} {slots : List Slot}
    {fragments : List (String × List Slot)} :
    fillFragments declared table ((name, slots) :: fragments) = .ok filled ↔
      (∀ base fragment, .spread base fragment ∈ slots → (table.lookup fragment).isSome) ∧
        fillFragments declared (table ++ [(name, allRules table slots)]) fragments =
          .ok filled := by
  rw [fillFragments]
  cases result : fill (.fragment name) table declared slots with
  | error e =>
      simp only [reduceCtorEq, false_iff]
      rintro ⟨known, -⟩
      rw [fill_eq_ok.2 ⟨known, rfl⟩] at result
      cases result
  | ok rules =>
      obtain ⟨known, rfl⟩ := fill_eq_ok.1 result
      exact ⟨fun more => ⟨known, more⟩, And.right⟩

theorem lookup_append_of_isSome {name : String} (more : FragmentTable)
    (known : (table.lookup name).isSome) : (table ++ more).lookup name = table.lookup name := by
  obtain ⟨rules, found⟩ := Option.isSome_iff_exists.1 known
  simp [List.lookup_append, found]

theorem lookup_of_mem {β : Type} {entries : List (String × β)} {name : String} {value : β}
    (distinct : (entries.map Prod.fst).Nodup) (inside : (name, value) ∈ entries) :
    entries.lookup name = some value := by
  obtain ⟨front, back, rfl⟩ := List.append_of_mem inside
  refine List.lookup_eq_some_iff.2 ⟨front, back, rfl, fun entry before => ?_⟩
  rw [List.map_append, List.nodup_append] at distinct
  exact bne_iff_ne.2 (distinct.2.2 entry.1 (List.mem_map_of_mem before) name (by simp)).symm

/-- Every fragment holds the rules that its slots stand for in the whole table. -/
theorem fillFragments_eq {fragments : List (String × List Slot)}
    (succeeds : fillFragments declared table fragments = .ok filled) :
    filled = table ++ fragments.map fun entry => (entry.1, allRules filled entry.2) := by
  induction fragments generalizing table with
  | nil =>
      cases succeeds
      simp
  | cons fragment fragments ih =>
      obtain ⟨name, slots⟩ := fragment
      obtain ⟨known, rest⟩ := fillFragments_cons.1 succeeds
      have whole := ih rest
      have same : allRules table slots = allRules filled slots := by
        refine Slot.allRules_congr fun base fragment inside => ?_
        rw [whole, List.append_assoc, lookup_append_of_isSome _ (known base fragment inside)]
      rw [same, List.append_assoc] at whole
      exact whole

/-- Every slot that was filled spreads a fragment of the table. -/
theorem isSome_lookup_of_fillFragments {fragments : List (String × List Slot)}
    (succeeds : fillFragments declared table fragments = .ok filled) {name : String}
    {slots : List Slot} (inside : (name, slots) ∈ fragments) {base : Address} {fragment : String}
    (spread : .spread base fragment ∈ slots) : (filled.lookup fragment).isSome := by
  induction fragments generalizing table with
  | nil => cases inside
  | cons first fragments ih =>
      obtain ⟨known, rest⟩ := fillFragments_cons.1 succeeds
      rcases List.mem_cons.1 inside with rfl | inside
      · have found := known base fragment spread
        rwa [fillFragments_eq rest, List.append_assoc, lookup_append_of_isSome _ found]
      · exact ih rest inside

/-- To prove something of all fragments, prove it of each from the fragments it spreads. -/
theorem fillFragments_induction {motive : String → Prop} {fragments : List (String × List Slot)}
    (succeeds : fillFragments declared table fragments = .ok filled)
    (start : ∀ name, (table.lookup name).isSome → motive name)
    (step : ∀ name slots, (name, slots) ∈ fragments →
      (∀ base fragment, .spread base fragment ∈ slots → motive fragment) → motive name) :
    ∀ name, (filled.lookup name).isSome → motive name := by
  induction fragments generalizing table with
  | nil =>
      cases succeeds
      exact start
  | cons fragment fragments ih =>
      obtain ⟨first, slots⟩ := fragment
      obtain ⟨known, rest⟩ := fillFragments_cons.1 succeeds
      refine ih rest ?_ fun name slots inside => step name slots (by simp [inside])
      intro name found
      by_cases old : (table.lookup name).isSome
      · exact start name old
      · have same : name = first := by
          rw [List.lookup_append, Option.not_isSome_iff_eq_none.1 old, Option.none_or] at found
          simpa using found
        rw [same]
        exact step first slots (by simp) fun base fragment inside =>
          start fragment (known base fragment inside)

/-- Fragments that spread nothing can be filled. -/
theorem fillFragments_of_rules (declared : List String) (table : FragmentTable)
    (fragments : List (String × List Rule)) :
    fillFragments declared table (fragments.map fun entry => (entry.1, entry.2.map .rule)) =
      .ok (table ++ fragments) := by
  induction fragments generalizing table with
  | nil => simp [fillFragments]
  | cons fragment fragments ih =>
      obtain ⟨name, rules⟩ := fragment
      rw [List.map_cons, fillFragments_cons, Slot.allRules_map_rule]
      refine ⟨fun base fragment inside => ?_, ?_⟩
      · simp at inside
      · rw [ih, List.append_assoc]
        rfl

theorem finish_eq_ok {collection : Collection} {rules : List Rule} :
    finish collection = .ok (rules, filled) ↔
      fillFragments collection.names [] collection.fragments = .ok filled ∧
        (∀ base fragment, .spread base fragment ∈ collection.program →
          (filled.lookup fragment).isSome) ∧
        rules = allRules filled collection.program := by
  rw [finish]
  cases fillFragments collection.names [] collection.fragments with
  | error e => simp
  | ok table =>
      simp only [map_eq_ok, fill_eq_ok, Prod.mk.injEq, Except.ok.injEq]
      constructor
      · rintro ⟨_, ⟨known, rfl⟩, rfl, rfl⟩
        exact ⟨rfl, known, rfl⟩
      · rintro ⟨rfl, known, rfl⟩
        exact ⟨_, ⟨known, rfl⟩, rfl, rfl⟩

end Collection

namespace Compile

open Query Slot

/-! ### Collecting -/

/-- The slots that a definition gives the program. -/
def programSlots (options : Options) : Definition → List Slot
  | .operation header selections =>
      captured options [] ((header.map Header.directives).getD []) ++
        slotsOfAll options [] selections
  | .fragment _ _ _ _ => []

/-- The slots of a fragment itself. -/
def bodySlots (options : Options) (directives : List Directive) (selections : List Selection) :
    List Slot :=
  captured options [] directives ++ slotsOfAll options [] selections

/-- The fragment that a definition declares, with its slots. -/
def fragmentSlots (options : Options) : Definition → Option (String × List Slot)
  | .operation _ _ => none
  | .fragment name _ directives selections => some (name, bodySlots options directives selections)

theorem addToFragment_append {name : String} (slots : List Slot)
    {fragments : List (String × List Slot)} (new : name ∉ fragments.map Prod.fst) :
    Collection.addToFragment name slots (fragments ++ [(name, [])]) =
      fragments ++ [(name, slots)] := by
  induction fragments with
  | nil => simp [Collection.addToFragment]
  | cons fragment fragments ih =>
      obtain ⟨other, body⟩ := fragment
      rw [List.map_cons, List.mem_cons, not_or] at new
      rw [List.cons_append, Collection.addToFragment, if_neg (Ne.symm new.1), ih new.2,
        List.cons_append]

theorem collectDefinition_eq_ok {options : Options} {collection next : Collection}
    {definition : Definition} :
    collectDefinition options collection definition = .ok next ↔
      (∀ fragment, fragmentSlots options definition = some fragment →
        fragment.1 ∉ collection.names) ∧
      next = ⟨collection.program ++ programSlots options definition,
        collection.fragments ++ (fragmentSlots options definition).toList⟩ := by
  cases definition with
  | operation header selections =>
      simp [collectDefinition, Collection.add, programSlots, fragmentSlots, eq_comm]
  | fragment name condition directives selections =>
      simp only [collectDefinition, Collection.declare, fragmentSlots, Option.some.injEq,
        forall_eq', programSlots, List.append_nil, Option.toList_some]
      by_cases known : name ∈ collection.names
      · simp [known, Except.map]
      · simp only [known, if_false, Except.map, Except.ok.injEq, not_false_eq_true, true_and,
          Collection.add, eq_comm (b := next)]
        rw [addToFragment_append _ known, bodySlots]

theorem foldlM_collectDefinition {options : Options} {definitions : Document}
    {start collection : Collection} (distinct : (start.fragments.map Prod.fst).Nodup) :
    definitions.foldlM (collectDefinition options) start = .ok collection ↔
      ((start.fragments ++ definitions.filterMap (fragmentSlots options)).map Prod.fst).Nodup ∧
      collection = ⟨start.program ++ definitions.flatMap (programSlots options),
        start.fragments ++ definitions.filterMap (fragmentSlots options)⟩ := by
  induction definitions generalizing start with
  | nil => simp [distinct, pure, Except.pure, eq_comm]
  | cons definition definitions ih =>
      have first : (definition :: definitions).filterMap (fragmentSlots options) =
          (fragmentSlots options definition).toList ++
            definitions.filterMap (fragmentSlots options) := by
        cases declared : fragmentSlots options definition <;> simp [declared]
      have fresh : (∀ fragment, fragmentSlots options definition = some fragment →
            fragment.1 ∉ start.names) ↔
          ((start.fragments ++ (fragmentSlots options definition).toList).map Prod.fst).Nodup := by
        cases declared : fragmentSlots options definition with
        | none => simpa using distinct
        | some fragment =>
            rw [List.map_append, Option.toList_some, List.map_singleton,
              (List.perm_append_singleton _ _).nodup_iff, List.nodup_cons, and_iff_left distinct]
            simp only [Option.some.injEq, forall_eq', Collection.names]
      simp only [List.foldlM_cons, bind_eq_ok, collectDefinition_eq_ok, List.flatMap_cons, first,
        ← List.append_assoc]
      constructor
      · rintro ⟨next, ⟨new, rfl⟩, rest⟩
        exact (ih (fresh.1 new)).1 rest
      · rintro ⟨apart, rfl⟩
        rw [List.map_append] at apart
        have apartFirst := (List.nodup_append.1 apart).1
        exact ⟨_, ⟨fresh.2 apartFirst, rfl⟩, (ih apartFirst).2 ⟨List.map_append ▸ apart, rfl⟩⟩

/-- A document is collected when its fragments have different names. -/
theorem collect_eq_ok {options : Options} {document : Document} {collection : Collection} :
    collect options document = .ok collection ↔
      ((document.filterMap (fragmentSlots options)).map Prod.fst).Nodup ∧
      collection = ⟨document.flatMap (programSlots options),
        document.filterMap (fragmentSlots options)⟩ := by
  have none : (Collection.empty.fragments.map Prod.fst).Nodup := .nil
  rw [collect, foldlM_collectDefinition none]
  rfl

/-- A document compiles when its fragments have different names and all slots are filled.
The program is what the slots of the operations stand for, backwards. -/
theorem compileDocument_eq_ok {options : Options} {document : Document}
    {compilation : Compilation} :
    compileDocument options document = .ok compilation ↔
      ((document.filterMap (fragmentSlots options)).map Prod.fst).Nodup ∧
      Collection.fillFragments ((document.filterMap (fragmentSlots options)).map Prod.fst) []
        (document.filterMap (fragmentSlots options)) = .ok compilation.fragments ∧
      (∀ base fragment, .spread base fragment ∈ document.flatMap (programSlots options) →
        (compilation.fragments.lookup fragment).isSome) ∧
      compilation = ⟨cleanDocument options document,
        (allRules compilation.fragments (document.flatMap (programSlots options))).reverse,
        compilation.fragments⟩ := by
  have stages : compileDocument options document = .ok compilation ↔
      ∃ collection, collect options document = .ok collection ∧ ∃ rules,
        collection.finish = .ok (rules, compilation.fragments) ∧
        compilation = ⟨cleanDocument options document, rules.reverse, compilation.fragments⟩ := by
    rw [compileDocument]
    cases collect options document with
    | error e => simp [Except.bind]
    | ok collection =>
        simp only [Except.bind, Except.ok.injEq, exists_eq_left']
        cases collection.finish with
        | error e => simp
        | ok result =>
            constructor
            · intro given
              cases given
              exact ⟨_, rfl, rfl⟩
            · rintro ⟨rules, given, same⟩
              cases given
              rw [same]
  simp only [stages, collect_eq_ok, Collection.finish_eq_ok]
  constructor
  · rintro ⟨_, ⟨distinct, rfl⟩, _, ⟨filled, known, rfl⟩, same⟩
    exact ⟨distinct, filled, known, same⟩
  · rintro ⟨distinct, filled, known, same⟩
    exact ⟨_, ⟨distinct, rfl⟩, _, ⟨filled, known, rfl⟩, same⟩

/-- The fragments of a compiled document, each with the rules that its slots stand for. -/
theorem fragments_eq {options : Options} {document : Document} {compilation : Compilation}
    (compiles : compileDocument options document = .ok compilation) :
    compilation.fragments = (document.filterMap (fragmentSlots options)).map fun entry =>
      (entry.1, allRules compilation.fragments entry.2) := by
  obtain ⟨-, filled, -⟩ := compileDocument_eq_ok.1 compiles
  exact Collection.fillFragments_eq filled

theorem map_fst_fragments {options : Options} {document : Document} {compilation : Compilation}
    (compiles : compileDocument options document = .ok compilation) :
    compilation.fragments.map Prod.fst =
      (document.filterMap (fragmentSlots options)).map Prod.fst := by
  rw [fragments_eq compiles, List.map_map]
  rfl

/-- A table has every fragment of a document, with the rules that its slots stand for. -/
def Tabulates (options : Options) (document : Document) (table : FragmentTable) : Prop :=
  ∀ ⦃name condition directives selections⦄,
    Definition.fragment name condition directives selections ∈ document →
      table.lookup name = some (allRules table (bodySlots options directives selections))

theorem tabulates_fragments {options : Options} {document : Document} {compilation : Compilation}
    (compiles : compileDocument options document = .ok compilation) :
    Tabulates options document compilation.fragments := by
  intro name condition directives selections declared
  have distinct := (compileDocument_eq_ok.1 compiles).1
  rw [← map_fst_fragments compiles] at distinct
  have inside : (name, bodySlots options directives selections) ∈
      document.filterMap (fragmentSlots options) :=
    List.mem_filterMap.2 ⟨_, declared, rfl⟩
  have entry := List.mem_map_of_mem
    (f := fun entry => (entry.1, allRules compilation.fragments entry.2)) inside
  rw [← fragments_eq compiles] at entry
  exact Collection.lookup_of_mem distinct entry

/-- A text compiles when it is read and its document compiles. -/
theorem compile_eq_ok {options : Options} {text : String} {compilation : Compilation} :
    compile options text = .ok compilation ↔
      ∃ document, Document.parse? text = some document ∧
        compileDocument options document = .ok compilation := by
  rw [compile]
  cases Document.parse? text with
  | none => simp
  | some document => simp

end Compile

end Reshape
