/-
Module: Reshape.Proofs.Compile.Inlining
Purpose: a document compiles to the program of the document with its fragments written
  out where they are spread.
Main exports: Compile.Inlines, Compile.InlinesDocument,
  Compile.compileDocument_inlined_of_keyed, Compile.compileDocument_inlined
Trusted boundary: none
-/
import Reshape.Proofs.Compile.Collected
import Reshape.Proofs.Query.ResponseKeys
import Reshape.Proofs.Tree.Address

/-!
# Fragments written out

The rules of a fragment are collected once, below no keys, and placed under the keys of
every spread. The same rules come about when the body of the fragment stands in the place
of the spread and is collected there. The directives of the fragment itself go around its
body; a deletion directive among them has no meaning on a fragment, and is left out.
-/

namespace Reshape

open Query

/-! ### Slots under an address -/

/-- The slot with its address placed under `base`. -/
def Slot.under (base : Address) : Slot → Slot
  | .rule own => .rule (own.under base)
  | .spread around fragment => .spread (base.join around) fragment

theorem Rule.under_under (base around : Address) (rule : Rule) :
    (rule.under around).under base = rule.under (base.join around) := by
  simp only [Rule.under, Address.join_join]

namespace Slot

theorem allRules_under (table : FragmentTable) (base : Address) (slots : List Slot) :
    allRules table (slots.map (Slot.under base)) =
      (allRules table slots).map (Rule.under base) := by
  rw [allRules, allRules, List.flatMap_map, List.map_flatMap]
  refine List.flatMap_congr fun slot _ => ?_
  cases slot with
  | rule own => rfl
  | spread around fragment =>
      simp only [Slot.under, rules, List.map_map, Function.comp_def, Rule.under_under]

end Slot

namespace Compile

open Slot (allRules)
open Selection (KeyedAll)

variable {options : Options} {keys more : List String}

theorem named_concat (named : ∀ key ∈ keys, key ≠ "") {own : String} (nonempty : own ≠ "") :
    ∀ key ∈ keys ++ [own], key ≠ "" := by
  intro key inside
  rcases List.mem_append.1 inside with inside | inside
  · exact named key inside
  · rw [List.mem_singleton.1 inside]
    exact nonempty

theorem captured_append (named : ∀ key ∈ keys, key ≠ "") (moreNamed : ∀ key ∈ more, key ≠ "")
    (directives : List Directive) :
    captured options (keys ++ more) directives =
      (captured options more directives).map (Slot.under (.ofKeys keys)) := by
  simp only [captured]
  split
  · rfl
  · rw [Address.ofKeys_append named moreNamed]
    rfl

mutual

/-- What is collected below some keys is placed under them. -/
theorem slotsOf_append (named : ∀ key ∈ keys, key ≠ "") :
    ∀ {more : List String} (_moreNamed : ∀ key ∈ more, key ≠ "") {selection : Selection}
      (_keyed : selection.Keyed),
      slotsOf options (keys ++ more) selection =
        (slotsOf options more selection).map (Slot.under (.ofKeys keys))
  | more, moreNamed, .field alias? name arguments directives selections, keyed => by
      have ownNamed := named_concat moreNamed keyed.1.1
      rw [slotsOf, slotsOf, List.append_assoc, captured_append named ownNamed,
        slotsOfAll_append named ownNamed keyed.2, List.map_append]
  | more, moreNamed, .spread fragment directives, _ => by
      rw [slotsOf, slotsOf, captured_append named moreNamed, List.map_append, List.map_singleton,
        Slot.under, Address.ofKeys_append named moreNamed]
  | more, moreNamed, .inline condition directives selections, keyed => by
      rw [slotsOf, slotsOf, captured_append named moreNamed,
        slotsOfAll_append named moreNamed keyed, List.map_append]

theorem slotsOfAll_append (named : ∀ key ∈ keys, key ≠ "") :
    ∀ {more : List String} (_moreNamed : ∀ key ∈ more, key ≠ "") {selections : List Selection}
      (_keyed : KeyedAll selections),
      slotsOfAll options (keys ++ more) selections =
        (slotsOfAll options more selections).map (Slot.under (.ofKeys keys))
  | more, _, [], _ => rfl
  | more, moreNamed, selection :: rest, keyed => by
      rw [slotsOfAll, slotsOfAll, slotsOf_append named moreNamed keyed.1,
        slotsOfAll_append named moreNamed keyed.2]
      split
      · rfl
      · rw [List.map_append]

end

theorem bodySlots_append (named : ∀ key ∈ keys, key ≠ "") (directives : List Directive)
    {selections : List Selection} (keyed : KeyedAll selections) :
    captured options keys directives ++ slotsOfAll options keys selections =
      (bodySlots options directives selections).map (Slot.under (.ofKeys keys)) := by
  have around : captured options (keys ++ []) directives =
      (captured options [] directives).map (Slot.under (.ofKeys keys)) :=
    captured_append named (by simp) directives
  have inside : slotsOfAll options (keys ++ []) selections =
      (slotsOfAll options [] selections).map (Slot.under (.ofKeys keys)) :=
    slotsOfAll_append named (by simp) keyed
  rw [List.append_nil] at around inside
  rw [around, inside, bodySlots, List.map_append]

/-! ### Writing fragments out -/

/-- Selections, and the same ones with every spread that is not deleted written out: the
directives of the spread go around those of the fragment, and these around the body of the
fragment, in which the spreads are written out as well. -/
inductive Inlines (options : Options) (document : Document) :
    List Selection → List Selection → Prop
  | nil : Inlines options document [] []
  | deleted {selection : Selection} {rest inlinedRest : List Selection}
      (marked : isDeleted options selection = true)
      (later : Inlines options document rest inlinedRest) :
      Inlines options document (selection :: rest) (selection :: inlinedRest)
  | field {alias? : Option String} {name : String} {arguments : Arguments}
      {directives : List Directive} {selections inlined rest inlinedRest : List Selection}
      (kept : isDeleted options (.field alias? name arguments directives selections) = false)
      (inside : Inlines options document selections inlined)
      (later : Inlines options document rest inlinedRest) :
      Inlines options document (.field alias? name arguments directives selections :: rest)
        (.field alias? name arguments directives inlined :: inlinedRest)
  | inline {condition : Option String} {directives : List Directive}
      {selections inlined rest inlinedRest : List Selection}
      (kept : isDeleted options (.inline condition directives selections) = false)
      (inside : Inlines options document selections inlined)
      (later : Inlines options document rest inlinedRest) :
      Inlines options document (.inline condition directives selections :: rest)
        (.inline condition directives inlined :: inlinedRest)
  | spread {fragment condition : String} {directives own : List Directive}
      {body inlined rest inlinedRest : List Selection}
      (kept : isDeleted options (.spread fragment directives) = false)
      (declared : Definition.fragment fragment condition own body ∈ document)
      (inside : Inlines options document body inlined)
      (later : Inlines options document rest inlinedRest) :
      Inlines options document (.spread fragment directives :: rest)
        (.inline none directives
            [.inline (some condition) (own.filter (·.name != options.deletion)) inlined] ::
          inlinedRest)

/-- A definition, and the same one with spreads written out. -/
inductive InlinesDefinition (options : Options) (document : Document) :
    Definition → Definition → Prop
  | operation {header : Option Header} {selections inlined : List Selection}
      (inside : Inlines options document selections inlined) :
      InlinesDefinition options document (.operation header selections) (.operation header inlined)
  | fragment {name condition : String} {directives : List Directive}
      {selections inlined : List Selection} (inside : Inlines options document selections inlined) :
      InlinesDefinition options document (.fragment name condition directives selections)
        (.fragment name condition directives inlined)

/-- A document, and the same one with all spreads written out that are not deleted. -/
def InlinesDocument (options : Options) (document inlined : Document) : Prop :=
  List.Forall₂ (InlinesDefinition options document) document inlined

mutual

/-- Whether a selection holds no spread, other than in selections that are deleted. -/
def spreadFree (options : Options) : Selection → Bool
  | .field _ _ _ _ selections => spreadFreeAll options selections
  | .spread _ _ => false
  | .inline _ _ selections => spreadFreeAll options selections

def spreadFreeAll (options : Options) : List Selection → Bool
  | [] => true
  | selection :: rest =>
      (isDeleted options selection || spreadFree options selection) && spreadFreeAll options rest

end

/-- The selections of a definition. -/
def selectionsOf : Definition → List Selection
  | .operation _ selections => selections
  | .fragment _ _ _ selections => selections

variable {document inlinedDocument : Document} {selections inlined : List Selection}
  {table : FragmentTable}

theorem Inlines.spreadFree (inlines : Inlines options document selections inlined) :
    spreadFreeAll options inlined = true := by
  induction inlines with
  | nil => rfl
  | deleted marked later ih => simp [spreadFreeAll, marked, ih]
  | field kept inside later ihInside ihLater =>
      simp [spreadFreeAll, Compile.spreadFree, ihInside, ihLater]
  | inline kept inside later ihInside ihLater =>
      simp [spreadFreeAll, Compile.spreadFree, ihInside, ihLater]
  | spread kept declared inside later ihInside ihLater =>
      simp [spreadFreeAll, Compile.spreadFree, ihInside, ihLater]

theorem spreadFree_inlinedDocument {definitions inlinedDefinitions : Document}
    (inlines : List.Forall₂ (InlinesDefinition options document) definitions inlinedDefinitions) :
    ∀ definition ∈ inlinedDefinitions, spreadFreeAll options (selectionsOf definition) = true := by
  induction inlines with
  | nil => simp
  | cons first _ ih =>
      refine List.forall_mem_cons.2 ⟨?_, ih⟩
      cases first with
      | operation inside => exact inside.spreadFree
      | fragment inside => exact inside.spreadFree

/-! ### The directives of a fragment -/

theorem deletion_ne_directive (prefixed : options.deletePrefix ≠ "") :
    options.deletion ≠ options.directive :=
  fun same => prefixed (String.append_eq_right_iff.1 same)

theorem captured_filter (prefixed : options.deletePrefix ≠ "") (keys : List String)
    (directives : List Directive) :
    captured options keys (directives.filter (·.name != options.deletion)) =
      captured options keys directives := by
  have apart : (directives.filter (·.name != options.deletion)).filter
      (·.name == options.directive) = directives.filter (·.name == options.directive) := by
    rw [List.filter_filter]
    refine List.filter_congr fun directive _ => ?_
    by_cases own : directive.name = options.directive
    · simp [own, (deletion_ne_directive prefixed).symm]
    · simp [own]
  simp only [captured, apart]

theorem isDeleted_filter (condition : Option String) (directives : List Directive)
    (selections : List Selection) :
    isDeleted options
      (.inline condition (directives.filter (·.name != options.deletion)) selections) = false := by
  simp [isDeleted, Selection.directives]

theorem captured_eq_map (table : FragmentTable) (keys : List String) (directives : List Directive) :
    captured options keys directives =
      (allRules table (captured options keys directives)).map .rule := by
  simp only [captured]
  split
  · rfl
  · rfl

/-! ### Collecting what is written out -/

/-- What is collected from selections with spreads written out are the rules that the slots
of the selections stand for. -/
theorem slotsOfAll_inlined (prefixed : options.deletePrefix ≠ "")
    (documentKeyed : ∀ definition ∈ document, definition.Keyed)
    (tabulates : Tabulates options document table)
    (inlines : Inlines options document selections inlined) (keyed : KeyedAll selections)
    (named : ∀ key ∈ keys, key ≠ "") :
    slotsOfAll options keys inlined =
      (allRules table (slotsOfAll options keys selections)).map .rule := by
  induction inlines generalizing keys with
  | nil => rfl
  | deleted marked later ih =>
      simp only [slotsOfAll, marked, if_true]
      exact ih keyed.2 named
  | @field alias? name arguments directives selections inlined rest inlinedRest kept inside later
      ihInside ihLater =>
      have ownNamed := named_concat named keyed.1.1.1
      have same : isDeleted options (.field alias? name arguments directives inlined) = false :=
        kept
      simp only [slotsOfAll, kept, same, Bool.false_eq_true, if_false, slotsOf,
        Slot.allRules_append, List.map_append, ← captured_eq_map, ihInside keyed.1.2 ownNamed,
        ihLater keyed.2 named]
  | @inline condition directives selections inlined rest inlinedRest kept inside later
      ihInside ihLater =>
      have same : isDeleted options (.inline condition directives inlined) = false := kept
      simp only [slotsOfAll, kept, same, Bool.false_eq_true, if_false, slotsOf,
        Slot.allRules_append, List.map_append, ← captured_eq_map, ihInside keyed.1 named,
        ihLater keyed.2 named]
  | @spread fragment condition directives own body inlined rest inlinedRest kept declared inside
      later ihInside ihLater =>
      have bodyKeyed : KeyedAll body := documentKeyed _ declared
      have outer : isDeleted options (.inline none directives
          [.inline (some condition) (own.filter (·.name != options.deletion)) inlined]) = false :=
        kept
      have written : captured options keys own ++ slotsOfAll options keys inlined =
          (allRules table [.spread (.ofKeys keys) fragment]).map .rule := by
        rw [captured_eq_map table, ihInside bodyKeyed named, ← List.map_append,
          ← Slot.allRules_append, bodySlots_append named own bodyKeyed, Slot.allRules_under]
        simp [allRules, Slot.rules, tabulates declared]
      simp only [slotsOfAll, kept, outer, isDeleted_filter, Bool.false_eq_true, if_false, slotsOf,
        List.append_nil, captured_filter prefixed, written, Slot.allRules_append, List.map_append,
        ← captured_eq_map, ihLater keyed.2 named]

/-- A definition with spreads written out declares the same fragment, and what is collected
from it are the rules that its slots stand for. -/
theorem slots_inlinedDefinition {definition inlinedDefinition : Definition}
    (prefixed : options.deletePrefix ≠ "")
    (documentKeyed : ∀ definition ∈ document, definition.Keyed)
    (tabulates : Tabulates options document table)
    (inlines : InlinesDefinition options document definition inlinedDefinition)
    (keyed : definition.Keyed) :
    programSlots options inlinedDefinition =
        (allRules table (programSlots options definition)).map .rule ∧
      fragmentSlots options inlinedDefinition =
        (fragmentSlots options definition).map fun entry =>
          (entry.1, (allRules table entry.2).map .rule) := by
  have body {selections inlined : List Selection}
      (inside : Inlines options document selections inlined) (keyed : KeyedAll selections) :
      slotsOfAll options [] inlined =
        (allRules table (slotsOfAll options [] selections)).map .rule :=
    slotsOfAll_inlined prefixed documentKeyed tabulates inside keyed (by simp)
  cases inlines with
  | operation inside =>
      simp only [programSlots, fragmentSlots, Slot.allRules_append, List.map_append,
        ← captured_eq_map, body inside keyed, Option.map_none, and_self]
  | fragment inside =>
      simp only [programSlots, fragmentSlots, bodySlots, Slot.allRules_append, List.map_append,
        ← captured_eq_map, body inside keyed, Option.map_some, and_true]
      rfl

theorem slots_inlinedDocument {definitions inlinedDefinitions : Document}
    (prefixed : options.deletePrefix ≠ "")
    (documentKeyed : ∀ definition ∈ document, definition.Keyed)
    (tabulates : Tabulates options document table)
    (inlines : List.Forall₂ (InlinesDefinition options document) definitions inlinedDefinitions)
    (keyed : ∀ definition ∈ definitions, definition.Keyed) :
    inlinedDefinitions.flatMap (programSlots options) =
        (allRules table (definitions.flatMap (programSlots options))).map .rule ∧
      inlinedDefinitions.filterMap (fragmentSlots options) =
        (definitions.filterMap (fragmentSlots options)).map fun entry =>
          (entry.1, (allRules table entry.2).map .rule) := by
  induction inlines with
  | nil => exact ⟨rfl, rfl⟩
  | @cons definition inlinedDefinition _ _ first _ ih =>
      obtain ⟨program, fragment⟩ := slots_inlinedDefinition prefixed documentKeyed tabulates first
        (keyed definition (by simp))
      obtain ⟨programs, fragments⟩ := ih fun other inside => keyed other (by simp [inside])
      constructor
      · rw [List.flatMap_cons, List.flatMap_cons, program, programs, Slot.allRules_append,
          List.map_append]
      · rw [List.filterMap_cons, List.filterMap_cons, fragment, fragments]
        cases fragmentSlots options definition <;> rfl

/-! ### Every document that compiles can be written out -/

/-- A fragment is declared, and its spreads can be written out. -/
def Inlinable (options : Options) (document : Document) (fragment : String) : Prop :=
  ∃ condition own body inlined, Definition.fragment fragment condition own body ∈ document ∧
    Inlines options document body inlined

theorem exists_inlines (keys : List String) (selections : List Selection)
    (spreads : ∀ base fragment, .spread base fragment ∈ slotsOfAll options keys selections →
      Inlinable options document fragment) :
    ∃ inlined, Inlines options document selections inlined := by
  match selections with
  | [] => exact ⟨[], .nil⟩
  | selection :: rest =>
      simp only [slotsOfAll] at spreads
      by_cases marked : isDeleted options selection = true
      · rw [if_pos marked] at spreads
        obtain ⟨inlinedRest, later⟩ := exists_inlines keys rest spreads
        exact ⟨_, .deleted marked later⟩
      · rw [if_neg marked] at spreads
        rw [Bool.not_eq_true] at marked
        obtain ⟨inlinedRest, later⟩ := exists_inlines keys rest fun base fragment inside =>
          spreads base fragment (List.mem_append_right _ inside)
        cases selection with
        | field alias? name arguments directives selections =>
            obtain ⟨inlined, inside⟩ := exists_inlines (keys ++ [Selection.responseKey alias? name])
              selections fun base fragment inside =>
                spreads base fragment (by simp [slotsOf, inside])
            exact ⟨_, .field marked inside later⟩
        | spread fragment directives =>
            obtain ⟨condition, own, body, inlined, declared, inside⟩ :=
              spreads (.ofKeys keys) fragment (by simp [slotsOf])
            exact ⟨_, .spread marked declared inside later⟩
        | inline condition directives selections =>
            obtain ⟨inlined, inside⟩ := exists_inlines keys selections fun base fragment inside =>
              spreads base fragment (by simp [slotsOf, inside])
            exact ⟨_, .inline marked inside later⟩
termination_by sizeOf selections

/-- A fragment that was filled can be written out. -/
theorem inlinable_of_isSome {names : List String} {fragment : String}
    (filled : Collection.fillFragments names [] (document.filterMap (fragmentSlots options)) =
      .ok table)
    (known : (table.lookup fragment).isSome) : Inlinable options document fragment := by
  refine Collection.fillFragments_induction filled (by simp) ?_ fragment known
  intro name slots inside spreads
  obtain ⟨definition, declared, own⟩ := List.mem_filterMap.1 inside
  cases definition with
  | operation header selections => cases own
  | fragment name condition directives selections =>
      cases own
      obtain ⟨inlined, body⟩ := exists_inlines [] selections fun base fragment inside =>
        spreads base fragment (List.mem_append_right _ inside)
      exact ⟨condition, directives, selections, inlined, declared, body⟩

theorem exists_inlinesDefinition {definition : Definition}
    (spreads : ∀ base fragment,
      .spread base fragment ∈ slotsOfAll options [] (selectionsOf definition) →
        Inlinable options document fragment) :
    ∃ inlinedDefinition, InlinesDefinition options document definition inlinedDefinition := by
  obtain ⟨inlined, inside⟩ := exists_inlines [] (selectionsOf definition) spreads
  cases definition with
  | operation header selections => exact ⟨_, .operation inside⟩
  | fragment name condition directives selections => exact ⟨_, .fragment inside⟩

theorem exists_forall₂ {α β : Type} {relation : α → β → Prop} {xs : List α}
    (each : ∀ x ∈ xs, ∃ y, relation x y) : ∃ ys, List.Forall₂ relation xs ys := by
  induction xs with
  | nil => exact ⟨[], .nil⟩
  | cons x xs ih =>
      obtain ⟨y, first⟩ := each x (by simp)
      obtain ⟨ys, later⟩ := ih fun other inside => each other (by simp [inside])
      exact ⟨y :: ys, .cons first later⟩

theorem exists_inlinesDocument {compilation : Compilation}
    (compiles : compileDocument options document = .ok compilation) :
    ∃ inlinedDocument, InlinesDocument options document inlinedDocument := by
  obtain ⟨-, filled, known, -⟩ := compileDocument_eq_ok.1 compiles
  have each : ∀ definition ∈ document,
      ∃ inlinedDefinition, InlinesDefinition options document definition inlinedDefinition := by
    intro definition declared
    refine exists_inlinesDefinition fun base fragment inside => inlinable_of_isSome filled ?_
    cases definition with
    | operation header selections =>
        exact known base fragment
          (List.mem_flatMap.2 ⟨_, declared, List.mem_append_right _ inside⟩)
    | fragment name condition directives selections =>
        exact Collection.isSome_lookup_of_fillFragments filled
          (List.mem_filterMap.2 ⟨_, declared, rfl⟩) (List.mem_append_right _ inside)
  exact exists_forall₂ each

/-! ### The same program -/

/-- A document with response keys that are segments, when it compiles, can be written out
without spreads, and what is written out compiles to the same program. -/
theorem compileDocument_inlined_of_keyed {compilation : Compilation}
    (prefixed : options.deletePrefix ≠ "") (keyed : ∀ definition ∈ document, definition.Keyed)
    (compiles : compileDocument options document = .ok compilation) :
    (∃ inlined, InlinesDocument options document inlined) ∧
      ∀ inlined, InlinesDocument options document inlined →
        (∀ definition ∈ inlined, spreadFreeAll options (selectionsOf definition) = true) ∧
        ∃ inlinedCompilation, compileDocument options inlined = .ok inlinedCompilation ∧
          inlinedCompilation.program = compilation.program ∧
          inlinedCompilation.fragments = compilation.fragments := by
  refine ⟨exists_inlinesDocument compiles, fun inlined inlines =>
    ⟨spreadFree_inlinedDocument inlines, ?_⟩⟩
  obtain ⟨distinct, -, -, same⟩ := compileDocument_eq_ok.1 compiles
  have names := map_fst_fragments compiles
  obtain ⟨programs, fragments⟩ := slots_inlinedDocument prefixed keyed
    (tabulates_fragments compiles) inlines keyed
  have written : inlined.filterMap (fragmentSlots options) =
      compilation.fragments.map fun entry => (entry.1, entry.2.map .rule) := by
    rw [fragments]
    conv_rhs => rw [fragments_eq compiles]
    rw [List.map_map]
    rfl
  refine ⟨⟨cleanDocument options inlined, compilation.program, compilation.fragments⟩,
    compileDocument_eq_ok.2 ⟨?_, ?_, ?_, ?_⟩, rfl, rfl⟩
  · rw [written, List.map_map]
    exact names ▸ distinct
  · rw [written, Collection.fillFragments_of_rules, List.nil_append]
  · intro base fragment inside
    simp [programs] at inside
  · rw [programs, Slot.allRules_map_rule, same]

/-- A document that was read and compiles can be written out without spreads, and what is
written out compiles to the same program. -/
theorem compileDocument_inlined {text : String} {compilation : Compilation}
    (prefixed : options.deletePrefix ≠ "") (read : Document.parse? text = some document)
    (compiles : compileDocument options document = .ok compilation) :
    (∃ inlined, InlinesDocument options document inlined) ∧
      ∀ inlined, InlinesDocument options document inlined →
        (∀ definition ∈ inlined, spreadFreeAll options (selectionsOf definition) = true) ∧
        ∃ inlinedCompilation, compileDocument options inlined = .ok inlinedCompilation ∧
          inlinedCompilation.program = compilation.program ∧
          inlinedCompilation.fragments = compilation.fragments :=
  compileDocument_inlined_of_keyed prefixed (keyed_of_parse? read) compiles

/-- One fragment is spread twice in another one and once beside it. -/
theorem compileDocument_inlined_nested :
    let text := "fragment f on T \x7bx @shape y @_shape\x7d " ++
      "fragment g on T @shape \x7bz\x7b...f\x7d ...f\x7d " ++
      "\x7ba\x7b...g @shape\x7d b:c\x7b...f\x7d\x7d"
    ∃ document compilation,
      Document.parse? text = some document ∧
      compileDocument .standard document = .ok compilation ∧
      compilation.program.map (·.address.text) = ["b.x", "a.x", "a.z.x", "a", "a"] ∧
      ∃ inlined, InlinesDocument .standard document inlined ∧
        ∃ inlinedCompilation, compileDocument .standard inlined = .ok inlinedCompilation ∧
          inlinedCompilation.program = compilation.program := by
  intro text
  have addresses : (compile .standard text).toOption.map
      (fun compilation => compilation.program.map (·.address.text)) =
        some ["b.x", "a.x", "a.z.x", "a", "a"] := by decide +kernel
  clear_value text
  cases compiled : compile .standard text with
  | error e => simp [compiled, Except.toOption] at addresses
  | ok compilation =>
      obtain ⟨document, read, compiles⟩ := compile_eq_ok.1 compiled
      obtain ⟨⟨inlined, inlines⟩, all⟩ := compileDocument_inlined (by decide) read compiles
      obtain ⟨-, inlinedCompilation, inlinedCompiles, same, -⟩ := all inlined inlines
      simp only [compiled, Except.toOption, Option.map_some, Option.some.injEq] at addresses
      exact ⟨document, compilation, read, compiles, addresses, inlined, inlines,
        inlinedCompilation, inlinedCompiles, same⟩

end Compile

end Reshape
