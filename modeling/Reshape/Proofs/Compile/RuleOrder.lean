/-
Module: Reshape.Proofs.Compile.RuleOrder
Purpose: the order of the rules of a program, and when rules run before those of the
  fields above them.
Main exports: Program.DeepestFirst, Compile.Outline, Compile.outline,
  Compile.deepestFirst_iff_ordered
Trusted boundary: none
-/
import Reshape.Proofs.Compile.Collected
import Reshape.Proofs.Tree.Address

/-!
# The order of rules

A program is the outline of its document read backwards: the places that can carry a
rule, each with the places in it, fragments being read at their spreads. A rule therefore
runs before the rules of the places around it. Nothing of that kind holds for places next
to each other, which may have the same response keys. The rules run deepest first when no
such place has a rule above one that stands before it.
-/

namespace Reshape

/-- The address names a place on the way to the other one, and not that place itself. -/
def Address.Above (outer inner : Address) : Prop :=
  outer.segments <+: inner.segments ∧ outer.segments ≠ inner.segments

instance (outer inner : Address) : Decidable (outer.Above inner) :=
  inferInstanceAs (Decidable (_ ∧ _))

/-- No rule runs after a rule above it. -/
def Program.DeepestFirst (program : Program) : Prop :=
  program.Pairwise fun earlier later => ¬ earlier.address.Above later.address

instance (program : Program) : Decidable program.DeepestFirst :=
  inferInstanceAs (Decidable (List.Pairwise _ _))

namespace Compile

open Query
open Slot (allRules)

/-! ### Outlines -/

/-- A place that can carry a rule, and the places in it. -/
inductive Outline where
  | node (own : Option Rule) (inner : List Outline)

namespace Outline

mutual

/-- The rules of an outline, in the order of the text. -/
def rules : Outline → List Rule
  | .node own inner => own.toList ++ rulesAll inner

def rulesAll : List Outline → List Rule
  | [] => []
  | first :: rest => rules first ++ rulesAll rest

end

mutual

/-- The outline with all rules placed under `base`. -/
def under (base : Address) : Outline → Outline
  | .node own inner => .node (own.map (Rule.under base)) (underAll base inner)

def underAll (base : Address) : List Outline → List Outline
  | [] => []
  | first :: rest => under base first :: underAll base rest

end

mutual

/-- Of two places next to each other, the later one has no rule above a rule of the
earlier one. -/
def Ordered : Outline → Prop
  | .node _ inner => OrderedAll inner

def OrderedAll : List Outline → Prop
  | [] => True
  | first :: rest =>
      Ordered first ∧
        (∀ early ∈ rules first, ∀ late ∈ rulesAll rest, ¬ late.address.Above early.address) ∧
        OrderedAll rest

end

mutual

/-- The rules of a place are addressed within the address of its own rule. -/
def Nested : Outline → Prop
  | .node own inner =>
      (∀ rule ∈ own, ∀ deep ∈ rulesAll inner, rule.address.segments <+: deep.address.segments) ∧
        NestedAll inner

def NestedAll : List Outline → Prop
  | [] => True
  | first :: rest => Nested first ∧ NestedAll rest

end

/-! ### Reading order -/

mutual

/-- In the rules of an outline none is above an earlier one when the outline is ordered. -/
theorem pairwise_rules : ∀ {outline : Outline} (_nested : outline.Nested),
    outline.rules.Pairwise (fun early late => ¬ late.address.Above early.address) ↔ outline.Ordered
  | .node own inner, nested => by
      obtain ⟨around, nested⟩ := nested
      have apart : own.toList.Pairwise fun early late => ¬ late.address.Above early.address := by
        cases own <;> simp
      have below : ∀ early ∈ own.toList, ∀ late ∈ rulesAll inner,
          ¬ late.address.Above early.address := by
        rintro early isOwn late inside ⟨above, different⟩
        have within := around early (Option.mem_toList.1 isOwn) late inside
        exact different (above.eq_of_length_le within.length_le)
      rw [rules, Ordered, List.pairwise_append, and_iff_right apart, and_iff_left below,
        pairwise_rulesAll nested]

theorem pairwise_rulesAll : ∀ {outlines : List Outline} (_nested : NestedAll outlines),
    (rulesAll outlines).Pairwise (fun early late => ¬ late.address.Above early.address) ↔
      OrderedAll outlines
  | [], _ => by simp [rulesAll, OrderedAll]
  | first :: rest, nested => by
      rw [rulesAll, OrderedAll, List.pairwise_append, pairwise_rules nested.1,
        pairwise_rulesAll nested.2, and_comm (a := OrderedAll rest)]

end

/-! ### Outlines under an address -/

mutual

theorem rules_under (base : Address) : ∀ outline : Outline,
    (outline.under base).rules = outline.rules.map (Rule.under base)
  | .node own inner => by
      rw [under, rules, rules, rulesAll_underAll base inner, List.map_append]
      cases own <;> rfl

theorem rulesAll_underAll (base : Address) : ∀ outlines : List Outline,
    rulesAll (underAll base outlines) = (rulesAll outlines).map (Rule.under base)
  | [] => rfl
  | first :: rest => by
      rw [underAll, rulesAll, rulesAll, rules_under base first, rulesAll_underAll base rest,
        List.map_append]

end

mutual

theorem Nested.under (base : Address) : ∀ {outline : Outline} (_nested : outline.Nested),
    (outline.under base).Nested
  | .node own inner, nested => by
      refine ⟨?_, NestedAll.under base nested.2⟩
      intro _ isOwn _ inside
      rw [rulesAll_underAll] at inside
      obtain ⟨rule, held, rfl⟩ := Option.map_eq_some_iff.1 isOwn
      obtain ⟨deep, heldInside, rfl⟩ := List.mem_map.1 inside
      simp only [Rule.under, Address.segments_join, List.prefix_append_right_inj]
      exact nested.1 rule held deep heldInside

theorem NestedAll.under (base : Address) :
    ∀ {outlines : List Outline} (_nested : NestedAll outlines), NestedAll (underAll base outlines)
  | [], _ => trivial
  | _ :: _, nested => ⟨Nested.under base nested.1, NestedAll.under base nested.2⟩

end

end Outline

/-! ### The outline of a document -/

/-- The rule of a place with the given keys around it. -/
def ruleOf? (options : Options) (keys : List String) (directives : List Directive) : Option Rule :=
  (allRules [] (captured options keys directives)).head?

mutual

/-- The outline of a selection below the given keys, given those of the fragments. -/
def outlineOf (options : Options) (table : List (String × Outline)) (keys : List String) :
    Selection → Outline
  | .field alias? name _ directives selections =>
      let own := keys ++ [Selection.responseKey alias? name]
      .node (ruleOf? options own directives) (outlineOfAll options table own selections)
  | .spread fragment directives =>
      .node (ruleOf? options keys directives)
        ((table.lookup fragment).map (Outline.under (.ofKeys keys))).toList
  | .inline _ directives selections =>
      .node (ruleOf? options keys directives) (outlineOfAll options table keys selections)

/-- The outlines of the selections that are not marked for deletion. -/
def outlineOfAll (options : Options) (table : List (String × Outline)) (keys : List String) :
    List Selection → List Outline
  | [] => []
  | selection :: rest =>
      if isDeleted options selection then outlineOfAll options table keys rest
      else outlineOf options table keys selection :: outlineOfAll options table keys rest

end

/-- The outlines of the fragments, each from those declared before it. -/
def fragmentOutlines (options : Options) (table : List (String × Outline)) :
    Document → List (String × Outline)
  | [] => table
  | .operation _ _ :: rest => fragmentOutlines options table rest
  | .fragment name _ directives selections :: rest =>
      let body := .node (ruleOf? options [] directives) (outlineOfAll options table [] selections)
      fragmentOutlines options (table ++ [(name, body)]) rest

/-- The outline of an operation. -/
def operationOutline? (options : Options) (table : List (String × Outline)) :
    Definition → Option Outline
  | .operation header selections =>
      some (.node (ruleOf? options [] ((header.map Header.directives).getD []))
        (outlineOfAll options table [] selections))
  | .fragment _ _ _ _ => none

/-- The outline of a document: its operations, with the fragments they spread. -/
def outline (options : Options) (document : Document) : Outline :=
  .node none (document.filterMap
    (operationOutline? options (fragmentOutlines options [] document)))

variable {options : Options} {table : List (String × Outline)} {keys : List String}

theorem toList_ruleOf? (fragments : FragmentTable) (directives : List Directive) :
    (ruleOf? options keys directives).toList =
      allRules fragments (captured options keys directives) := by
  simp only [ruleOf?, captured]
  split
  · rfl
  · rfl

/-! ### What outlines hold -/

/-- The rules of all fragments with an outline. -/
def tableOf (table : List (String × Outline)) : FragmentTable :=
  table.map fun entry => (entry.1, entry.2.rules)

theorem lookup_tableOf (table : List (String × Outline)) (fragment : String) :
    (tableOf table).lookup fragment = (table.lookup fragment).map Outline.rules := by
  induction table with
  | nil => rfl
  | cons entry table ih =>
      obtain ⟨name, outline⟩ := entry
      simp only [tableOf, List.map_cons, List.lookup_cons]
      split
      · rfl
      · exact ih

mutual

/-- The outline of a selection holds the rules that its slots stand for. -/
theorem rules_outlineOf : ∀ (keys : List String) (selection : Selection),
    (outlineOf options table keys selection).rules =
      allRules (tableOf table) (slotsOf options keys selection)
  | keys, .field alias? name arguments directives selections => by
      rw [outlineOf, slotsOf, Outline.rules, toList_ruleOf? (tableOf table),
        rules_outlineOfAll _ selections, Slot.allRules_append]
  | keys, .spread fragment directives => by
      rw [outlineOf, slotsOf, Outline.rules, toList_ruleOf? (tableOf table), Slot.allRules_append]
      simp only [allRules, List.flatMap_singleton, Slot.rules, lookup_tableOf]
      cases table.lookup fragment with
      | none => rfl
      | some body =>
          simp [Outline.rulesAll, Outline.rules_under]
  | keys, .inline condition directives selections => by
      rw [outlineOf, slotsOf, Outline.rules, toList_ruleOf? (tableOf table),
        rules_outlineOfAll _ selections, Slot.allRules_append]

theorem rules_outlineOfAll : ∀ (keys : List String) (selections : List Selection),
    Outline.rulesAll (outlineOfAll options table keys selections) =
      allRules (tableOf table) (slotsOfAll options keys selections)
  | keys, [] => rfl
  | keys, selection :: rest => by
      rw [outlineOfAll, slotsOfAll]
      split
      · exact rules_outlineOfAll keys rest
      · rw [Outline.rulesAll, rules_outlineOf keys selection, rules_outlineOfAll keys rest,
          Slot.allRules_append]

end

/-- The fragments are filled with the rules of their outlines. -/
theorem tableOf_fragmentOutlines {names : List String} {definitions : Document}
    {filled : FragmentTable}
    (succeeds : Collection.fillFragments names (tableOf table)
      (definitions.filterMap (fragmentSlots options)) = .ok filled) :
    filled = tableOf (fragmentOutlines options table definitions) := by
  induction definitions generalizing table with
  | nil =>
      cases succeeds
      rfl
  | cons definition definitions ih =>
      cases definition with
      | operation header selections => exact ih succeeds
      | fragment name condition directives selections =>
          obtain ⟨-, rest⟩ := Collection.fillFragments_cons.1 succeeds
          refine ih ?_
          rw [← rest]
          simp [tableOf, bodySlots, Outline.rules, Slot.allRules_append, rules_outlineOfAll,
            toList_ruleOf? (tableOf table)]

theorem rulesAll_operationOutlines (definitions : Document) :
    Outline.rulesAll (definitions.filterMap (operationOutline? options table)) =
      allRules (tableOf table) (definitions.flatMap (programSlots options)) := by
  induction definitions with
  | nil => rfl
  | cons definition definitions ih =>
      rw [List.filterMap_cons, List.flatMap_cons, Slot.allRules_append, ← ih]
      cases definition with
      | operation header selections =>
          rw [operationOutline?, Outline.rulesAll, Outline.rules, programSlots,
            Slot.allRules_append, toList_ruleOf? (tableOf table), rules_outlineOfAll]
      | fragment name condition directives selections => rfl

/-- A program is the outline of its document, backwards. -/
theorem program_eq_reverse {document : Document} {compilation : Compilation}
    (compiles : compileDocument options document = .ok compilation) :
    compilation.program = (outline options document).rules.reverse := by
  obtain ⟨-, filled, -, same⟩ := compileDocument_eq_ok.1 compiles
  have fragments : compilation.fragments = tableOf (fragmentOutlines options [] document) :=
    tableOf_fragmentOutlines filled
  rw [same, fragments, ← rulesAll_operationOutlines]
  rfl

/-! ### Addresses in an outline -/

theorem address_captured {fragments : FragmentTable} {directives : List Directive} {rule : Rule}
    (inside : rule ∈ allRules fragments (captured options keys directives)) :
    rule.address = .ofKeys keys := by
  simp only [captured] at inside
  split at inside
  · cases inside
  · rw [List.mem_singleton.1 inside]

mutual

/-- What is collected below some keys is addressed below them. -/
theorem prefix_slotsOf {fragments : FragmentTable} : ∀ (keys : List String) (selection : Selection),
    ∀ rule ∈ allRules fragments (slotsOf options keys selection),
      (Address.ofKeys keys).segments <+: rule.address.segments
  | keys, .field alias? name arguments directives selections => by
      intro rule inside
      have further : (Address.ofKeys keys).segments <+:
          (Address.ofKeys (keys ++ [Selection.responseKey alias? name])).segments := by
        rw [Address.segments_ofKeys, Address.segments_ofKeys, List.flatMap_append]
        exact List.prefix_append _ _
      rw [slotsOf, Slot.allRules_append, List.mem_append] at inside
      rcases inside with own | inside
      · rw [address_captured own]
        exact further
      · exact further.trans (prefix_slotsOfAll _ selections rule inside)
  | keys, .spread fragment directives => by
      intro rule inside
      rw [slotsOf, Slot.allRules_append, List.mem_append] at inside
      rcases inside with own | inside
      · exact address_captured own ▸ List.prefix_refl _
      · simp only [allRules, List.flatMap_singleton, Slot.rules] at inside
        obtain ⟨held, -, rfl⟩ := List.mem_map.1 inside
        rw [Rule.under, Address.segments_join]
        exact List.prefix_append _ _
  | keys, .inline condition directives selections => by
      intro rule inside
      rw [slotsOf, Slot.allRules_append, List.mem_append] at inside
      rcases inside with own | inside
      · exact address_captured own ▸ List.prefix_refl _
      · exact prefix_slotsOfAll _ selections rule inside

theorem prefix_slotsOfAll {fragments : FragmentTable} :
    ∀ (keys : List String) (selections : List Selection),
    ∀ rule ∈ allRules fragments (slotsOfAll options keys selections),
      (Address.ofKeys keys).segments <+: rule.address.segments
  | _, [] => by
      intro rule inside
      cases inside
  | keys, selection :: rest => by
      intro rule inside
      rw [slotsOfAll] at inside
      split at inside
      · exact prefix_slotsOfAll keys rest rule inside
      · rw [Slot.allRules_append, List.mem_append] at inside
        rcases inside with inside | inside
        · exact prefix_slotsOf keys selection rule inside
        · exact prefix_slotsOfAll keys rest rule inside

end

theorem address_ruleOf? {directives : List Directive} {rule : Rule}
    (own : rule ∈ ruleOf? options keys directives) : rule.address = .ofKeys keys := by
  have held : rule ∈ allRules [] (captured options keys directives) := by
    rw [← toList_ruleOf?]
    exact Option.mem_toList.2 own
  exact address_captured held

/-- The rule of a place is addressed above what is selected there. -/
theorem nested_place {directives : List Directive} {inner : List Outline}
    (within : ∀ deep ∈ Outline.rulesAll inner,
      (Address.ofKeys keys).segments <+: deep.address.segments)
    (nested : Outline.NestedAll inner) :
    (Outline.node (ruleOf? options keys directives) inner).Nested := by
  refine ⟨fun rule own deep inside => ?_, nested⟩
  rw [address_ruleOf? own]
  exact within deep inside

theorem prefix_outlineOfAll (table : List (String × Outline)) (keys : List String)
    (selections : List Selection) :
    ∀ deep ∈ Outline.rulesAll (outlineOfAll options table keys selections),
      (Address.ofKeys keys).segments <+: deep.address.segments := by
  rw [rules_outlineOfAll]
  exact prefix_slotsOfAll keys selections

mutual

theorem nested_outlineOf (tableNested : ∀ entry ∈ table, entry.2.Nested) :
    ∀ (keys : List String) (selection : Selection), (outlineOf options table keys selection).Nested
  | keys, .field alias? name arguments directives selections =>
      nested_place (prefix_outlineOfAll table _ selections)
        (nested_outlineOfAll tableNested _ selections)
  | keys, .spread fragment directives => by
      cases found : table.lookup fragment with
      | none =>
          rw [outlineOf, found]
          exact nested_place (by simp [Outline.rulesAll]) trivial
      | some body =>
          obtain ⟨front, back, rfl, -⟩ := List.lookup_eq_some_iff.1 found
          rw [outlineOf, found]
          refine nested_place ?_ ⟨(tableNested (fragment, body) (by simp)).under _, trivial⟩
          intro deep inside
          simp only [Option.map_some, Option.toList_some, Outline.rulesAll, List.append_nil,
            Outline.rules_under] at inside
          obtain ⟨held, -, rfl⟩ := List.mem_map.1 inside
          rw [Rule.under, Address.segments_join]
          exact List.prefix_append _ _
  | keys, .inline condition directives selections =>
      nested_place (prefix_outlineOfAll table _ selections)
        (nested_outlineOfAll tableNested _ selections)

theorem nested_outlineOfAll (tableNested : ∀ entry ∈ table, entry.2.Nested) :
    ∀ (keys : List String) (selections : List Selection),
      Outline.NestedAll (outlineOfAll options table keys selections)
  | _, [] => trivial
  | keys, selection :: rest => by
      rw [outlineOfAll]
      split
      · exact nested_outlineOfAll tableNested keys rest
      · exact ⟨nested_outlineOf tableNested keys selection,
          nested_outlineOfAll tableNested keys rest⟩

end

theorem nested_fragmentOutlines {definitions : Document}
    (tableNested : ∀ entry ∈ table, entry.2.Nested) :
    ∀ entry ∈ fragmentOutlines options table definitions, entry.2.Nested := by
  induction definitions generalizing table with
  | nil => exact tableNested
  | cons definition definitions ih =>
      cases definition with
      | operation header selections => exact ih tableNested
      | fragment name condition directives selections =>
          refine ih (List.forall_mem_append.2 ⟨tableNested, List.forall_mem_singleton.2 ?_⟩)
          exact nested_place (prefix_outlineOfAll table [] selections)
            (nested_outlineOfAll tableNested [] selections)

theorem nested_operationOutlines (tableNested : ∀ entry ∈ table, entry.2.Nested)
    (definitions : Document) :
    Outline.NestedAll (definitions.filterMap (operationOutline? options table)) := by
  induction definitions with
  | nil => trivial
  | cons definition definitions ih =>
      cases definition with
      | operation header selections =>
          exact ⟨nested_place (prefix_outlineOfAll table [] selections)
            (nested_outlineOfAll tableNested [] selections), ih⟩
      | fragment name condition directives selections => exact ih

/-- In the outline of a document the rules in a place are addressed within it. -/
theorem nested_outline (options : Options) (document : Document) :
    (outline options document).Nested :=
  ⟨by simp, nested_operationOutlines (nested_fragmentOutlines (by simp)) document⟩

/-! ### Deepest first -/

/-- A program is the outline of its document backwards. Its rules run deepest first when, of
two places next to each other, the later one has no rule above a rule of the earlier one,
and then only. -/
theorem deepestFirst_iff_ordered {document : Document} {compilation : Compilation}
    (compiles : compileDocument options document = .ok compilation) :
    compilation.program = (outline options document).rules.reverse ∧
      (compilation.program.DeepestFirst ↔ (outline options document).Ordered) := by
  have backwards := program_eq_reverse compiles
  refine ⟨backwards, ?_⟩
  rw [← Outline.pairwise_rules (nested_outline options document), backwards,
    Program.DeepestFirst, List.pairwise_reverse]

/-- Fields in fields keep the order, also when a field is repeated inside of another one. -/
theorem deepestFirst_iff_ordered_fields :
    let shaped : List Directive := [⟨"shape", []⟩]
    let document : Document :=
      [.operation none [.field none "a" [] shaped
        [.field none "b" [] shaped [], .field none "b" [] [] [.field none "a" [] shaped []]]]]
    ∃ compilation, compileDocument .standard document = .ok compilation ∧
      compilation.program.map (·.address.text) = ["a.b.a", "a.b", "a"] ∧
      compilation.program.DeepestFirst ∧ (outline .standard document).Ordered := by
  intro shaped document
  have compiles : compileDocument .standard document =
      .ok ⟨_, [⟨⟨"a.b.a"⟩, []⟩, ⟨⟨"a.b"⟩, []⟩, ⟨⟨"a"⟩, []⟩], []⟩ := rfl
  have deepestFirst : Program.DeepestFirst [⟨⟨"a.b.a"⟩, []⟩, ⟨⟨"a.b"⟩, []⟩, ⟨⟨"a"⟩, []⟩] := by
    decide +kernel
  exact ⟨_, compiles, rfl, deepestFirst, (deepestFirst_iff_ordered compiles).2.1 deepestFirst⟩

/-- A field that is repeated with a directive runs before the fields in its first mention. -/
theorem not_deepestFirst_repeated :
    ∃ compilation, compile .standard "\x7b a \x7b b @shape \x7d a @shape \x7d" = .ok compilation ∧
      compilation.program.map (·.address.text) = ["a", "a.b"] ∧
      ¬ compilation.program.DeepestFirst := by
  have compiled : (compile .standard "\x7b a \x7b b @shape \x7d a @shape \x7d").toOption.map
      (fun compilation => (compilation.program.map (·.address.text),
        decide compilation.program.DeepestFirst)) = some (["a", "a.b"], false) := by
    decide +kernel
  generalize compile .standard _ = result at compiled
  cases result with
  | error e => simp [Except.toOption] at compiled
  | ok compilation =>
      simp only [Except.toOption, Option.map_some, Option.some.injEq, Prod.mk.injEq,
        decide_eq_false_iff_not] at compiled
      exact ⟨compilation, rfl, compiled⟩

end Compile

end Reshape
