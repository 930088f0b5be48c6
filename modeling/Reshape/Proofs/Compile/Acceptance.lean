/-
Module: Reshape.Proofs.Compile.Acceptance
Purpose: which documents compile, and with which error the others are refused.
Main exports: Compile.spreads, Compile.bodies, Compile.Acceptable, Compile.Refused,
  Compile.compileDocument_accepts_or_refuses
Trusted boundary: none
-/
import Reshape.Proofs.Compile.Captured

/-!
# Documents that compile

A document is refused for one of three reasons, looked for in this order: two of its
fragments have the same name, the body of a fragment spreads a fragment that is not defined
before it, or an operation spreads a fragment that is not defined at all. Spreads that are
marked for deletion, and those in marked selections, do not count. Nothing else is refused.
-/

namespace Reshape

/-- The fragment that a slot is left open for. -/
def Slot.fragment? : Slot → Option String
  | .rule _ => none
  | .spread _ fragment => some fragment

/-- The fragments that slots are left open for, in their order. -/
def Slot.fragments (slots : List Slot) : List String :=
  slots.filterMap Slot.fragment?

theorem Slot.mem_fragments {slots : List Slot} {fragment : String} :
    fragment ∈ fragments slots ↔ ∃ base, .spread base fragment ∈ slots := by
  rw [fragments, List.mem_filterMap]
  constructor
  · rintro ⟨slot, inside, own⟩
    cases slot with
    | rule rule => cases own
    | spread base name =>
        cases own
        exact ⟨base, inside⟩
  · rintro ⟨base, inside⟩
    exact ⟨_, inside, rfl⟩

/-- Every entry refers only to what is known and to entries before it. -/
def Resolves (known : List String) (entries : List (String × List String)) : Prop :=
  ∀ ⦃front name named back⦄, entries = front ++ (name, named) :: back →
    ∀ other ∈ named, other ∈ known ++ front.map Prod.fst

theorem resolves_cons {known named : List String} {name : String}
    {entries : List (String × List String)} :
    Resolves known ((name, named) :: entries) ↔
      (∀ other ∈ named, other ∈ known) ∧ Resolves (known ++ [name]) entries := by
  constructor
  · intro resolves
    refine ⟨fun other inside => ?_, fun front next named back same other inside => ?_⟩
    · simpa using @resolves [] name named entries rfl other inside
    · have earlier := @resolves ((name, _) :: front) next named back (congrArg _ same) other inside
      rwa [List.append_assoc]
  · rintro ⟨own, later⟩ front next named back same other inside
    cases front with
    | nil =>
        cases same
        simpa using own other inside
    | cons entry front =>
        cases same
        have earlier := later rfl other inside
        rwa [List.append_assoc] at earlier

namespace Collection

variable {collector : Collector} {table filled : FragmentTable} {declared : List String}
  {error : CompileError}

/-- The error of a spread that cannot be filled: the fragment is declared later, or not at
all. -/
def refusal (declared : List String) (fragment : String) (collector : Collector) : CompileError :=
  if fragment ∈ declared then .forwardFragment fragment collector
  else .unknownFragment fragment collector

theorem isSome_lookup_iff {name : String} :
    (table.lookup name).isSome ↔ name ∈ table.map Prod.fst := by
  simp [List.lookup_isSome_iff]

/-! ### Slots that cannot be filled -/

/-- Filling fails at the first spread of a fragment that is not in the table. -/
theorem fill_eq_error {slots : List Slot} :
    fill collector table declared slots = .error error ↔
      ∃ fragment, (Slot.fragments slots).find? (· ∉ table.map Prod.fst) = some fragment ∧
        error = refusal declared fragment collector := by
  induction slots with
  | nil => simp [fill, Slot.fragments]
  | cons slot slots ih =>
      cases slot with
      | rule rule =>
          rw [fill, map_eq_error, ih]
          rfl
      | spread base fragment =>
          have first : Slot.fragments (.spread base fragment :: slots) =
              fragment :: Slot.fragments slots := rfl
          rw [fill, first, List.find?_cons]
          cases found : table.lookup fragment with
          | some body =>
              have known : fragment ∈ table.map Prod.fst := isSome_lookup_iff.1 (by simp [found])
              simp only [map_eq_error, ih, known, not_true, decide_false]
          | none =>
              have unknown : fragment ∉ table.map Prod.fst := by
                rw [← isSome_lookup_iff, found]
                simp
              simp [unknown, refusal, eq_comm]

/-! ### Fragments that cannot be filled -/

/-- The fragments, each with those that its slots are left open for. -/
def references (fragments : List (String × List Slot)) : List (String × List String) :=
  fragments.map fun entry => (entry.1, Slot.fragments entry.2)

/-- Fragments can be filled when each refers only to those in the table and before it. -/
theorem exists_fillFragments {fragments : List (String × List Slot)} :
    (∃ filled, fillFragments declared table fragments = .ok filled) ↔
      Resolves (table.map Prod.fst) (references fragments) := by
  induction fragments generalizing table with
  | nil => simp [fillFragments, Resolves, references]
  | cons fragment fragments ih =>
      obtain ⟨name, slots⟩ := fragment
      have whole : references ((name, slots) :: fragments) =
          (name, Slot.fragments slots) :: references fragments := rfl
      simp only [fillFragments_cons, exists_and_left, ih, whole, resolves_cons, List.map_append,
        List.map_singleton, Slot.mem_fragments, isSome_lookup_iff]
      rw [forall_comm]
      simp only [forall_exists_index]

theorem fillFragments_eq_foldlM (fragments : List (String × List Slot)) :
    fillFragments declared table fragments =
      fragments.foldlM (fun table entry => (fill (.fragment entry.1) table declared entry.2).map
        fun rules => table ++ [(entry.1, rules)]) table := by
  induction fragments generalizing table with
  | nil => rfl
  | cons fragment fragments ih =>
      rw [fillFragments, List.foldlM_cons]
      cases fill (.fragment fragment.1) table declared fragment.2 with
      | error e => rfl
      | ok rules => exact ih

theorem map_fst_fillFragments {fragments : List (String × List Slot)}
    (succeeds : fillFragments declared table fragments = .ok filled) :
    filled.map Prod.fst = table.map Prod.fst ++ (references fragments).map Prod.fst := by
  have whole := congrArg (List.map Prod.fst) (fillFragments_eq succeeds)
  rw [List.map_append, List.map_map] at whole
  rw [references, List.map_map]
  exact whole

/-- Filling fragments fails at the first one that refers to no fragment before it. -/
theorem fillFragments_eq_error {fragments : List (String × List Slot)} :
    fillFragments declared [] fragments = .error error ↔
      ∃ front name named back fragment,
        references fragments = front ++ (name, named) :: back ∧ Resolves [] front ∧
          named.find? (· ∉ front.map Prod.fst) = some fragment ∧
          error = refusal declared fragment (.fragment name) := by
  rw [fillFragments_eq_foldlM, foldlM_eq_error]
  simp only [← fillFragments_eq_foldlM, map_eq_error, fill_eq_error]
  constructor
  · rintro ⟨front, ⟨name, slots⟩, back, reached, rfl, reaches, fragment, first, rfl⟩
    refine ⟨references front, name, Slot.fragments slots, references back, fragment, ?_,
      exists_fillFragments.1 ⟨reached, reaches⟩, ?_, rfl⟩
    · rw [references, List.map_append]
      rfl
    · rwa [map_fst_fillFragments reaches] at first
  · rintro ⟨front, name, named, back, fragment, split, resolves, first, rfl⟩
    obtain ⟨earlier, rest, rfl, rfl, later⟩ := List.map_eq_append_iff.1 split
    obtain ⟨⟨own, slots⟩, others, rfl, same, -⟩ := List.map_eq_cons_iff.1 later
    cases same
    have filled : ∃ reached, fillFragments declared [] earlier = .ok reached :=
      exists_fillFragments.2 resolves
    obtain ⟨reached, reaches⟩ := filled
    refine ⟨earlier, (own, slots), others, reached, rfl, reaches, fragment, ?_, rfl⟩
    rwa [map_fst_fillFragments reaches]

end Collection

open Query

/-- The name of the fragment that a definition is. -/
def Query.Definition.fragmentName? : Definition → Option String
  | .operation _ _ => none
  | .fragment name _ _ _ => some name

/-- The names of the fragments of a document, in the order of their definitions. -/
def Query.Document.fragmentNames (document : Document) : List String :=
  document.filterMap Definition.fragmentName?

namespace Compile

open Collection (refusal references)

/-! ### What documents refer to -/

/-- The fragments that a definition spreads, by spreads that are neither marked for deletion
nor stand in a marked selection, in the order of the text. -/
def spreads (options : Options) (definition : Definition) : List String :=
  (definition.places.filter (!isRemoved options ·)).filterMap (·.node.spread?)

/-- The fragments of a document, each with those that its body spreads. -/
def bodies (options : Options) (document : Document) : List (String × List String) :=
  document.filterMap fun definition =>
    definition.fragmentName?.map fun name => (name, spreads options definition)

variable {options : Options} {document : Document}

theorem map_fst_bodies (options : Options) (document : Document) :
    (bodies options document).map Prod.fst = document.fragmentNames := by
  rw [bodies, List.map_filterMap, Document.fragmentNames]
  simp only [Option.map_map, Function.comp_def, Option.map_id_fun', id]

theorem map_fst_fragmentSlots (options : Options) (document : Document) :
    (document.filterMap (fragmentSlots options)).map Prod.fst = document.fragmentNames := by
  rw [List.map_filterMap, Document.fragmentNames]
  refine List.filterMap_congr fun definition _ => ?_
  cases definition <;> rfl

/-- The slots of a definition are left open for the fragments that it spreads. -/
theorem fragments_definitionSlots (definition : Definition) :
    Slot.fragments (captured options [] definition.node.directives ++
        slotsOfAll options [] definition.selections) = spreads options definition := by
  have each (place : Place) :
      Slot.fragments (slotsAt options place) = place.node.spread?.toList := by
    rw [slotsAt, captured_eq, Slot.fragments, List.filterMap_append]
    cases place.node.spread? <;> cases isShaped options place.node <;> rfl
  rw [definitionSlots_eq_flatMap, Slot.fragments, List.filterMap_flatMap, spreads,
    List.filterMap_eq_flatMap_toList]
  exact List.flatMap_congr fun place _ => each place

theorem references_fragmentSlots (options : Options) (document : Document) :
    references (document.filterMap (fragmentSlots options)) = bodies options document := by
  rw [references, List.map_filterMap, bodies]
  refine List.filterMap_congr fun definition _ => ?_
  cases definition with
  | operation header selections => rfl
  | fragment name condition directives selections =>
      exact congrArg (fun spread => some (name, spread))
        (fragments_definitionSlots (.fragment name condition directives selections))

theorem fragments_programSlots (options : Options) (document : Document) :
    Slot.fragments (document.flatMap (programSlots options)) =
      document.operations.flatMap (spreads options) := by
  rw [Slot.fragments, List.filterMap_flatMap]
  induction document with
  | nil => rfl
  | cons definition document ih =>
      rw [List.flatMap_cons, ih, Document.operations_cons]
      cases definition with
      | fragment name condition directives selections => rfl
      | operation header selections =>
          exact congrArg (· ++ _) (fragments_definitionSlots (.operation header selections))

/-! ### Why a document is refused -/

theorem collectDefinition_eq_error {collection : Collection} {definition : Definition}
    {error : CompileError} :
    collectDefinition options collection definition = .error error ↔
      ∃ name, definition.fragmentName? = some name ∧ name ∈ collection.names ∧
        error = .duplicateFragment name := by
  cases definition with
  | operation header selections => simp [collectDefinition, Definition.fragmentName?]
  | fragment name condition directives selections =>
      simp only [collectDefinition, map_eq_error, Collection.declare, Definition.fragmentName?,
        Option.some.injEq, exists_eq_left']
      split
      · next known => simp [known, eq_comm]
      · next fresh => simp [fresh]

/-- Collecting fails at the first fragment with the name of one before it. -/
theorem collect_eq_error {error : CompileError} :
    collect options document = .error error ↔
      ∃ front name back, document.fragmentNames = front ++ name :: back ∧ front.Nodup ∧
        name ∈ front ∧ error = .duplicateFragment name := by
  rw [collect, foldlM_eq_error]
  constructor
  · rintro ⟨before, definition, after, reached, rfl, reaches, failed⟩
    obtain ⟨distinct, rfl⟩ := collect_eq_ok.1 reaches
    obtain ⟨name, own, known, rfl⟩ := collectDefinition_eq_error.1 failed
    rw [Collection.names, map_fst_fragmentSlots] at known
    rw [map_fst_fragmentSlots] at distinct
    refine ⟨_, name, Document.fragmentNames after, ?_, distinct, known, rfl⟩
    rw [Document.fragmentNames, List.filterMap_append, List.filterMap_cons, own]
    rfl
  · rintro ⟨front, name, back, split, distinct, again, rfl⟩
    obtain ⟨first, later, rfl, rfl, rest⟩ := List.filterMap_eq_append_iff.1 split
    obtain ⟨skipped, definition, after, rfl, unnamed, own, -⟩ := List.filterMap_eq_cons_iff.1 rest
    have before : Document.fragmentNames (first ++ skipped) =
        first.filterMap Definition.fragmentName? := by
      rw [Document.fragmentNames, List.filterMap_append, List.filterMap_eq_nil_iff.2 unnamed,
        List.append_nil]
    rw [← before, ← map_fst_fragmentSlots options] at distinct again
    have reaches : collect options (first ++ skipped) = .ok _ := collect_eq_ok.2 ⟨distinct, rfl⟩
    exact ⟨first ++ skipped, definition, after, _, (List.append_assoc ..).symm, reaches,
      collectDefinition_eq_error.2 ⟨name, own, again, rfl⟩⟩

/-- A document fails to compile because it cannot be collected, because its fragments cannot be
filled, or because its operations cannot. -/
theorem compileDocument_eq_error {error : CompileError} :
    compileDocument options document = .error error ↔
      collect options document = .error error ∨
        document.fragmentNames.Nodup ∧
          (Collection.fillFragments document.fragmentNames []
              (document.filterMap (fragmentSlots options)) = .error error ∨
            ∃ table, Collection.fillFragments document.fragmentNames []
                (document.filterMap (fragmentSlots options)) = .ok table ∧
              Collection.fill .program table document.fragmentNames
                (document.flatMap (programSlots options)) = .error error) := by
  rw [compileDocument]
  cases collected : collect options document with
  | error e =>
      have repeated : ¬ document.fragmentNames.Nodup := by
        intro distinct
        rw [← map_fst_fragmentSlots options] at distinct
        rw [collect_eq_ok.2 ⟨distinct, rfl⟩] at collected
        cases collected
      simp [Except.bind, repeated]
  | ok collection =>
      obtain ⟨distinct, rfl⟩ := collect_eq_ok.1 collected
      rw [map_fst_fragmentSlots] at distinct
      simp only [Except.bind, Collection.finish, Collection.names, map_fst_fragmentSlots,
        reduceCtorEq, false_or, distinct, true_and]
      cases Collection.fillFragments document.fragmentNames []
        (document.filterMap (fragmentSlots options)) with
      | error e => simp
      | ok table =>
          simp only [reduceCtorEq, Except.ok.injEq, exists_eq_left', false_or]
          cases Collection.fill .program table document.fragmentNames
            (document.flatMap (programSlots options)) <;> simp [Except.map]

/-- A document without fault: its fragments have different names, their bodies spread only
fragments that are defined before, and its operations only fragments that are defined. -/
structure Acceptable (options : Options) (document : Document) : Prop where
  distinct : document.fragmentNames.Nodup
  bodies : Resolves [] (bodies options document)
  operations : ∀ fragment ∈ document.operations.flatMap (spreads options),
    fragment ∈ document.fragmentNames

/-- The fault of a document that is found first. Names come before spreads, and the spreads in
the bodies of fragments before those in operations. -/
inductive Refused (options : Options) (document : Document) : CompileError → Prop
  | duplicate {front back : List String} {name : String}
      (split : document.fragmentNames = front ++ name :: back) (distinct : front.Nodup)
      (again : name ∈ front) : Refused options document (.duplicateFragment name)
  | body {front back : List (String × List String)} {name fragment : String}
      {named : List String} (distinct : document.fragmentNames.Nodup)
      (split : bodies options document = front ++ (name, named) :: back)
      (earlier : Resolves [] front)
      (first : named.find? (· ∉ front.map Prod.fst) = some fragment) :
      Refused options document
        (if fragment ∈ document.fragmentNames then .forwardFragment fragment (.fragment name)
          else .unknownFragment fragment (.fragment name))
  | operation {fragment : String} (distinct : document.fragmentNames.Nodup)
      (resolves : Resolves [] (bodies options document))
      (first : (document.operations.flatMap (spreads options)).find?
        (· ∉ document.fragmentNames) = some fragment) :
      Refused options document (.unknownFragment fragment .program)

/-- The table of the fragments, when it can be filled, has their names. -/
theorem map_fst_table {declared : List String} {table : FragmentTable}
    (filled : Collection.fillFragments declared [] (document.filterMap (fragmentSlots options)) =
      .ok table) : table.map Prod.fst = document.fragmentNames := by
  rw [Collection.map_fst_fillFragments filled, references_fragmentSlots, map_fst_bodies]
  rfl

/-- The fragments of a document can be filled when their bodies spread only those before. -/
theorem exists_table (declared : List String) :
    (∃ table, Collection.fillFragments declared []
        (document.filterMap (fragmentSlots options)) = .ok table) ↔
      Resolves [] (bodies options document) := by
  rw [Collection.exists_fillFragments, references_fragmentSlots, List.map_nil]

theorem exists_compilation_iff :
    (∃ compilation, compileDocument options document = .ok compilation) ↔
      Acceptable options document := by
  constructor
  · rintro ⟨compilation, compiles⟩
    obtain ⟨distinct, filled, known, -⟩ := compileDocument_eq_ok.1 compiles
    refine ⟨map_fst_fragmentSlots options document ▸ distinct, (exists_table _).1 ⟨_, filled⟩, ?_⟩
    intro fragment inside
    rw [← fragments_programSlots] at inside
    obtain ⟨base, spread⟩ := Slot.mem_fragments.1 inside
    rw [← map_fst_table filled, ← Collection.isSome_lookup_iff]
    exact known base fragment spread
  · rintro ⟨distinct, resolves, known⟩
    rw [← map_fst_fragmentSlots options] at distinct
    obtain ⟨table, filled⟩ := (exists_table _).2 resolves
    let rules := Slot.allRules table (document.flatMap (programSlots options))
    refine ⟨⟨cleanDocument options document, rules.reverse, table⟩,
      compileDocument_eq_ok.2 ⟨distinct, filled, ?_, rfl⟩⟩
    intro base fragment spread
    rw [Collection.isSome_lookup_iff, map_fst_table filled]
    refine known fragment ?_
    rw [← fragments_programSlots]
    exact Slot.mem_fragments.2 ⟨base, spread⟩

theorem compileDocument_eq_error_iff {error : CompileError} :
    compileDocument options document = .error error ↔ Refused options document error := by
  rw [compileDocument_eq_error, collect_eq_error, Collection.fillFragments_eq_error,
    references_fragmentSlots]
  constructor
  · rintro (⟨front, name, back, split, distinct, again, rfl⟩ |
      ⟨distinct, ⟨front, name, named, back, fragment, split, earlier, first, rfl⟩ |
        ⟨table, filled, failed⟩⟩)
    · exact .duplicate split distinct again
    · exact .body distinct split earlier first
    · obtain ⟨fragment, first, rfl⟩ := Collection.fill_eq_error.1 failed
      rw [map_fst_table filled, fragments_programSlots] at first
      have missing : fragment ∉ document.fragmentNames := by simpa using List.find?_some first
      rw [refusal, if_neg missing]
      exact .operation distinct ((exists_table _).1 ⟨table, filled⟩) first
  · intro refused
    cases refused with
    | duplicate split distinct again => exact .inl ⟨_, _, _, split, distinct, again, rfl⟩
    | body distinct split earlier first =>
        exact .inr ⟨distinct, .inl ⟨_, _, _, _, _, split, earlier, first, rfl⟩⟩
    | @operation fragment distinct resolves first =>
        have missing : fragment ∉ document.fragmentNames := by simpa using List.find?_some first
        obtain ⟨table, filled⟩ := (exists_table document.fragmentNames).2 resolves
        refine .inr ⟨distinct, .inr ⟨table, filled, Collection.fill_eq_error.2 ⟨fragment, ?_, ?_⟩⟩⟩
        · rw [map_fst_table filled, fragments_programSlots, first]
        · rw [refusal, if_neg missing]

/-- A document compiles when it has no fault, and is refused for the first one that it has
otherwise. -/
theorem compileDocument_accepts_or_refuses (options : Options) (document : Document) :
    ((∃ compilation, compileDocument options document = .ok compilation) ↔
        Acceptable options document) ∧
      ∀ error, compileDocument options document = .error error ↔ Refused options document error :=
  ⟨exists_compilation_iff, fun _ => compileDocument_eq_error_iff⟩

/-- A fragment that spreads itself is found before an operation that spreads what is not
there, and a deleted spread not at all. -/
example :
    compileDocument .standard
      [.operation none [.spread "missing" [], .spread "gone" [⟨"_shape", []⟩]],
        .fragment "f" "T" [] [.field none "a" [] [] [.spread "f" []]]] =
      .error (.forwardFragment "f" (.fragment "f")) := rfl

end Compile

end Reshape
