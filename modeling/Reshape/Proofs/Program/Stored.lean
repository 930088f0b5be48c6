/-
Module: Reshape.Proofs.Program.Stored
Purpose: a program is read back from its stored form, whatever JSON values it carries as
  arguments.
Main exports: Json.isValue, Operation.holdsValues, Program.holdsValues,
  Program.ofJson?_toJson
Trusted boundary: none
-/
import Mathlib.Data.List.Basic
import Reshape.Program.Stored
import Reshape.Proofs.Tree.Members
import Reshape.Replay.Run

/-!
# Stored programs are read back

An operation is stored as an object with its kind under `op` and its own fields behind.
The reader looks at the keys of that object alone, so an argument that is itself an object
with such keys is never mistaken for a part of the operation. Reading goes down the data by
a bound on their depth, and a chain of `each` lies two levels below its operation.
-/

namespace Reshape

/-! ### Values -/

namespace Json

mutual

/-- A value, and not just its syntax: the keys of every object are distinct and every
double is finite. -/
def isValue : Json → Bool
  | .null | .bool _ | .string _ | .number (.integer _ _) => true
  | .number (.double x) => Binary.isFinite x
  | .array items => areValues items
  | .object members => decide (Members.keys members).Nodup && membersAreValues members

def areValues : List Json → Bool
  | [] => true
  | item :: rest => item.isValue && areValues rest

def membersAreValues : List (String × Json) → Bool
  | [] => true
  | (_, value) :: rest => value.isValue && membersAreValues rest

end

end Json

namespace Members

theorem filter_key {members : Members} (distinct : (keys members).Nodup) {name : String}
    {value : Json} (held : (name, value) ∈ members) :
    members.filter (fun member => member.1 == name) = [(name, value)] := by
  induction members with
  | nil => cases held
  | cons member rest ih =>
      obtain ⟨other, distinct⟩ := List.nodup_cons.1 distinct
      rcases List.mem_cons.1 held with rfl | held
      · have none : rest.filter (fun member => member.1 == name) = [] :=
          List.filter_eq_nil_iff.2 fun member inside same =>
            other (List.mem_map.2 ⟨member, inside, beq_iff_eq.1 same⟩)
        simp [none]
      · have differ : member.1 ≠ name := by
          intro same
          exact other (List.mem_map.2 ⟨_, held, same.symm⟩)
        rw [List.filter_cons_of_neg (by simpa using differ), ih distinct held]

end Members

namespace Stored

mutual

/-- A value is read back from its stored form. -/
theorem toJson?_ofJson : ∀ {value : Json} (_holds : value.isValue = true),
    (ofJson value).toJson? = some value
  | .null, _ | .bool _, _ | .string _, _ => rfl
  | .number (.integer value fits), _ => by
      simp [ofJson, toJson?, Json.Number.ofInt?, fits]
  | .number (.double x), holds => by
      rw [Json.isValue] at holds
      simp [ofJson, toJson?, holds]
  | .array items, holds => by
      rw [Json.isValue] at holds
      simp [ofJson, toJson?, toItems?_ofItems holds]
  | .object members, holds => by
      rw [Json.isValue, Bool.and_eq_true, decide_eq_true_eq] at holds
      have added : Members.insertAll [] members = members :=
        Members.insertAll_eq_append holds.1
      simp [ofJson, toJson?, toMembers?_ofMembers holds.2, added]

theorem toItems?_ofItems : ∀ {items : List Json} (_hold : Json.areValues items = true),
    toItems? (ofItems items) = some items
  | [], _ => rfl
  | item :: rest, hold => by
      rw [Json.areValues, Bool.and_eq_true] at hold
      simp [ofItems, toItems?, toJson?_ofJson hold.1, toItems?_ofItems hold.2]

theorem toMembers?_ofMembers : ∀ {members : List (String × Json)}
    (_hold : Json.membersAreValues members = true), toMembers? (ofMembers members) = some members
  | [], _ => rfl
  | (key, value) :: rest, hold => by
      rw [Json.membersAreValues, Bool.and_eq_true] at hold
      simp [ofMembers, toMembers?, string?, toJson?_ofJson hold.1, toMembers?_ofMembers hold.2]

end

theorem mapM_toJson?_ofItems {items : List Json} (hold : Json.areValues items = true) :
    (ofItems items).mapM toJson? = some items := by
  induction items with
  | nil => rfl
  | cons item rest ih =>
      rw [Json.areValues, Bool.and_eq_true] at hold
      simp [ofItems, toJson?_ofJson hold.1, ih hold.2]

mutual

/-- JSON data are plain, with no tags and no integers beyond 64 bits. -/
theorem isPlain_ofJson : ∀ value : Json, (ofJson value).isPlain = true
  | .null | .bool _ | .string _ | .number (.double _) => rfl
  | .number (.integer value fits) => by simp [ofJson, isPlain, Json.Number.ofInt?, fits]
  | .array items => by simp [ofJson, isPlain, allPlain_ofItems items]
  | .object members => by simp [ofJson, isPlain, entriesPlain_ofMembers members]

theorem allPlain_ofItems : ∀ items : List Json, allPlain (ofItems items) = true
  | [] => rfl
  | item :: rest => by simp [ofItems, allPlain, isPlain_ofJson item, allPlain_ofItems rest]

theorem entriesPlain_ofMembers : ∀ members : List (String × Json),
    entriesPlain (ofMembers members) = true
  | [] => rfl
  | (key, value) :: rest => by
      simp [ofMembers, entriesPlain, isPlain, isPlain_ofJson value, entriesPlain_ofMembers rest]

end

/-! ### Fields -/

theorem ofMembers_eq_map (members : Members) :
    ofMembers members =
      members.map fun member => (.leaf (some member.1) (.string member.1), ofJson member.2) := by
  induction members with
  | nil => rfl
  | cons member rest ih => simp [ofMembers, ih]

theorem text?_ofMembers (members : Members) :
    (ofMembers members).all (·.1.text?.isSome) = true := by
  simp [ofMembers_eq_map, text?]

theorem isKey_ofMembers (members : Members) :
    (ofMembers members).all (Operation.isKey ·.1) = true := by
  simp [ofMembers_eq_map, Operation.isKey]

/-- A test that accepts one key of an object finds the member with that key. -/
theorem field_ofMembers {members : Members} (distinct : (Members.keys members).Nodup)
    {accepts : Stored → Bool} {name : String}
    (one : ∀ key, accepts (.leaf (some key) (.string key)) = (key == name)) {value : Json}
    (held : (name, value) ∈ members) : field accepts (ofMembers members) = .once (ofJson value) := by
  simp [field, ofMembers_eq_map, List.filter_map, Function.comp_def, one,
    Members.filter_key distinct held]

end Stored

/-! ### Operations -/

theorem Scope.ofStored?_word (scope : Scope) :
    ofStored? (.leaf (some scope.word) (.string scope.word)) = some scope := by
  cases scope <;> decide

namespace Operation

/-- The kind under which an operation is stored. -/
def kind : Operation → Kind
  | .navigate _ _ => .navigate
  | .each _ => .each
  | .hoist _ => .hoist
  | .rename _ => .rename
  | .assign _ => .assign
  | .call _ _ => .call

/-- The fields that are stored behind the kind. -/
def fields : Operation → Members
  | .navigate scope path => [("scope", .string scope.word), ("path", .string path)]
  | .each operations => [("operations", .array (listToJson operations))]
  | .hoist keep => [("keep", .bool keep)]
  | .rename key => [("key", .string key)]
  | .assign args => [("args", .array args)]
  | .call name args => [("name", .string name), ("args", .array args)]

theorem toJson_eq (operation : Operation) :
    operation.toJson = .object (("op", .string operation.kind.word) :: operation.fields) := by
  cases operation <;> rw [toJson] <;> rfl

theorem keys_fields (operation : Operation) :
    Members.keys operation.fields = operation.kind.fieldNames := by
  cases operation <;> rfl

/-- No kind has a field twice or one that is called `op`. -/
theorem nodup_fieldNames (kind : Kind) : ("op" :: kind.fieldNames).Nodup := by
  cases kind <;> decide

theorem nodup_keys_fields (operation : Operation) :
    (Members.keys (("op", .string operation.kind.word) :: operation.fields)).Nodup := by
  rw [Members.keys, List.map_cons, ← Members.keys, keys_fields]
  exact nodup_fieldNames operation.kind

theorem Kind.ofWord?_word (kind : Kind) : ofWord? kind.word = some kind := by
  cases kind <;> decide

variable {kindOf? : Stored → Option Kind}

/-- The stored form splits into the kind and the fields. -/
theorem split?_ofJson_toJson
    (reads : ∀ kind : Kind, kindOf? (.leaf (some kind.word) (.string kind.word)) = some kind)
    (operation : Operation) :
    split? kindOf? (.ofJson operation.toJson) =
      some (operation.kind, .map (Stored.ofMembers operation.fields)) := by
  have tag : Stored.field (·.string? == some "op")
      (Stored.ofMembers (("op", .string operation.kind.word) :: operation.fields)) =
        .once (.ofJson (.string operation.kind.word)) :=
    Stored.field_ofMembers (nodup_keys_fields operation) (fun _ => rfl) List.mem_cons_self
  have others : (Stored.ofMembers (("op", .string operation.kind.word) :: operation.fields)).filter
      (·.1.string? != some "op") = Stored.ofMembers operation.fields := by
    have named : ∀ member ∈ operation.fields, member.1 ≠ "op" := by
      intro member inside same
      have other := (List.nodup_cons.1 (nodup_keys_fields operation)).1
      exact other (List.mem_map.2 ⟨member, inside, same⟩)
    have kept : operation.fields.filter (fun member => some member.1 != some "op") =
        operation.fields := List.filter_eq_self.2 fun member inside => by simp [named member inside]
    simp [Stored.ofMembers_eq_map, Stored.string?, List.filter_map, Function.comp_def, kept]
  rw [toJson_eq, Stored.ofJson, split?, tag, others]
  simp [Stored.ofJson, reads]

/-- Each of the fields is found under its name. -/
theorem namedFields?_ofMembers {members : Members} (distinct : (Members.keys members).Nodup) :
    ∀ {chosen : Members} (number : Nat) (_inside : ∀ member ∈ chosen, member ∈ members),
      namedFields? (Stored.ofMembers members) number (Members.keys chosen) =
        some (chosen.map fun member => .ofJson member.2)
  | [], _, _ => rfl
  | (name, value) :: rest, number, inside => by
      obtain ⟨here, later⟩ := List.forall_mem_cons.1 inside
      have first : Stored.field (isKeyOf name number) (Stored.ofMembers members) =
          .once (.ofJson value) := Stored.field_ofMembers distinct (fun _ => rfl) here
      have further := namedFields?_ofMembers distinct (number + 1) later
      rw [Members.keys] at further
      simp [Members.keys, namedFields?, first, further]

theorem fields?_ofMembers (operation : Operation) :
    fields? operation.kind.fieldNames (.map (Stored.ofMembers operation.fields)) =
      some (operation.fields.map fun member => .ofJson member.2) := by
  have distinct : (Members.keys operation.fields).Nodup := by
    rw [keys_fields]
    exact (List.nodup_cons.1 (nodup_fieldNames operation.kind)).2
  rw [fields?, if_pos (Stored.isKey_ofMembers _), ← keys_fields,
    namedFields?_ofMembers distinct 0 fun _ inside => inside]

/-- One level of reading an operation back. -/
theorem read?_succ
    (reads : ∀ kind : Kind, kindOf? (.leaf (some kind.word) (.string kind.word)) = some kind)
    (fuel : Nat) (operation : Operation) :
    read? kindOf? (fuel + 1) (.ofJson operation.toJson) =
      match operation with
      | .each operations =>
          ((Stored.ofItems (listToJson operations)).mapM (read? Kind.ofInner? fuel)).map .each
      | .assign args => ((Stored.ofItems args).mapM Stored.toJson?).map .assign
      | .call name args => ((Stored.ofItems args).mapM Stored.toJson?).map (.call name)
      | other => some other := by
  have plain : (Stored.map (Stored.ofMembers operation.fields)).isPlain = true :=
    Stored.entriesPlain_ofMembers _
  simp only [read?, split?_ofJson_toJson reads, plain, fields?_ofMembers, Option.bind_eq_bind,
    Option.bind_some]
  cases operation with
  | navigate scope path =>
      simp [kind, fields, Scope.ofStored?_word, Stored.ofJson, Stored.string?]
  | each operations =>
      cases inner : (Stored.ofItems (listToJson operations)).mapM (read? Kind.ofInner? fuel) <;>
        simp [kind, fields, Stored.ofJson, Stored.list?, inner]
  | hoist keep => simp [kind, fields, Stored.ofJson, Stored.bool?]
  | rename key => simp [kind, fields, Stored.ofJson, Stored.string?]
  | assign args =>
      cases values : (Stored.ofItems args).mapM Stored.toJson? <;>
        simp [kind, fields, Stored.ofJson, Stored.list?, values]
  | call name args =>
      cases values : (Stored.ofItems args).mapM Stored.toJson? <;>
        simp [kind, fields, Stored.ofJson, Stored.string?, Stored.list?, values]

/-! ### Chains -/

theorem depth_each (operations : List Operation) :
    (Stored.ofJson (each operations).toJson).depth =
      Stored.depthItems (Stored.ofItems (listToJson operations)) + 2 := by
  simp [toJson, Stored.ofJson, Stored.ofMembers, Stored.depth, Stored.depthEntries]

mutual

/-- Whether every argument in an operation is a value, at any depth of `each`. -/
def holdsValues : Operation → Bool
  | .navigate _ _ | .hoist _ | .rename _ => true
  | .each operations => allHoldValues operations
  | .assign args | .call _ args => Json.areValues args

def allHoldValues : List Operation → Bool
  | [] => true
  | operation :: rest => operation.holdsValues && allHoldValues rest

end

theorem Kind.ofInner?_word (kind : Kind) :
    ofInner? (.leaf (some kind.word) (.string kind.word)) = some kind :=
  ofWord?_word kind

theorem Kind.ofOuter?_word (kind : Kind) :
    ofOuter? (.leaf (some kind.word) (.string kind.word)) = some kind :=
  ofWord?_word kind

mutual

/-- A bound above the depth of the stored form is enough to read it back. -/
theorem read?_toJson {kindOf? : Stored → Option Kind}
    (reads : ∀ kind : Kind, kindOf? (.leaf (some kind.word) (.string kind.word)) = some kind) :
    ∀ {operation : Operation} {fuel : Nat}
      (_enough : (Stored.ofJson operation.toJson).depth < fuel)
      (_holds : operation.holdsValues = true),
      read? kindOf? fuel (.ofJson operation.toJson) = some operation
  | _, 0, enough, _ => absurd enough (Nat.not_lt_zero _)
  | .navigate scope path, fuel + 1, _, _ => read?_succ reads fuel _
  | .hoist keep, fuel + 1, _, _ => read?_succ reads fuel _
  | .rename key, fuel + 1, _, _ => read?_succ reads fuel _
  | .assign args, fuel + 1, _, holds => by
      rw [holdsValues] at holds
      simp [read?_succ reads, Stored.mapM_toJson?_ofItems holds]
  | .call name args, fuel + 1, _, holds => by
      rw [holdsValues] at holds
      simp [read?_succ reads, Stored.mapM_toJson?_ofItems holds]
  | .each operations, fuel + 1, enough, holds => by
      rw [depth_each] at enough
      rw [holdsValues] at holds
      have inner : (Stored.ofItems (listToJson operations)).mapM (read? Kind.ofInner? fuel) =
          some operations := mapM_read?_toJson (by omega) holds
      simp [read?_succ reads, inner]

theorem mapM_read?_toJson : ∀ {operations : List Operation} {fuel : Nat}
    (_enough : Stored.depthItems (Stored.ofItems (listToJson operations)) < fuel)
    (_hold : allHoldValues operations = true),
    (Stored.ofItems (listToJson operations)).mapM (read? Kind.ofInner? fuel) = some operations
  | [], _, _, _ => rfl
  | operation :: rest, fuel, enough, hold => by
      rw [allHoldValues, Bool.and_eq_true] at hold
      rw [listToJson, Stored.ofItems, Stored.depthItems] at enough
      have first : read? Kind.ofInner? fuel (.ofJson operation.toJson) = some operation :=
        read?_toJson Kind.ofInner?_word (by omega) hold.1
      have others : (Stored.ofItems (listToJson rest)).mapM (read? Kind.ofInner? fuel) =
          some rest := mapM_read?_toJson (by omega) hold.2
      simp [listToJson, Stored.ofItems, first, others]

end

theorem ofStored?_toJson {operation : Operation} (holds : operation.holdsValues = true) :
    ofStored? (.ofJson operation.toJson) = some operation :=
  read?_toJson Kind.ofOuter?_word (Nat.lt_succ_self _) holds

theorem mapM_ofStored?_toJson {operations : List Operation}
    (hold : allHoldValues operations = true) :
    (Stored.ofItems (listToJson operations)).mapM ofStored? = some operations := by
  induction operations with
  | nil => rfl
  | cons operation rest ih =>
      rw [allHoldValues, Bool.and_eq_true] at hold
      simp [listToJson, Stored.ofItems, ofStored?_toJson hold.1, ih hold.2]

end Operation

/-! ### Programs -/

theorem Rule.ofStored?_toJson {rule : Rule}
    (holds : Operation.allHoldValues rule.operations = true) :
    Rule.ofStored? .json (.ofJson rule.toJson) = some rule := by
  let members : Members := [("address", .string rule.address.text),
    ("operations", .array (Operation.listToJson rule.operations))]
  have distinct : (Members.keys members).Nodup := by
    simp [members, Members.keys]
  have address : Stored.field (·.text? == some "address") (Stored.ofMembers members) =
      .once (.ofJson (.string rule.address.text)) :=
    Stored.field_ofMembers distinct (fun _ => rfl) List.mem_cons_self
  have operations : Stored.field (·.text? == some "operations") (Stored.ofMembers members) =
      .once (.ofJson (.array (Operation.listToJson rule.operations))) :=
    Stored.field_ofMembers distinct (fun _ => rfl) (List.mem_cons_of_mem _ List.mem_cons_self)
  rw [toJson, Stored.ofJson, ofStored?, if_pos (Stored.text?_ofMembers members), address, operations]
  simp [ofFields?, Stored.ofJson, Stored.text?, Stored.listOrNothing?,
    Operation.mapM_ofStored?_toJson holds]

namespace Program

/-- Whether every argument in a program is a value. -/
def holdsValues (program : Program) : Bool :=
  program.all fun rule => Operation.allHoldValues rule.operations

theorem ofJson?_toJson_of_holdsValues {program : Program} (holds : program.holdsValues = true) :
    ofJson? program.toJson = some program := by
  rw [ofJson?, toJson, Stored.ofJson, ofStored?, Stored.listOrNothing?, Option.bind_some]
  induction program with
  | nil => rfl
  | cons rule rest ih =>
      rw [holdsValues, List.all_cons, Bool.and_eq_true] at holds
      simp [Stored.ofItems, Rule.ofStored?_toJson holds.1, ih holds.2]

/-- A program is read back from its stored form, and so the stored form does to every tree
what the program does, with the same functions and while the clock stands at one instant. -/
theorem ofJson?_toJson (program : Program) (holds : program.holdsValues = true) :
    ofJson? program.toJson = some program ∧
      ∀ [Pattern.Library] (registry : Registry) (instant : Calendar.Moment) (tree : Json),
        let dispatcher := Dispatcher.frozenAt instant registry
        (ofJson? program.toJson).map (replay dispatcher · tree) =
            some (program.replay dispatcher tree) ∧
          (ofJson? program.toJson).map (run dispatcher · tree) =
            some (program.run dispatcher tree) := by
  rw [ofJson?_toJson_of_holdsValues holds]
  exact ⟨rfl, fun _ _ _ => ⟨rfl, rfl⟩⟩

/-- Arguments with the keys of operations and rules, two levels down. -/
theorem ofJson?_toJson_nested :
    let program : Program := [⟨⟨"a.b"⟩, [.navigate .root "$", .hoist true,
      .each [.each [.rename "op", .assign [.number (.double (-0.5)), .object [
        ("op", .string "each"), ("operations", .array [.object [("op", .string "call")]]),
        ("args", .array [.ofInt (-7), .null])]]],
        .call "" [.string "$0", .object [("address", .bool true), ("name", .null)]]]]⟩, ⟨⟨""⟩, []⟩]
    program.holdsValues = true ∧ ofJson? program.toJson = some program := by
  intro program
  have holds : program.holdsValues = true := by decide +kernel
  exact ⟨holds, (ofJson?_toJson program holds).1⟩

end Program

end Reshape
