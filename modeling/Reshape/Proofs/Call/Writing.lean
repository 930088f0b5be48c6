/-
Module: Reshape.Proofs.Call.Writing
Purpose: writing at a path of keys changes the place that reading along the path finds, or
  nothing at all.
Main exports: Builtin.stepAt?, Builtin.put, Builtin.Blocked, Builtin.Unwritable,
  Builtin.locationOf?, Builtin.Assigned, Builtin.set_writes_or_keeps
Trusted boundary: none
-/
import Reshape.Call.Builtin.Lookup
import Reshape.Proofs.Tree.Frame
import Reshape.Proofs.Tree.Identical

/-!
# Writing at a path

Each key of a path asks for one step into a container. In an object every key has a step; in an
array a key has one when it reads as an index of an item or of the place behind the last. A
write goes down step by step, and where there is no step it gives back the value as it was.
This can only happen in a container that was there before, and up to it nothing is created, so
a write that is dropped leaves no trace. Any other write is seen at its own location and at
those that lead to it.
-/

namespace Reshape

namespace Builtin

/-! ### One step -/

/-- The step that a key asks for, where a value can be put. -/
def stepAt? (value : Json) (key : String) : Option Step :=
  match value with
  | .object _ => some (.key key)
  | .array items => (keyIndex? key).bind fun i => if i ≤ items.length then some (.index i) else none
  | _ => none

/-- The container with a value at a step, behind the last item when there is none yet. -/
def put (container : Json) (step : Step) (value : Json) : Json :=
  match container, step with
  | .object members, .key name => .object (Members.insert name value members)
  | .array items, .index position =>
      .array (if position < items.length then items.set position value else items ++ [value])
  | other, _ => other

variable {value inner new replacement : Json} {key : String} {rest keys : List String} {step : Step}

theorem childAt?_eq (value : Json) (key : String) :
    childAt? value key = (stepAt? value key).bind value.child? := by
  cases value with
  | object members => rfl
  | array items =>
      rw [childAt?, stepAt?]
      cases keyIndex? key with
      | none => rfl
      | some i =>
          rw [Option.bind_some, Option.bind_some]
          split
          · rfl
          · next beyond => exact List.getElem?_eq_none (by omega)
  | _ => rfl

/-- A key has a step in every container but an array that ends before it. -/
theorem stepAt?_eq_none : stepAt? value key = none ↔ value.isContainer = false ∨
    ∃ items, value = .array items ∧ ∀ i, keyIndex? key = some i → items.length < i := by
  cases value <;> simp [stepAt?, Json.isContainer]

theorem stepAt?_eq_some : stepAt? value key = some step ↔
    (∃ members, value = .object members ∧ step = .key key) ∨
      ∃ items i, value = .array items ∧ keyIndex? key = some i ∧ i ≤ items.length ∧
        step = .index i := by
  cases value <;> simp [stepAt?, Option.bind_eq_some_iff, @eq_comm _ step]

theorem stepAt?_put (asked : stepAt? value key = some step) (new : Json) :
    stepAt? (put value step new) key = some step := by
  obtain ⟨members, rfl, rfl⟩ | ⟨items, i, rfl, index, within, rfl⟩ := stepAt?_eq_some.1 asked
  · rfl
  · refine stepAt?_eq_some.2 (.inr ⟨_, i, rfl, index, ?_, rfl⟩)
    split
    · simpa using within
    · exact Nat.le_trans within (by simp)

theorem child?_put_self (asked : stepAt? value key = some step) (new : Json) :
    (put value step new).child? step = some new := by
  obtain ⟨members, rfl, rfl⟩ | ⟨items, i, rfl, index, within, rfl⟩ := stepAt?_eq_some.1 asked
  · exact Members.get?_insert_self key new members
  · rw [put]
    split
    · next inside => simp [Json.child?, inside]
    · next behind =>
      have last : i = items.length := Nat.le_antisymm within (Nat.le_of_not_lt behind)
      simp [Json.child?, last]

theorem child?_put_of_ne {other : Step} (asked : stepAt? value key = some step)
    (differ : step ≠ other) (new : Json) :
    (put value step new).child? other = value.child? other := by
  obtain ⟨members, rfl, rfl⟩ | ⟨items, i, rfl, index, within, rfl⟩ := stepAt?_eq_some.1 asked
  · cases other with
    | index position => rfl
    | key name =>
        exact Members.get?_insert_of_ne (fun same => differ (congrArg Step.key same)) new members
  · cases other with
    | key name => rfl
    | index position =>
        have apart : i ≠ position := fun same => differ (congrArg Step.index same)
        rw [put]
        split
        · exact List.getElem?_set_ne apart
        · next behind =>
          rw [Json.child?, Json.child?, List.getElem?_append]
          split
          · rfl
          · next beyond =>
            rw [List.getElem?_eq_none (by simp only [List.length_singleton]; omega),
              List.getElem?_eq_none (Nat.le_of_not_lt beyond)]

/-- Putting back what was there changes nothing. -/
theorem put_of_child? (held : value.child? step = some inner) : put value step inner = value := by
  cases value <;> cases step <;> simp [Json.child?] at held
  · obtain ⟨inside, rfl⟩ := List.getElem?_eq_some_iff.1 held
    simp [put, inside]
  · rw [put, Members.insert_of_get? held]

/-- A write puts what it gives further down at the step of its first key, or gives back the
value. -/
theorem assign_cons (value replacement : Json) (key : String) (rest : List String) :
    assign value replacement (key :: rest) =
      match stepAt? value key with
      | none => value
      | some step => put value step
          (assign (containerFor ((value.child? step).getD .null) rest) replacement rest) := by
  cases value with
  | object members => rfl
  | array items =>
      rw [assign, stepAt?]
      cases keyIndex? key with
      | none => rfl
      | some i =>
          cases held : items[i]? with
          | some slot =>
              obtain ⟨inside, -⟩ := List.getElem?_eq_some_iff.1 held
              simp [Nat.le_of_lt inside, put, inside, Json.child?]
          | none =>
              have behind := List.getElem?_eq_none_iff.1 held
              by_cases last : i = items.length
              · simp [last, put, Json.child?]
              · have beyond : ¬ i ≤ items.length := by omega
                simp [held, last, beyond]
  | _ => rfl

/-! ### Writes that are dropped -/

/-- On the path stands an array in which the next key has no place. -/
def Blocked (value : Json) (keys : List String) : Prop :=
  ∃ front key rest items, keys = front ++ key :: rest ∧
    lookup? value front = some (.array items) ∧ ∀ i, keyIndex? key = some i → items.length < i

/-- There is a path, and the value is no container or an array on the path has no place for
its key. -/
def Unwritable (value : Json) (keys : List String) : Prop :=
  (keys ≠ [] ∧ value.isContainer = false) ∨ Blocked value keys

theorem not_blocked_nil (value : Json) : ¬ Blocked value [] := by
  rintro ⟨front, key, rest, items, split, -⟩
  simp at split

theorem blocked_cons : Blocked value (key :: rest) ↔
    (∃ items, value = .array items ∧ ∀ i, keyIndex? key = some i → items.length < i) ∨
      ∃ inner, childAt? value key = some inner ∧ Blocked inner rest := by
  constructor
  · rintro ⟨front, next, back, items, split, found, beyond⟩
    cases front with
    | nil =>
        obtain ⟨rfl, rfl⟩ := List.cons.inj split
        exact .inl ⟨items, Option.some.inj found, beyond⟩
    | cons first front =>
        obtain ⟨rfl, rfl⟩ := List.cons.inj split
        obtain ⟨inner, child, found⟩ := Option.bind_eq_some_iff.1 found
        exact .inr ⟨inner, child, front, next, back, items, rfl, found, beyond⟩
  · rintro (⟨items, rfl, beyond⟩ | ⟨inner, child, front, next, back, items, rfl, found, beyond⟩)
    · exact ⟨[], key, rest, items, rfl, rfl, beyond⟩
    · refine ⟨key :: front, next, back, items, rfl, ?_, beyond⟩
      rw [lookup?, child, Option.bind_some, found]

/-- Only containers lead to an array. -/
theorem Blocked.isContainer (blocked : Blocked value keys) : value.isContainer = true := by
  cases keys with
  | nil => exact absurd blocked (not_blocked_nil value)
  | cons key rest =>
      rcases blocked_cons.1 blocked with ⟨items, rfl, -⟩ | ⟨inner, child, -⟩
      · rfl
      · cases value with
        | array items => rfl
        | object members => rfl
        | _ => cases child

/-- What is made on the way blocks nothing. -/
theorem not_blocked_empty (keys : List String) : ¬ Blocked (.object []) keys := by
  intro blocked
  cases keys with
  | nil => exact not_blocked_nil _ blocked
  | cons key rest => simp [blocked_cons, childAt?, Members.get?] at blocked

theorem containerFor_of_isContainer (isContainer : value.isContainer = true)
    (rest : List String) : containerFor value rest = value := by
  simp [containerFor, isContainer]

theorem containerFor_cons (isScalar : value.isContainer = false) (key : String)
    (rest : List String) : containerFor value (key :: rest) = .object [] := by
  simp [containerFor, isScalar]

/-- A write that is dropped leaves everything as it was. -/
theorem assign_eq_self (unwritable : Unwritable value keys) (replacement : Json) :
    assign value replacement keys = value := by
  induction keys generalizing value with
  | nil =>
      rcases unwritable with ⟨path, -⟩ | blocked
      · exact absurd rfl path
      · exact absurd blocked (not_blocked_nil value)
  | cons key rest ih =>
      rw [assign_cons]
      cases asked : stepAt? value key with
      | none => rfl
      | some step =>
          have somewhere : ¬ (value.isContainer = false ∨
              ∃ items, value = .array items ∧ ∀ i, keyIndex? key = some i → items.length < i) := by
            rw [← stepAt?_eq_none, asked]
            exact Option.some_ne_none step
          obtain ⟨isContainer, place⟩ := not_or.1 somewhere
          rcases unwritable with ⟨-, isScalar⟩ | blocked
          · exact absurd isScalar isContainer
          · obtain ⟨inner, child, blocked⟩ := (blocked_cons.1 blocked).resolve_left place
            rw [childAt?_eq, asked, Option.bind_some] at child
            simp only [child, Option.getD_some]
            rw [containerFor_of_isContainer blocked.isContainer, ih (.inr blocked),
              put_of_child? child]

/-- What a value is written into takes the rest of the path, when no array is in the way. -/
theorem not_unwritable_containerFor (unblocked : ¬ Blocked value rest) :
    ¬ Unwritable (containerFor value rest) rest := by
  cases rest with
  | nil =>
      rintro (⟨path, -⟩ | blocked)
      · exact path rfl
      · exact not_blocked_nil _ blocked
  | cons next rest =>
      cases isContainer : value.isContainer with
      | false =>
          rw [containerFor_cons isContainer]
          rintro (⟨-, isScalar⟩ | blocked)
          · cases isScalar
          · exact not_blocked_empty _ blocked
      | true =>
          rw [containerFor_of_isContainer isContainer]
          rintro (⟨-, isScalar⟩ | blocked)
          · rw [isContainer] at isScalar
            cases isScalar
          · exact unblocked blocked

/-- A write that is not dropped goes on below its first step. -/
theorem exists_stepAt? (writable : ¬ Unwritable value (key :: rest)) :
    ∃ step, stepAt? value key = some step ∧
      ¬ Unwritable (containerFor ((value.child? step).getD .null) rest) rest := by
  obtain ⟨isContainer, unblocked⟩ := not_or.1 writable
  have somewhere : stepAt? value key ≠ none := by
    rw [Ne, stepAt?_eq_none]
    rintro (isScalar | place)
    · exact isContainer ⟨List.cons_ne_nil _ _, isScalar⟩
    · exact unblocked (blocked_cons.2 (.inl place))
  obtain ⟨step, asked⟩ := Option.ne_none_iff_exists'.1 somewhere
  refine ⟨step, asked, not_unwritable_containerFor fun blocked => ?_⟩
  cases child : value.child? step with
  | none =>
      rw [child] at blocked
      cases blocked.isContainer
  | some inner =>
      rw [child] at blocked
      have inside : childAt? value key = some inner := by
        rw [childAt?_eq, asked, Option.bind_some, child]
      exact unblocked (blocked_cons.2 (.inr ⟨inner, inside, blocked⟩))

/-! ### Writes that are made -/

/-- The location that keys lead to in a value. -/
def locationOf? (value : Json) : List String → Option Location
  | [] => some []
  | key :: rest =>
      (stepAt? value key).bind fun step =>
        (value.child? step).bind fun inner => (locationOf? inner rest).map (step :: ·)

/-- A value after a write at a location: the location holds what was written, nothing changes
at locations that neither lead to it nor lie below it, and objects keep the order of their
keys. -/
structure Assigned (value replacement changed : Json) (written : Location) : Prop where
  holds : changed.at? written = some replacement
  apart : ∀ other, ¬ written <+: other → ¬ other <+: written → changed.at? other = value.at? other
  order : ∀ outer members, value.at? outer = some (.object members) → ¬ written <+: outer →
    ∃ after, changed.at? outer = some (.object after) ∧
      Members.keys members <+: Members.keys after

/-- What stands below a value stands below the container that it is written into. -/
theorem at?_containerFor {location : Location} (inside : location ≠ []) (value : Json)
    (rest : List String) : (containerFor value rest).at? location = value.at? location := by
  obtain ⟨step, more, rfl⟩ := List.exists_cons_of_ne_nil inside
  rw [containerFor]
  split
  · next replaced =>
    rw [Bool.and_eq_true, Bool.not_eq_true', Bool.not_eq_true'] at replaced
    cases value <;> simp [Json.isContainer] at replaced <;> cases step <;> rfl
  · rfl

/-- So does the value itself when it is a container. -/
theorem at?_containerFor_of_object {location : Location} {members : Members}
    (found : value.at? location = some (.object members)) (rest : List String) :
    (containerFor value rest).at? location = some (.object members) := by
  cases location with
  | nil =>
      obtain rfl := Option.some.inj found
      rw [containerFor_of_isContainer rfl]
      rfl
  | cons step more => rw [at?_containerFor (List.cons_ne_nil _ _), found]

theorem Assigned.put {written : Location} (asked : stepAt? value key = some step)
    (below : Assigned (containerFor ((value.child? step).getD .null) rest) replacement new
      written) :
    Assigned value replacement (put value step new) (step :: written) := by
  have self := child?_put_self asked new
  refine ⟨?_, fun other behind before => ?_, fun outer members found behind => ?_⟩
  · rw [Json.at?_cons, self, Option.bind_some, below.holds]
  · cases other with
    | nil => exact absurd List.nil_prefix before
    | cons next other =>
        rw [Json.at?_cons, Json.at?_cons]
        by_cases same : step = next
        · subst same
          rw [List.cons_prefix_cons, and_iff_right rfl] at behind before
          have inside : other ≠ [] := by
            rintro rfl
            exact before List.nil_prefix
          rw [self, Option.bind_some, below.apart other behind before, at?_containerFor inside]
          cases value.child? step with
          | some inner => rfl
          | none =>
              obtain ⟨first, more, rfl⟩ := List.exists_cons_of_ne_nil inside
              cases first <;> rfl
        · rw [child?_put_of_ne asked same]
  · cases outer with
    | nil =>
        cases found
        obtain ⟨own, same, rfl⟩ | ⟨items, i, same, -⟩ := stepAt?_eq_some.1 asked
        · cases same
          exact ⟨_, rfl, Members.keys_prefix_insert key new members⟩
        · cases same
    | cons next outer =>
        rw [Json.at?_cons] at found ⊢
        by_cases same : step = next
        · subst same
          obtain ⟨inner, child, found⟩ := Option.bind_eq_some_iff.1 found
          rw [List.cons_prefix_cons, and_iff_right rfl] at behind
          rw [self, Option.bind_some]
          refine below.order outer members ?_ behind
          rw [child, Option.getD_some]
          exact at?_containerFor_of_object found rest
        · rw [child?_put_of_ne asked same]
          exact ⟨members, found, List.prefix_rfl⟩

/-- A write that is not dropped is made where its keys lead in the result. -/
theorem assign_assigned (writable : ¬ Unwritable value keys) (replacement : Json) :
    ∃ written, locationOf? (assign value replacement keys) keys = some written ∧
      Assigned value replacement (assign value replacement keys) written := by
  induction keys generalizing value with
  | nil =>
      exact ⟨[], rfl, rfl, fun other behind => absurd List.nil_prefix behind,
        fun outer _ _ behind => absurd List.nil_prefix behind⟩
  | cons key rest ih =>
      obtain ⟨step, asked, writable⟩ := exists_stepAt? writable
      obtain ⟨written, leads, below⟩ := ih writable
      refine ⟨step :: written, ?_, ?_⟩
      · rw [assign_cons, asked]
        simp only [locationOf?, stepAt?_put asked, child?_put_self asked, Option.bind_some, leads,
          Option.map_some]
      · rw [assign_cons, asked]
        exact below.put asked

/-- The value that keys lead to is the one at their location. -/
theorem lookup?_eq (value : Json) (keys : List String) :
    lookup? value keys = (locationOf? value keys).bind value.at? := by
  induction keys generalizing value with
  | nil => rfl
  | cons key rest ih =>
      rw [lookup?, locationOf?, childAt?_eq]
      cases stepAt? value key with
      | none => rfl
      | some step =>
          rw [Option.bind_some, Option.bind_some]
          cases child : value.child? step with
          | none => rfl
          | some inner =>
              rw [Option.bind_some, Option.bind_some, ih]
              cases locationOf? inner rest with
              | none => rfl
              | some location => simp [Json.at?_cons, child]

/-- A write at a path is made as a whole or not at all. It is dropped when the value is no
container or an array on the path has no place for the next key, and then the value is as it
was. Otherwise reading along the same path finds what was written, everything else that was
there is still there, and objects keep the order of their keys. -/
theorem set_writes_or_keeps (value path replacement : Json) :
    (Unwritable value (pathKeys path) → set value [path, replacement] = value) ∧
      (¬ Unwritable value (pathKeys path) →
        lookup? (set value [path, replacement]) (pathKeys path) = some replacement ∧
        (replacement ≠ .null → ∀ args,
          get (set value [path, replacement]) (path :: args) = replacement) ∧
        ∃ written, locationOf? (set value [path, replacement]) (pathKeys path) = some written ∧
          Assigned value replacement (set value [path, replacement]) written) := by
  refine ⟨fun unwritable => assign_eq_self unwritable replacement, fun writable => ?_⟩
  obtain ⟨written, leads, assigned⟩ := assign_assigned writable replacement
  have found : lookup? (set value [path, replacement]) (pathKeys path) = some replacement := by
    rw [lookup?_eq]
    exact (congrArg (Option.bind · _) leads).trans assigned.holds
  refine ⟨found, fun proper args => ?_, written, leads, assigned⟩
  have read : lookup? (set value [path, replacement])
      (((path :: args)[0]?.map pathKeys).getD []) = some replacement := found
  rw [get, read]
  cases replacement with
  | null => exact absurd rfl proper
  | _ => rfl

/-- A text that stands in an array gives way to an object, where the key is an index with a sign;
a name has no place in the same array. -/
theorem set_writes_or_keeps_items :
    let value : Json := .object
      [("a", .array [.object [("b", .null)], .string "s"]), ("c", .bool false)]
    let path : Json := .array [.string "a", .string "+1", .string "x"]
    set value [.string "a.b[0]", .bool true] = value ∧
      ¬ Unwritable value (pathKeys path) ∧
      get (set value [path, .bool true]) [path, .string "none"] = .bool true ∧
      Assigned value (.bool true) (set value [path, .bool true])
        [.key "a", .index 1, .key "x"] := by
  intro value path
  have dropped := (set_writes_or_keeps value (.string "a.b[0]") (.bool true)).1
    (.inr ⟨["a"], "b", ["0"], _, by decide +kernel, rfl, by decide +kernel⟩)
  obtain ⟨keeps, writes⟩ := set_writes_or_keeps value path (.bool true)
  have writable : ¬ Unwritable value (pathKeys path) := fun unwritable =>
    absurd (keeps unwritable) (by decide +kernel)
  obtain ⟨-, reads, written, leads, assigned⟩ := writes writable
  have place : locationOf? (set value [path, .bool true]) (pathKeys path) =
      some [.key "a", .index 1, .key "x"] := by decide +kernel
  rw [place] at leads
  obtain rfl := Option.some.inj leads
  exact ⟨dropped, writable, reads (by decide) _, assigned⟩

end Builtin

end Reshape
