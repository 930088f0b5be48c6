/-
Module: Reshape.Proofs.Program.Expressed
Purpose: which chains of operations the argument of `each` can denote: all but those in which a
  function with the name of another operation is called with arguments.
Main exports: Operation.keywords, Operation.Expressible, Operation.expressible_chainOf,
  Operation.itemsFor, Operation.chainOfItems_itemsFor, Operation.each_expresses_iff
Trusted boundary: none
-/
import Reshape.Proofs.Program.Stored
import Reshape.Proofs.Replay.NullPassing
import Reshape.Proofs.Tree.Matches

/-!
# What `each` can express

A call is written in one of two ways: as a text, which is the name of a function without
arguments, or as the key of an object, with the arguments below it. Only the second way is taken
by the names that have a meaning of their own. So a decoded chain has no call under such a name
with arguments, at any depth, and this is all that it lacks: every other chain is written item by
item, each operation as an object with its label for the one key, or as a text when it is a call
without arguments.
-/

namespace Reshape

namespace Operation

/-- The names of arguments that are no calls. -/
def keywords : List String :=
  ["self", "path", "parent", "root", "each", "map", "hoist", "rename", "assign"]

/-- A function that has a keyword for its name is called without arguments, at any depth of
`each`. -/
def Expressible (operations : List Operation) : Prop :=
  ∀ name args, (Operation.call name args).Within operations → name ∈ keywords → args = []

theorem expressible_nil : Expressible [] := by
  intro name args within
  exact absurd within (not_within_nil _)

theorem expressible_cons {first : Operation} {rest : List Operation} :
    Expressible (first :: rest) ↔
      (∀ name args, first = .call name args → name ∈ keywords → args = []) ∧
        (∀ inner, first = .each inner → Expressible inner) ∧ Expressible rest := by
  constructor
  · intro expressible
    refine ⟨fun name args same => expressible name args (within_cons.2 (.inl same.symm)), ?_, ?_⟩
    · intro inner same name args within
      exact expressible name args (within_cons.2 (.inr (.inl ⟨inner, same, within⟩)))
    · intro name args within
      exact expressible name args (within_cons.2 (.inr (.inr within)))
  · rintro ⟨here, below, later⟩ name args within
    rcases within_cons.1 within with same | ⟨inner, same, within⟩ | within
    · exact here name args same.symm
    · exact below inner same name args within
    · exact later name args within

theorem expressible_append {operations more : List Operation} :
    Expressible (operations ++ more) ↔ Expressible operations ∧ Expressible more := by
  induction operations with
  | nil => simp [expressible_nil]
  | cons operation operations ih =>
      rw [List.cons_append, expressible_cons, expressible_cons, ih, and_assoc, and_assoc]

theorem expressible_singleton {operation : Operation} :
    Expressible [operation] ↔
      (∀ name args, operation = .call name args → name ∈ keywords → args = []) ∧
        ∀ inner, operation = .each inner → Expressible inner := by
  rw [expressible_cons, and_iff_left expressible_nil]

/-! ### What is decoded -/

/-- A call that is decoded from the key of an object has no keyword for its name. -/
theorem notMem_keywords_of_named {name called : String} {value : Json} {chain : List Operation}
    {args : List Json} (same : named name value chain = .call called args) :
    called ∉ keywords := by
  unfold named at same
  split_ifs at same
  all_goals cases same
  simp_all [keywords]

theorem eq_of_named {name : String} {value : Json} {chain inner : List Operation}
    (same : named name value chain = .each inner) : inner = chain := by
  unfold named at same
  split_ifs at same
  all_goals cases same
  rfl

theorem expressible_named {chain : List Operation} (expressible : Expressible chain)
    (name : String) (value : Json) : Expressible [named name value chain] := by
  refine expressible_singleton.2 ⟨fun called args same keyword => ?_, fun inner same => ?_⟩
  · exact absurd keyword (notMem_keywords_of_named same)
  · exact eq_of_named same ▸ expressible

/-- Whatever a value is, the chain that it denotes calls no function under a keyword with
arguments. -/
theorem expressible_chainOf (value : Json) : Expressible (chainOf value) := by
  induction value using Json.inductionOnParts with
  | leaf value leaf =>
      cases value with
      | string name =>
          rw [chainOf, expressible_singleton]
          exact ⟨fun called args same _ => by cases same; rfl, fun inner same => by cases same⟩
      | array | object => cases leaf
      | _ => exact expressible_nil
  | array items ih =>
      rw [chainOf]
      induction items with
      | nil => exact expressible_nil
      | cons item rest inner =>
          obtain ⟨here, later⟩ := List.forall_mem_cons.1 ih
          exact expressible_append.2 ⟨here, inner later⟩
  | object members ih =>
      rw [chainOf]
      induction members with
      | nil => exact expressible_nil
      | cons member rest inner =>
          obtain ⟨here, later⟩ := List.forall_mem_cons.1 ih
          exact expressible_append.2 ⟨expressible_named here member.1 member.2, inner later⟩

/-! ### Writing a chain -/

/-- The item that denotes an operation, given what its label stands with. -/
def item : Operation → Json → Json
  | .call name [], _ => .string name
  | operation, argument => .object [(operation.label, argument)]

mutual

/-- What the label of an operation stands with in a directive. -/
def argument : Operation → Json
  | .navigate _ path => .string path
  | .each operations => .array (itemsFor operations)
  | .hoist keep => .bool keep
  | .rename key => .string key
  | .assign args | .call _ args => .array args

/-- The items that denote the operations of a chain, one each. -/
def itemsFor : List Operation → List Json
  | [] => []
  | operation :: rest => item operation operation.argument :: itemsFor rest

end

mutual

theorem chainOf_item : ∀ {operation : Operation} (_expressible : Expressible [operation]),
    chainOf (item operation operation.argument) = [operation]
  | .navigate scope path, _ => by
      cases scope <;> simp [item, label, argument, chainOf, chainOfMembers, named, textOf]
  | .each operations, expressible => by
      have inner : chainOfItems (itemsFor operations) = operations :=
        chainOfItems_itemsFor ((expressible_singleton.1 expressible).2 operations rfl)
      simp [item, label, argument, chainOf, chainOfMembers, named, inner]
  | .hoist keep, _ => by
      simp [item, label, argument, chainOf, chainOfMembers, named]
  | .rename key, _ => by
      simp [item, label, argument, chainOf, chainOfMembers, named, textOf]
  | .assign args, _ => by
      simp [item, label, argument, chainOf, chainOfMembers, named, argsOf]
  | .call name [], _ => rfl
  | .call name (first :: rest), expressible => by
      have free : name ∉ keywords := fun keyword =>
        List.cons_ne_nil _ _ ((expressible_singleton.1 expressible).1 _ _ rfl keyword)
      simp only [keywords, List.mem_cons, List.not_mem_nil, or_false, not_or] at free
      simp [item, label, argument, chainOf, chainOfMembers, named, argsOf, free]

/-- A chain that can be expressed is denoted by its items. -/
theorem chainOfItems_itemsFor : ∀ {operations : List Operation}
    (_expressible : Expressible operations), chainOfItems (itemsFor operations) = operations
  | [], _ => rfl
  | operation :: rest, expressible => by
      obtain ⟨here, later⟩ := expressible_append.1
        (show Expressible ([operation] ++ rest) from expressible)
      rw [itemsFor, chainOfItems, chainOf_item here, chainOfItems_itemsFor later]
      rfl

end

/-! ### Values on both sides -/

theorem allHoldValues_append (operations more : List Operation) :
    allHoldValues (operations ++ more) = (allHoldValues operations && allHoldValues more) := by
  induction operations with
  | nil => rfl
  | cons operation operations ih =>
      rw [List.cons_append, allHoldValues, allHoldValues, ih, Bool.and_assoc]

theorem areValues_argsOf {value : Json} (holds : value.isValue = true) :
    Json.areValues (argsOf value) = true := by
  cases value with
  | array items => rwa [Json.isValue] at holds
  | _ => simp only [argsOf, Json.areValues, holds, Bool.and_true]

theorem holdsValues_named {value : Json} {chain : List Operation} (holds : value.isValue = true)
    (hold : allHoldValues chain = true) (name : String) :
    (named name value chain).holdsValues = true := by
  unfold named
  split_ifs <;> simp [holdsValues, hold, areValues_argsOf holds]

/-- The arguments in the chain that a value denotes are values. -/
theorem allHoldValues_chainOf {value : Json} (holds : value.isValue = true) :
    allHoldValues (chainOf value) = true := by
  induction value using Json.inductionOnParts with
  | leaf value leaf => cases value <;> first | rfl | cases leaf
  | array items ih =>
      rw [Json.isValue] at holds
      rw [chainOf]
      induction items with
      | nil => rfl
      | cons item rest inner =>
          obtain ⟨here, later⟩ := List.forall_mem_cons.1 ih
          rw [Json.areValues, Bool.and_eq_true] at holds
          rw [chainOfItems, allHoldValues_append, here holds.1, inner later holds.2, Bool.and_self]
  | object members ih =>
      rw [Json.isValue, Bool.and_eq_true] at holds
      replace holds := holds.2
      rw [chainOf]
      induction members with
      | nil => rfl
      | cons member rest inner =>
          obtain ⟨here, later⟩ := List.forall_mem_cons.1 ih
          rw [Json.membersAreValues, Bool.and_eq_true] at holds
          rw [chainOfMembers, allHoldValues, holdsValues_named holds.1 (here holds.1),
            inner later holds.2, Bool.and_self]

theorem isValue_item (operation : Operation) {argument : Json} (holds : argument.isValue = true) :
    (item operation argument).isValue = true := by
  unfold item
  split <;> simp [Json.isValue, Json.membersAreValues, Members.keys, holds]

mutual

theorem isValue_argument : ∀ {operation : Operation} (_holds : operation.holdsValues = true),
    operation.argument.isValue = true
  | .navigate _ _, _ | .hoist _, _ | .rename _, _ => rfl
  | .each operations, holds => by
      rw [holdsValues] at holds
      rw [argument, Json.isValue, areValues_itemsFor holds]
  | .assign args, holds | .call _ args, holds => by
      rw [holdsValues] at holds
      rw [argument, Json.isValue, holds]

theorem areValues_itemsFor : ∀ {operations : List Operation}
    (_hold : allHoldValues operations = true), Json.areValues (itemsFor operations) = true
  | [], _ => rfl
  | operation :: rest, hold => by
      rw [allHoldValues, Bool.and_eq_true] at hold
      rw [itemsFor, Json.areValues, isValue_item operation (isValue_argument hold.1),
        areValues_itemsFor hold.2, Bool.and_self]

end

/-! ### Both directions -/

theorem ofArgument_each {value : Json} {operations : List Operation} :
    ofArgument "each" value = .each operations ↔ chainOf value = operations := by
  simp [ofArgument, named]

/-- Some argument of `each` denotes a chain exactly when no function that has a keyword for its
name is called with arguments in it, at any depth. The argument can be chosen to be a value when
the arguments in the chain are values, and values denote no other chains. -/
theorem each_expresses_iff (operations : List Operation) :
    ((∃ value, ofArgument "each" value = .each operations) ↔
        ∀ name args, (Operation.call name args).Within operations → name ∈ keywords →
          args = []) ∧
      ((∃ value : Json, value.isValue = true ∧ ofArgument "each" value = .each operations) ↔
        (∀ name args, (Operation.call name args).Within operations → name ∈ keywords →
          args = []) ∧ allHoldValues operations = true) := by
  simp only [ofArgument_each]
  have expressed (expressible : Expressible operations) :
      chainOf (.array (itemsFor operations)) = operations := by
    rw [chainOf, chainOfItems_itemsFor expressible]
  constructor
  · constructor
    · rintro ⟨value, rfl⟩
      exact expressible_chainOf value
    · intro expressible
      exact ⟨_, expressed expressible⟩
  · constructor
    · rintro ⟨value, holds, rfl⟩
      exact ⟨expressible_chainOf value, allHoldValues_chainOf holds⟩
    · rintro ⟨expressible, hold⟩
      have holds : (Json.array (itemsFor operations)).isValue = true := by
        rw [Json.isValue, areValues_itemsFor hold]
      exact ⟨_, holds, expressed expressible⟩

/-- A function named `map` can be called inside of `each` inside of `each`, but not with an
argument. -/
theorem each_expresses_iff_keyword :
    (∃ value, ofArgument "each" value = .each [.each [.call "map" []]]) ∧
      ¬ ∃ value, ofArgument "each" value = .each [.each [.call "map" [.null]]] := by
  constructor
  · refine (each_expresses_iff _).1.2 fun name args within _ => ?_
    have only : name = "map" ∧ args = [] := by simpa using within
    exact only.2
  · intro denoted
    have bare := (each_expresses_iff _).1.1 denoted "map" [.null] (by simp) (by decide)
    cases bare

end Operation

end Reshape
