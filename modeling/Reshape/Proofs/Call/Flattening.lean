/-
Module: Reshape.Proofs.Call.Flattening
Purpose: an object that is flattened to dotted keys is built up again from them, with the order
  of its keys at every level.
Main exports: Json.hasWholeKeys, Builtin.Leaf, Builtin.leaves, Builtin.flatten_eq,
  Builtin.unflatten_flatten
Trusted boundary: none
-/
import Reshape.Call.Builtin.Lookup
import Reshape.Proofs.Tree.Address
import Reshape.Proofs.Tree.Identical
import Reshape.Proofs.Tree.Members

/-!
# Flat objects are built up again

Both directions are told by the leaves of an object, each with the keys that lead to it. A flat
object has one member for each leaf, and as no key has a dot in it, the keys of a leaf are read
off its dotted key. So no two leaves meet in the flat object. The leaves below one key stand
next to each other, and writing them one after the other fills the object below that key before
the next key is added.
-/

namespace Reshape

theorem Text.splitChar_eq_splitOn (separator : Char) (s : List Char) :
    splitChar separator s = s.splitOn separator := by
  induction s with
  | nil => rfl
  | cons c s ih =>
      rw [splitChar, List.splitOn_cons_eq_if_modifyHead, ih]
      by_cases same : c = separator
      · simp [same]
      · cases pieces : s.splitOn separator with
        | nil => exact absurd pieces (List.splitOn_ne_nil separator s)
        | cons first more => simp [same]

namespace Json

mutual

/-- Whether an object and the objects in it, reached through objects only, have keys that can be
told apart in dotted keys: they are distinct, as in every JSON object, and none is empty or has
a dot. -/
def hasWholeKeys : Json → Bool
  | .object members => decide (Members.keys members).Nodup && membersHaveWholeKeys members
  | _ => true

def membersHaveWholeKeys : List (String × Json) → Bool
  | [] => true
  | (key, value) :: rest =>
      key ≠ "" && '.' ∉ key.toList && value.hasWholeKeys && membersHaveWholeKeys rest

end

theorem hasWholeKeys_object {members : Members} :
    (object members).hasWholeKeys = true ↔
      (Members.keys members).Nodup ∧ membersHaveWholeKeys members = true := by
  simp [hasWholeKeys]

theorem membersHaveWholeKeys_cons {key : String} {value : Json} {rest : Members} :
    membersHaveWholeKeys ((key, value) :: rest) = true ↔ key ≠ "" ∧ '.' ∉ key.toList ∧
      value.hasWholeKeys = true ∧ membersHaveWholeKeys rest = true := by
  simp [membersHaveWholeKeys, and_assoc]

end Json

namespace Builtin

/-! ### Leaves -/

/-- A value with the keys that lead to it. -/
structure Leaf where
  keys : List String
  value : Json

namespace Leaf

/-- A leaf seen from further up. -/
def below (front : List String) (leaf : Leaf) : Leaf :=
  ⟨front ++ leaf.keys, leaf.value⟩

/-- The member of a flat object that stands for a leaf. -/
def member (leaf : Leaf) : String × Json :=
  (".".intercalate leaf.keys, leaf.value)

theorem below_below (front more : List String) (leaf : Leaf) :
    (leaf.below more).below front = leaf.below (front ++ more) := by
  simp [below]

end Leaf

mutual

/-- What stands in an object and is no object with members itself, in order. -/
def leaves : Json → List Leaf
  | .object (first :: rest) => memberLeaves (first :: rest)
  | other => [⟨[], other⟩]

def memberLeaves : List (String × Json) → List Leaf
  | [] => []
  | (key, value) :: rest => (leaves value).map (.below [key]) ++ memberLeaves rest

end

theorem memberLeaves_eq_flatMap (members : Members) :
    memberLeaves members =
      members.flatMap fun member => (leaves member.2).map (.below [member.1]) := by
  induction members with
  | nil => rfl
  | cons member rest ih =>
      obtain ⟨key, value⟩ := member
      rw [memberLeaves, ih, List.flatMap_cons]

/-- Every leaf of an object lies below one of its keys. -/
theorem keys_of_mem_memberLeaves {leaf : Leaf} {members : Members}
    (inside : leaf ∈ memberLeaves members) :
    ∃ key rest, leaf.keys = key :: rest ∧ key ∈ Members.keys members := by
  rw [memberLeaves_eq_flatMap] at inside
  obtain ⟨⟨key, value⟩, held, inside⟩ := List.mem_flatMap.1 inside
  obtain ⟨inner, -, rfl⟩ := List.mem_map.1 inside
  exact ⟨key, inner.keys, rfl, List.mem_map.2 ⟨_, held, rfl⟩⟩

theorem keys_ne_nil {leaf : Leaf} {members : Members} (inside : leaf ∈ memberLeaves members) :
    leaf.keys ≠ [] := by
  obtain ⟨key, rest, keys, -⟩ := keys_of_mem_memberLeaves inside
  exact keys ▸ List.cons_ne_nil key rest

theorem leaves_ne_nil : ∀ value : Json, leaves value ≠ []
  | .object ((key, value) :: rest) => by
      simp [leaves, memberLeaves, leaves_ne_nil value]
  | .object [] | .null | .bool _ | .string _ | .number _ | .array _ => List.cons_ne_nil _ _

mutual

theorem dotless_leaves : ∀ {value : Json} (_whole : value.hasWholeKeys = true),
    ∀ leaf ∈ leaves value, ∀ key ∈ leaf.keys, '.' ∉ key.toList
  | .object (first :: rest), whole => dotless_memberLeaves (Json.hasWholeKeys_object.1 whole).2
  | .object [], _ | .null, _ | .bool _, _ | .string _, _ | .number _, _ | .array _, _ => by
      simp [leaves]

theorem dotless_memberLeaves : ∀ {members : List (String × Json)}
    (_whole : Json.membersHaveWholeKeys members = true),
    ∀ leaf ∈ memberLeaves members, ∀ key ∈ leaf.keys, '.' ∉ key.toList
  | [], _ => by simp [memberLeaves]
  | (key, value) :: rest, whole => by
      obtain ⟨-, dotless, inner, others⟩ := Json.membersHaveWholeKeys_cons.1 whole
      rw [memberLeaves, List.forall_mem_append, List.forall_mem_map]
      refine ⟨fun leaf inside => ?_, dotless_memberLeaves others⟩
      exact List.forall_mem_cons.2 ⟨dotless, dotless_leaves inner leaf inside⟩

end

mutual

/-- No two leaves stand under the same keys. -/
theorem nodup_keys_leaves : ∀ {value : Json} (_whole : value.hasWholeKeys = true),
    ((leaves value).map Leaf.keys).Nodup
  | .object (first :: rest), whole => by
      obtain ⟨distinct, whole⟩ := Json.hasWholeKeys_object.1 whole
      exact nodup_keys_memberLeaves distinct whole
  | .object [], _ | .null, _ | .bool _, _ | .string _, _ | .number _, _ | .array _, _ =>
      List.nodup_singleton _

theorem nodup_keys_memberLeaves : ∀ {members : List (String × Json)}
    (_distinct : (Members.keys members).Nodup)
    (_whole : Json.membersHaveWholeKeys members = true),
    ((memberLeaves members).map Leaf.keys).Nodup
  | [], _, _ => List.nodup_nil
  | (key, value) :: rest, distinct, whole => by
      obtain ⟨-, -, inner, others⟩ := Json.membersHaveWholeKeys_cons.1 whole
      obtain ⟨new, distinct⟩ := List.nodup_cons.1 distinct
      have here : ((leaves value).map (fun leaf => (leaf.below [key]).keys)).Nodup := by
        have further := (nodup_keys_leaves inner).map (List.cons_injective (a := key))
        rwa [List.map_map] at further
      rw [memberLeaves, List.map_append, List.map_map]
      refine here.append (nodup_keys_memberLeaves distinct others) ?_
      -- the first key tells them apart
      intro keys below beside
      obtain ⟨leaf, -, rfl⟩ := List.mem_map.1 below
      obtain ⟨other, inside, same⟩ := List.mem_map.1 beside
      obtain ⟨first, more, keys, old⟩ := keys_of_mem_memberLeaves inside
      obtain ⟨rfl, -⟩ := List.cons.inj (keys.symm.trans same)
      exact new old

end

/-- The keys that a dotted key is split into. -/
def splitKeys (dotted : String) : List String :=
  (Text.splitChar '.' dotted.toList).map String.ofList

theorem splitKeys_intercalate {keys : List String} (nonempty : keys ≠ [])
    (dotless : ∀ key ∈ keys, '.' ∉ key.toList) : splitKeys (".".intercalate keys) = keys := by
  have split : Text.splitChar '.' (".".intercalate keys).toList = keys.map String.toList := by
    rw [Text.splitChar_eq_splitOn, String.toList_intercalate]
    refine List.splitOn_intercalate '.' ?_ (by simpa using nonempty)
    simpa using dotless
  rw [splitKeys, split]
  simp

/-- The keys of a leaf are read off its dotted key. -/
theorem splitKeys_member {members : Members} (whole : Json.membersHaveWholeKeys members = true)
    {leaf : Leaf} (inside : leaf ∈ memberLeaves members) : splitKeys leaf.member.1 = leaf.keys :=
  splitKeys_intercalate (keys_ne_nil inside) (dotless_memberLeaves whole leaf inside)

/-! ### The flat object -/

/-- A key below a dotted key. -/
theorem ofKeys_concat {front : List String} {key : String} (named : ∀ key ∈ front, key ≠ "")
    (nonempty : key ≠ "") :
    (if (Address.ofKeys front).text = "" then key else (Address.ofKeys front).text ++ "." ++ key) =
      (Address.ofKeys (front ++ [key])).text := by
  have single : Address.ofKeys [key] = ⟨key⟩ := by rw [Address.ofKeys, String.intercalate_singleton]
  rw [Address.ofKeys_append named (by simpa using nonempty), Address.join, single, if_neg nonempty]
  split <;> rfl

mutual

theorem flattenOnto_eq : ∀ {value : Json} (_whole : value.hasWholeKeys = true)
    {front : List String} (_named : ∀ key ∈ front, key ≠ "") (acc : Members),
    flattenOnto acc (Address.ofKeys front).text value =
      Members.insertAll acc ((leaves value).map fun leaf => (leaf.below front).member)
  | .object (first :: rest), whole, front, named, acc =>
      flattenMembers_eq (Json.hasWholeKeys_object.1 whole).2 named acc
  | .object [], _, front, _, acc | .null, _, front, _, acc | .bool _, _, front, _, acc
  | .string _, _, front, _, acc | .number _, _, front, _, acc | .array _, _, front, _, acc => by
      simp [flattenOnto, leaves, Members.insertAll, Leaf.below, Leaf.member, Address.ofKeys]

theorem flattenMembers_eq : ∀ {members : List (String × Json)}
    (_whole : Json.membersHaveWholeKeys members = true)
    {front : List String} (_named : ∀ key ∈ front, key ≠ "") (acc : Members),
    flattenMembers acc (Address.ofKeys front).text members =
      Members.insertAll acc ((memberLeaves members).map fun leaf => (leaf.below front).member)
  | [], _, _, _, _ => rfl
  | (key, value) :: rest, whole, front, named, acc => by
      obtain ⟨nonempty, -, inner, others⟩ := Json.membersHaveWholeKeys_cons.1 whole
      have further : ∀ name ∈ front ++ [key], name ≠ "" :=
        List.forall_mem_append.2 ⟨named, List.forall_mem_singleton.2 nonempty⟩
      rw [flattenMembers, ofKeys_concat named nonempty, flattenOnto_eq inner further,
        flattenMembers_eq others named]
      simp [memberLeaves, Members.insertAll, List.foldl_append, Function.comp_def,
        Leaf.below_below]

end

/-- A flat object has one member for each leaf, in their order. -/
theorem flatten_eq {members : Members} (whole : (Json.object members).hasWholeKeys = true) :
    flatten (.object members) = .object ((memberLeaves members).map Leaf.member) := by
  obtain ⟨distinct, whole⟩ := Json.hasWholeKeys_object.1 whole
  have flat : flattenMembers [] "" members =
      Members.insertAll [] ((memberLeaves members).map Leaf.member) :=
    flattenMembers_eq whole (List.forall_mem_nil _) []
  rw [flatten, flat, Members.insertAll_eq_append, List.nil_append]
  -- the dotted keys are distinct because their keys can be read off them
  have keys : (Members.keys ((memberLeaves members).map Leaf.member)).map splitKeys =
      (memberLeaves members).map Leaf.keys := by
    rw [Members.keys, List.map_map, List.map_map]
    exact List.map_congr_left fun leaf inside => splitKeys_member whole inside
  refine .of_map splitKeys ?_
  rw [List.nil_append, keys]
  exact nodup_keys_memberLeaves distinct whole

/-! ### Building it up -/

/-- Leaves written one after the other. -/
def build (start : Json) (leaves : List Leaf) : Json :=
  leaves.foldl (fun nested leaf => assign nested leaf.value leaf.keys) start

theorem unflatten_member {members : Members}
    (whole : Json.membersHaveWholeKeys members = true) :
    unflatten (.object ((memberLeaves members).map Leaf.member)) =
      build (.object []) (memberLeaves members) := by
  rw [unflatten, List.foldl_map, build]
  refine List.foldl_ext _ _ _ fun nested leaf inside => ?_
  rw [← splitKeys, splitKeys_member whole inside]
  rfl

theorem build_cons (start : Json) (leaf : Leaf) (rest : List Leaf) :
    build start (leaf :: rest) = build (assign start leaf.value leaf.keys) rest := rfl

theorem build_append (start : Json) (front rest : List Leaf) :
    build start (front ++ rest) = build (build start front) rest :=
  List.foldl_append

/-- The first key of a path leads into the object that it names, or into a new one. -/
theorem assign_into {key : String} {start members : Members} {keys : List String}
    (nonempty : keys ≠ []) (slot : Members.get? key start = some (.object members) ∨
      key ∉ Members.keys start ∧ members = []) (value : Json) :
    ∃ filled, assign (.object members) value keys = .object filled ∧
      assign (.object start) value (key :: keys) =
        .object (Members.insert key (.object filled) start) := by
  obtain ⟨first, more, rfl⟩ := List.exists_cons_of_ne_nil nonempty
  have opened : containerFor ((Members.get? key start).getD .null) (first :: more) =
      .object members := by
    obtain held | ⟨new, rfl⟩ := slot
    · rw [held]
      rfl
    · rw [Members.get?_eq_none_iff.2 new]
      rfl
  refine ⟨_, rfl, ?_⟩
  rw [assign, opened]
  rfl

/-- Leaves below a key that holds an object are written into that object. -/
theorem build_below {pieces : List Leaf} (inside : ∀ leaf ∈ pieces, leaf.keys ≠ []) (key : String)
    (start members : Members) :
    build (.object (Members.insert key (.object members) start)) (pieces.map (.below [key])) =
      .object (Members.insert key (build (.object members) pieces) start) := by
  induction pieces generalizing members with
  | nil => rfl
  | cons leaf rest ih =>
      obtain ⟨here, inside⟩ := List.forall_mem_cons.1 inside
      obtain ⟨filled, below, written⟩ :=
        assign_into here (.inl (Members.get?_insert_self key (.object members) start)) leaf.value
      rw [Members.insert_insert] at written
      rw [List.map_cons, build_cons, build_cons, below, ← ih inside filled]
      exact congrArg (build · _) written

/-- Leaves below a new key make an object there. -/
theorem build_below_of_notMem {pieces : List Leaf} (nonempty : pieces ≠ [])
    (inside : ∀ leaf ∈ pieces, leaf.keys ≠ []) {key : String} {start : Members}
    (new : key ∉ Members.keys start) :
    build (.object start) (pieces.map (.below [key])) =
      .object (Members.insert key (build (.object []) pieces) start) := by
  obtain ⟨leaf, rest, rfl⟩ := List.exists_cons_of_ne_nil nonempty
  obtain ⟨here, inside⟩ := List.forall_mem_cons.1 inside
  obtain ⟨filled, below, written⟩ := assign_into here (.inr ⟨new, rfl⟩) leaf.value
  rw [List.map_cons, build_cons, build_cons, below, ← build_below inside key start filled]
  exact congrArg (build · _) written

mutual

theorem build_leaves : ∀ {value : Json} (_whole : value.hasWholeKeys = true) {key : String}
    {start : Members} (_new : key ∉ Members.keys start),
    build (.object start) ((leaves value).map (.below [key])) =
      .object (start ++ [(key, value)])
  | .object (first :: rest), whole, key, start, new => by
      obtain ⟨distinct, whole⟩ := Json.hasWholeKeys_object.1 whole
      have inner : build (.object []) (memberLeaves (first :: rest)) = .object (first :: rest) :=
        build_memberLeaves [] distinct whole
      rw [build_below_of_notMem (leaves_ne_nil _) (fun _ => keys_ne_nil) new, leaves, inner,
        Members.insert_of_notMem new]
  | .object [], _, key, start, new | .null, _, key, start, new | .bool _, _, key, start, new
  | .string _, _, key, start, new | .number _, _, key, start, new
  | .array _, _, key, start, new => by
      rw [← Members.insert_of_notMem new]
      rfl

theorem build_memberLeaves : ∀ {members : List (String × Json)} (start : Members)
    (_distinct : (Members.keys (start ++ members)).Nodup)
    (_whole : Json.membersHaveWholeKeys members = true),
    build (.object start) (memberLeaves members) = .object (start ++ members)
  | [], start, _, _ => by rw [List.append_nil]; rfl
  | (key, value) :: rest, start, distinct, whole => by
      obtain ⟨-, -, inner, others⟩ := Json.membersHaveWholeKeys_cons.1 whole
      have new := Members.notMem_of_nodup distinct
      rw [List.append_cons start (key, value) rest] at distinct ⊢
      rw [memberLeaves, build_append, build_leaves inner new, build_memberLeaves _ distinct others]

end

/-- What was flattened is built up again as it was, empty objects and arrays included, with all
keys in their places. In between, every leaf stands under one dotted key. -/
theorem unflatten_flatten (members : Members)
    (whole : (Json.object members).hasWholeKeys = true) :
    flatten (.object members) = .object ((memberLeaves members).map Leaf.member) ∧
      unflatten (flatten (.object members)) = .object members := by
  have flat := flatten_eq whole
  obtain ⟨distinct, whole⟩ := Json.hasWholeKeys_object.1 whole
  refine ⟨flat, ?_⟩
  rw [flat, unflatten_member whole]
  exact build_memberLeaves [] distinct whole

/-- Keys with dots inside an array do not matter, and the same key at two levels is no
collision. -/
theorem unflatten_flatten_nested :
    let items : Json := .array [.object [("a.b", .object [("", .null)])], .array []]
    let members : Members :=
      [("b", .object [("y", .object []), ("b", .object [("x", .null), ("a", items)])]),
        ("a", .bool true)]
    (Json.object members).hasWholeKeys = true ∧
      flatten (.object members) =
        .object [("b.y", .object []), ("b.b.x", .null), ("b.b.a", items), ("a", .bool true)] ∧
      unflatten (flatten (.object members)) = .object members := by
  intro items members
  have whole : (Json.object members).hasWholeKeys = true := by decide +kernel
  obtain ⟨flat, back⟩ := unflatten_flatten members whole
  exact ⟨whole, flat.trans (by decide +kernel), back⟩

end Builtin

end Reshape
