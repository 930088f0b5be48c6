/-
Module: Reshape.Proofs.Tree.Matches
Purpose: which locations an address matches: they exist, they are members of objects,
  they fork from one another, and addresses compose.
Main exports: Json.inductionOnParts, Json.Matches, Json.mem_locate, Location.Earlier,
  Json.pairwise_locate, Json.locate_append, Json.locate_of_set?
Trusted boundary: none
-/
import Mathlib.Data.List.Basic
import Reshape.Proofs.Tree.Lens

/-!
# Matches of an address

The matches of a list of response keys are found by walking the tree. An array is
crossed at every index without using up a key, so two matches of the same keys can
only part at an index: their enclosing objects fork as well. Replacing a match keeps
all matches where they are, whatever is put there.
-/

namespace Reshape

namespace Json

/-- To prove something of every tree, prove it of a container when it holds of what
stands in it. -/
@[elab_as_elim]
theorem inductionOnParts {motive : Json → Prop} (tree : Json)
    (leaf : ∀ value : Json, value.isContainer = false → motive value)
    (array : ∀ items, (∀ item ∈ items, motive item) → motive (.array items))
    (object : ∀ members : Members, (∀ member ∈ members, motive member.2) →
      motive (.object members)) : motive tree := by
  match tree with
  | .null => exact leaf _ rfl
  | .bool _ => exact leaf _ rfl
  | .number _ => exact leaf _ rfl
  | .string _ => exact leaf _ rfl
  | .array items =>
      exact array items fun item inside => inductionOnParts item leaf array object
  | .object members =>
      exact object members fun member inside => inductionOnParts member.2 leaf array object
termination_by sizeOf tree
decreasing_by
  · have := List.sizeOf_lt_of_mem inside
    simp only [Json.array.sizeOf_spec]
    omega
  · have := List.sizeOf_lt_of_mem inside
    obtain ⟨name, value⟩ := member
    simp only [Json.object.sizeOf_spec, Prod.mk.sizeOf_spec] at this ⊢
    omega

end Json

namespace Members

/-- A value that a key finds belongs to a member. -/
theorem mem_of_get? {key : String} {value : Json} {members : Members}
    (held : get? key members = some value) : ∃ member ∈ members, member.2 = value := by
  induction members with
  | nil => simp [get?] at held
  | cons member rest ih =>
      obtain ⟨name, first⟩ := member
      by_cases same : name = key
      · simp only [get?, same, if_true, Option.some.injEq] at held
        exact ⟨(name, first), by simp, held⟩
      · simp only [get?, same, if_false] at held
        obtain ⟨found, inside, rfl⟩ := ih held
        exact ⟨found, by simp [inside], rfl⟩

end Members

namespace Json

/-! ### The walk, one level at a time -/

@[simp] theorem locate_nil (tree : Json) : tree.locate [] = [[]] := by
  simp [locate]

theorem locateItems_eq (names : List String) (position : Nat) (items : List Json) :
    locateItems names position items =
      ((items.map fun item => item.locate names).zipIdx position).flatMap fun inside =>
        inside.1.map (Step.index inside.2 :: ·) := by
  induction items generalizing position with
  | nil => rfl
  | cons item rest ih => simp [locateItems, ih]

/-- Only the matches within the items count, so an item may change as long as its
matches stay. -/
theorem locate_array (items : List Json) (name : String) (names : List String) :
    (Json.array items).locate (name :: names) =
      (items.map fun item => item.locate (name :: names)).zipIdx.flatMap fun inside =>
        inside.1.map (Step.index inside.2 :: ·) := by
  simp only [locate, locateItems_eq]

theorem locate_object (members : Members) (name : String) (names : List String) :
    (Json.object members).locate (name :: names) =
      (Members.get? name members).elim [] fun value =>
        (value.locate names).map (Step.key name :: ·) := by
  have walked : ∀ members : Members, locateMember name names members =
      (Members.get? name members).elim [] fun value =>
        (value.locate names).map (Step.key name :: ·) := by
    intro members
    induction members with
    | nil => rfl
    | cons member rest ih =>
        obtain ⟨key, value⟩ := member
        by_cases same : key = name
        · simp [locateMember, Members.get?, same]
        · simp [locateMember, Members.get?, same, ih]
  simp only [locate, walked]

theorem locate_leaf {value : Json} (leaf : value.isContainer = false) (name : String)
    (names : List String) : value.locate (name :: names) = [] := by
  cases value <;> first | rfl | cases leaf

/-- A match in an array starts with the index of an item and goes on with a match in
that item. -/
theorem mem_locate_array {items : List Json} {name : String} {names : List String}
    {location : Location} :
    location ∈ (Json.array items).locate (name :: names) ↔
      ∃ position item rest, items[position]? = some item ∧
        rest ∈ item.locate (name :: names) ∧ location = .index position :: rest := by
  simp only [locate_array, List.mem_flatMap, List.mem_map, Prod.exists,
    List.mem_zipIdx_iff_getElem?, List.getElem?_map, Option.map_eq_some_iff]
  constructor
  · rintro ⟨_, position, ⟨item, held, rfl⟩, rest, inside, rfl⟩
    exact ⟨position, item, rest, held, inside, rfl⟩
  · rintro ⟨position, item, rest, held, inside, rfl⟩
    exact ⟨_, position, ⟨item, held, rfl⟩, rest, inside, rfl⟩

/-- A match in an object starts with the first key and goes on with a match of the
other keys in the member. -/
theorem mem_locate_object {members : Members} {name : String} {names : List String}
    {location : Location} :
    location ∈ (Json.object members).locate (name :: names) ↔
      ∃ value rest, Members.get? name members = some value ∧
        rest ∈ value.locate names ∧ location = .key name :: rest := by
  rw [locate_object]
  cases Members.get? name members with
  | none => simp
  | some value => simp [eq_comm]

/-! ### What a match is -/

/-- A location is a match of response keys: its steps cross arrays at any index and go
to the member of the next key in an object, until no key is left. -/
inductive Matches : Json → List String → Location → Prop where
  | here {tree : Json} : Matches tree [] []
  | item {items : List Json} {position : Nat} {value : Json} {name : String}
      {names : List String} {rest : Location} (held : items[position]? = some value)
      (below : Matches value (name :: names) rest) :
      Matches (.array items) (name :: names) (.index position :: rest)
  | member {members : Members} {name : String} {value : Json} {names : List String}
      {rest : Location} (held : Members.get? name members = some value)
      (below : Matches value names rest) :
      Matches (.object members) (name :: names) (.key name :: rest)

/-- The walk finds exactly the matches. -/
theorem mem_locate {tree : Json} {names : List String} {location : Location} :
    location ∈ tree.locate names ↔ Matches tree names location := by
  constructor
  · intro found
    induction tree using inductionOnParts generalizing names location with
    | leaf value leaf =>
        cases names with
        | nil =>
            cases List.mem_singleton.1 (locate_nil value ▸ found)
            exact .here
        | cons name names => simp [locate_leaf leaf] at found
    | array items ih =>
        cases names with
        | nil =>
            cases List.mem_singleton.1 (locate_nil _ ▸ found)
            exact .here
        | cons name names =>
            obtain ⟨position, item, rest, held, inside, rfl⟩ := mem_locate_array.1 found
            exact .item held (ih item (List.mem_of_getElem? held) inside)
    | object members ih =>
        cases names with
        | nil =>
            cases List.mem_singleton.1 (locate_nil _ ▸ found)
            exact .here
        | cons name names =>
            obtain ⟨value, rest, held, inside, rfl⟩ := mem_locate_object.1 found
            obtain ⟨member, listed, rfl⟩ := Members.mem_of_get? held
            exact .member held (ih member listed inside)
  · intro isMatch
    induction isMatch with
    | here => simp
    | item held _ ih => exact mem_locate_array.2 ⟨_, _, _, held, ih, rfl⟩
    | member held _ ih => exact mem_locate_object.2 ⟨_, _, held, ih, rfl⟩

/-- A match exists. -/
theorem Matches.exists_at? {tree : Json} {names : List String} {location : Location}
    (isMatch : Matches tree names location) : ∃ value, tree.at? location = some value := by
  induction isMatch with
  | here => exact ⟨_, rfl⟩
  | item held _ ih => simpa [at?_cons, child?, held] using ih
  | member held _ ih => simpa [at?_cons, child?, held] using ih

/-- A match of at least one key is a member of an object. -/
theorem Matches.enclosed {tree : Json} {names : List String} {location : Location}
    (isMatch : Matches tree names location) (keyed : names ≠ []) :
    ∃ parent key members, location = parent ++ [.key key] ∧
      tree.at? parent = some (.object members) := by
  induction isMatch with
  | here => exact absurd rfl keyed
  | @item items position value name names rest held below ih =>
      obtain ⟨parent, key, members, rfl, around⟩ := ih keyed
      exact ⟨.index position :: parent, key, members, rfl, by simp [at?_cons, child?, held, around]⟩
  | @member members name value names rest held below ih =>
      cases names with
      | nil =>
          cases below
          exact ⟨[], name, members, rfl, rfl⟩
      | cons next names =>
          obtain ⟨parent, key, inner, rfl, around⟩ := ih (by simp)
          exact ⟨.key name :: parent, key, inner, rfl, by simp [at?_cons, child?, held, around]⟩

theorem Matches.ne_nil {tree : Json} {names : List String} {location : Location}
    (isMatch : Matches tree names location) (keyed : names ≠ []) : location ≠ [] := by
  obtain ⟨parent, key, members, rfl, -⟩ := isMatch.enclosed keyed
  simp

end Json

/-! ### Matches of one address fork -/

/-- Two locations part at an index, which is lower in the first one. -/
inductive Location.Earlier : Location → Location → Prop where
  | here {position other : Nat} {rest otherRest : Location} (lower : position < other) :
      Earlier (.index position :: rest) (.index other :: otherRest)
  | later {step : Step} {rest otherRest : Location} (earlier : Earlier rest otherRest) :
      Earlier (step :: rest) (step :: otherRest)

namespace Location.Earlier

theorem forks {location other : Location} (earlier : Earlier location other) :
    Forks location other := by
  induction earlier with
  | here lower => exact .here (by simpa using Nat.ne_of_lt lower)
  | later _ ih => exact .later ih

end Location.Earlier

namespace Json

/-- The containers that enclose two matches of one address part at an index, the earlier
match being in the earlier item. -/
theorem pairwise_earlier_locate (tree : Json) (names : List String) :
    (tree.locate names).Pairwise fun location other =>
      Location.Earlier location.dropLast other.dropLast := by
  induction tree using inductionOnParts generalizing names with
  | leaf value leaf =>
      cases names with
      | nil => simp
      | cons name names => simp [locate_leaf leaf]
  | array items ih =>
      cases names with
      | nil => simp
      | cons name names =>
          have nonempty {item : Json} {rest : Location}
              (inside : rest ∈ item.locate (name :: names)) : rest ≠ [] :=
            (mem_locate.1 inside).ne_nil (by simp)
          have listed {entry : List Location × Nat}
              (inside : entry ∈ (items.map fun item => item.locate (name :: names)).zipIdx) :
              ∃ item ∈ items, entry.1 = item.locate (name :: names) := by
            obtain ⟨item, held, same⟩ := Option.map_eq_some_iff.1
              (List.getElem?_map ▸ List.mem_zipIdx_iff_getElem?.1 inside)
            exact ⟨item, List.mem_of_getElem? held, same.symm⟩
          rw [locate_array, List.pairwise_flatMap]
          constructor
          · intro entry inside
            obtain ⟨item, member, same⟩ := listed inside
            rw [same, List.pairwise_map]
            refine (ih item member (name :: names)).imp_of_mem fun here there earlier => ?_
            rw [List.dropLast_cons_of_ne_nil (nonempty here),
              List.dropLast_cons_of_ne_nil (nonempty there)]
            exact .later earlier
          · -- different items: the two matches part at the index of the item
            have indices : (items.map fun item => item.locate (name :: names)).zipIdx.Pairwise
                fun entry other => entry.2 < other.2 := by
              rw [← List.pairwise_map (R := (· < ·)), List.zipIdx_map_snd]
              exact List.pairwise_lt_range'
            refine indices.imp_of_mem fun {entry other} inside otherInside lower => ?_
            obtain ⟨item, -, same⟩ := listed inside
            obtain ⟨otherItem, -, otherSame⟩ := listed otherInside
            simp only [same, otherSame, List.mem_map]
            rintro _ ⟨rest, here, rfl⟩ _ ⟨otherRest, there, rfl⟩
            rw [List.dropLast_cons_of_ne_nil (nonempty here),
              List.dropLast_cons_of_ne_nil (nonempty there)]
            exact .here lower
  | object members ih =>
      cases names with
      | nil => simp
      | cons name names =>
          rw [locate_object]
          cases held : Members.get? name members with
          | none => simp
          | some value =>
              obtain ⟨member, listed, rfl⟩ := Members.mem_of_get? held
              cases names with
              | nil => simp
              | cons next names =>
                  refine List.pairwise_map.2 ((ih member listed (next :: names)).imp_of_mem
                    fun here there earlier => ?_)
                  rw [List.dropLast_cons_of_ne_nil ((mem_locate.1 here).ne_nil (by simp)),
                    List.dropLast_cons_of_ne_nil ((mem_locate.1 there).ne_nil (by simp))]
                  exact .later earlier

/-- The containers that enclose two matches of one address fork. -/
theorem pairwise_locate (tree : Json) (names : List String) :
    (tree.locate names).Pairwise fun location other =>
      Location.Forks location.dropLast other.dropLast :=
  (pairwise_earlier_locate tree names).imp Location.Earlier.forks

/-! ### Addresses compose -/

/-- The matches of response keys within what a location holds. -/
def locateFrom (tree : Json) (names : List String) (location : Location) : List Location :=
  (tree.at? location).elim [] fun value => (value.locate names).map (location ++ ·)

theorem locateFrom_cons {tree inner : Json} {step : Step} (child : tree.child? step = some inner)
    (names : List String) (rest : Location) :
    tree.locateFrom names (step :: rest) = (inner.locateFrom names rest).map (step :: ·) := by
  simp only [locateFrom, at?_cons, child, Option.bind_some]
  cases inner.at? rest with
  | none => rfl
  | some value => simp

/-- The matches of two lists of keys in turn are those of the second list within each
match of the first one. -/
theorem locate_append (tree : Json) (names more : List String) :
    tree.locate (names ++ more) = (tree.locate names).flatMap (tree.locateFrom more) := by
  induction tree using inductionOnParts generalizing names with
  | leaf value leaf =>
      cases names with
      | nil => simp [locateFrom]
      | cons name names => simp [locate_leaf leaf]
  | array items ih =>
      cases names with
      | nil => simp [locateFrom]
      | cons name names =>
          simp only [List.cons_append, locate_array, List.flatMap_assoc, List.zipIdx_map,
            List.flatMap_map]
          refine List.flatMap_congr fun entry inside => ?_
          have held : items[entry.2]? = some entry.1 := List.mem_zipIdx_iff_getElem?.1 inside
          have composed := ih entry.1 (List.mem_of_getElem? held) (name :: names)
          have child : (Json.array items).child? (.index entry.2) = some entry.1 := held
          simp only [List.cons_append] at composed
          simp [composed, List.map_flatMap, locateFrom_cons child]
  | object members ih =>
      cases names with
      | nil => simp [locateFrom]
      | cons name names =>
          simp only [List.cons_append, locate_object]
          cases held : Members.get? name members with
          | none => simp
          | some value =>
              obtain ⟨member, listed, rfl⟩ := Members.mem_of_get? held
              have child : (Json.object members).child? (.key name) = some member.2 := held
              simp [ih member listed names, List.map_flatMap, List.flatMap_map,
                locateFrom_cons child]

/-! ### Replacing a match -/

/-- Whatever replaces a match, the same locations match afterwards. -/
theorem locate_of_set? {tree changed value : Json} {names : List String} {location : Location}
    (isMatch : Matches tree names location) (replaced : tree.set? value location = some changed) :
    changed.locate names = tree.locate names := by
  induction isMatch generalizing changed with
  | here => simp
  | item held _ ih =>
      simp only [set?_cons, child?, held, Option.bind_some, Option.map_eq_some_iff] at replaced
      obtain ⟨changedInner, replacedInner, rfl⟩ := replaced
      obtain ⟨bound, rfl⟩ := List.getElem?_eq_some_iff.1 held
      simp only [setChild, locate_array, List.map_set, ih replacedInner]
      rw [← List.map_set, List.set_getElem_self]
  | member held _ ih =>
      simp only [set?_cons, child?, held, Option.bind_some, Option.map_eq_some_iff] at replaced
      obtain ⟨changedInner, replacedInner, rfl⟩ := replaced
      simp [setChild, locate_object, held, Members.get?_insert_self, ih replacedInner]

end Json

end Reshape
