/-
Module: Reshape.Proofs.Query.Readable
Purpose: a document that was read is readable.
Main exports: Query.readable_of_parse?
Trusted boundary: the parser and the printer of query documents that the program is given, for
  which those here stand
-/
import Reshape.Proofs.Query.Scanning

/-!
# Documents that were read

Scanned tokens have names and integers as they have to be, and not too many open brackets.
From tokens that fit into some room every reader gets a result that is readable within it, and
leaves tokens that fit. A reader that reads up to a closing bracket leaves one more bracket to
open.
-/

namespace Reshape.Query

/-! ### Scanning -/

theorem readable_of_number? {text : List Char} {token : Token}
    (read : number? text = some token) : token.Readable := by
  have ofRange : ∀ i : Int, (if minInt64 ≤ i ∧ i ≤ maxInt64 then some (Token.integer i) else none) =
      some token → token.Readable := by
    intro i read
    split at read
    · next inRange =>
        cases read
        exact inRange
    · cases read
  unfold number? at read
  simp only at read
  split at read
  · cases read
  split at read
  · exact ofRange _ read
  split at read
  · obtain ⟨value, -, rfl⟩ := Option.map_eq_some_iff.1 read
    trivial
  · cases read

theorem readable_of_stringToken? {text after : List Char} {token : Token}
    (read : stringToken? text = some (token, after)) : token.Readable := by
  unfold stringToken? at read
  split at read
  · obtain ⟨taken, -, same⟩ := Option.map_eq_some_iff.1 read
    cases same
    trivial
  · obtain ⟨taken, -, value⟩ := Option.bind_eq_some_iff.1 read
    obtain ⟨chars, -, same⟩ := Option.map_eq_some_iff.1 value
    cases same
    trivial

theorem readable_of_token? {text after : List Char} {token : Token}
    (read : token? text = some (token, after)) : token.Readable := by
  cases text with
  | nil => cases read
  | cons c rest =>
      unfold token? at read
      simp only at read
      split at read
      · cases read
        trivial
      split at read
      · split at read
        · cases read
          trivial
        · cases read
      split at read
      · next first =>
          cases read
          exact ⟨c, rest.takeWhile isNameChar, String.toList_ofList, first, List.all_takeWhile⟩
      split at read
      · obtain ⟨number, scanned, same⟩ := Option.map_eq_some_iff.1 read
        cases same
        exact readable_of_number? scanned
      split at read
      · exact readable_of_stringToken? read
      · cases read

theorem readable_of_scan {fuel : Nat} {text : List Char} {tokens : List Token}
    (scanned : scan fuel text = some tokens) : ∀ token ∈ tokens, token.Readable := by
  induction fuel generalizing text tokens with
  | zero => cases scanned
  | succ fuel ih =>
      cases text with
      | nil =>
          cases scanned
          simp
      | cons c rest =>
          rw [scan_cons] at scanned
          split at scanned
          · exact ih scanned
          split at scanned
          · exact ih scanned
          obtain ⟨⟨token, after⟩, read, more⟩ := Option.bind_eq_some_iff.1 scanned
          obtain ⟨others, scannedRest, rfl⟩ := Option.map_eq_some_iff.1 more
          exact List.forall_mem_cons.2 ⟨readable_of_token? read, ih scannedRest⟩

theorem fits_of_tokens? {text : String} {tokens : List Token}
    (scanned : tokens? text = some tokens) : Fits maxOpen tokens := by
  unfold tokens? at scanned
  split at scanned
  · next all scannedAll =>
      split at scanned
      · next within =>
          cases scanned
          exact ⟨readable_of_scan scannedAll, within⟩
      · cases scanned
  · cases scanned

/-! ### Values -/

/-- From tokens that fit into some room, a reader gets results that have a property there, and
leaves tokens that fit into it and the brackets that it has closed. -/
def Yields {α : Type} (closed : Nat) (property : Nat → α → Prop)
    (read : List Token → Option (α × List Token)) : Prop :=
  ∀ ⦃room tokens rest result⦄, Fits room tokens → read tokens = some (result, rest) →
    property room result ∧ Fits (room + closed) rest

section

variable {room : Nat} {c : Char} {rest : List Token}

theorem Fits.behind {token : Token} (fits : Fits room (token :: rest))
    (noSign : ∀ c, token ≠ .sign c) : Fits room rest :=
  ((fits_cons noSign).1 fits).2

theorem Fits.named {text : String} (fits : Fits room (.name text :: rest)) :
    IsName text ∧ Fits room rest :=
  (fits_cons (by simp)).1 fits

theorem Fits.opened (fits : Fits room (.sign c :: rest)) (opening : isOpening c = true) :
    0 < room ∧ Fits (room - 1) rest :=
  (fits_cons_opening opening).1 fits

theorem Fits.closed (fits : Fits room (.sign c :: rest)) (closing : isClosing c = true) :
    Fits (room + 1) rest :=
  (fits_cons_closing closing).1 fits

theorem Fits.behindSign (fits : Fits room (.sign c :: rest)) (notOpening : isOpening c = false)
    (notClosing : isClosing c = false) : Fits room rest :=
  (fits_cons_sign notOpening notClosing).1 fits

/-- What a reader finds behind an opening bracket when it reads up to the closing one. -/
theorem Yields.enclosed {α : Type} {property : Nat → α → Prop}
    {read : List Token → Option (α × List Token)} {result : α} {after : List Token}
    (yields : Yields 1 property read) (opening : isOpening c = true)
    (fits : Fits room (.sign c :: rest)) (found : read rest = some (result, after)) :
    (0 < room ∧ property (room - 1) result) ∧ Fits room after := by
  obtain ⟨positive, fitsRest⟩ := fits.opened opening
  obtain ⟨holds, fitsAfter⟩ := yields fitsRest found
  rw [Nat.sub_add_cancel positive] at fitsAfter
  exact ⟨⟨positive, holds⟩, fitsAfter⟩

end

theorem readableFields_iff {mayVary : Bool} {room : Nat} {fields : List (String × Value)} :
    Value.ReadableFields mayVary room fields ↔
      ∀ field ∈ fields, IsName field.1 ∧ field.2.Readable mayVary room := by
  induction fields with
  | nil => simp [Value.ReadableFields]
  | cons field rest ih => simp [Value.ReadableFields, ih, and_assoc]

theorem mem_insertField {name : String} {value : Value} {fields : List (String × Value)}
    {field : String × Value} (inside : field ∈ insertField name value fields) :
    field = (name, value) ∨ field ∈ fields := by
  induction fields with
  | nil => exact .inl (List.mem_singleton.1 inside)
  | cons other rest ih =>
      rw [insertField] at inside
      split at inside
      · exact List.mem_cons.1 inside
      split at inside
      · exact (List.mem_cons.1 inside).imp_right (List.mem_cons_of_mem _)
      · rcases List.mem_cons.1 inside with rfl | later
        · exact .inr (List.mem_cons_self ..)
        · exact (ih later).imp_right (List.mem_cons_of_mem _)

theorem sortedFields_cons {field : String × Value} {rest : List (String × Value)} :
    SortedFields (field :: rest) ↔
      (∀ later ∈ rest, field.1 < later.1) ∧ SortedFields rest := by
  simp [SortedFields]

theorem sortedFields_insertField {name : String} {value : Value} {fields : List (String × Value)}
    (sorted : SortedFields fields) : SortedFields (insertField name value fields) := by
  induction fields with
  | nil => exact List.pairwise_singleton ..
  | cons other rest ih =>
      obtain ⟨before, sortedRest⟩ := sortedFields_cons.1 sorted
      rw [insertField]
      split
      · next smaller =>
          refine sortedFields_cons.2 ⟨?_, sorted⟩
          intro later inside
          rcases List.mem_cons.1 inside with rfl | inside
          · exact smaller
          · exact String.lt_trans smaller (before later inside)
      split
      · next same =>
          subst same
          exact sortedFields_cons.2 ⟨before, sortedRest⟩
      · next notSmaller different =>
          refine sortedFields_cons.2 ⟨?_, ih sortedRest⟩
          intro later inside
          rcases mem_insertField inside with rfl | inside
          · exact Std.lt_of_le_of_ne notSmaller (Ne.symm different)
          · exact before later inside

theorem readableFields_insertField {mayVary : Bool} {room : Nat} {name : String} {value : Value}
    {fields : List (String × Value)} (isName : IsName name) (readable : value.Readable mayVary room)
    (others : Value.ReadableFields mayVary room fields) :
    Value.ReadableFields mayVary room (insertField name value fields) := by
  rw [readableFields_iff] at others ⊢
  intro field inside
  rcases mem_insertField inside with rfl | inside
  · exact ⟨isName, readable⟩
  · exact others field inside

theorem yields_readValue {mayVary : Bool} {fuel : Nat}
    (items : Yields 1 (Value.ReadableItems mayVary) (readItems mayVary fuel))
    (fields : ∀ known, SortedFields known → Yields 1
      (fun room fields => Value.ReadableFields mayVary room known →
        SortedFields fields ∧ Value.ReadableFields mayVary room fields)
      (readFields mayVary known fuel)) :
    Yields 0 (Value.Readable mayVary) (readValue mayVary (fuel + 1)) := by
  intro room tokens rest result fits read
  unfold readValue at read
  split at read
  case h_1 | h_2 | h_3 | h_6 | h_7 =>
    cases read
    exact ⟨trivial, fits.behind (by simp)⟩
  case h_4 text rest notTrue notFalse notNull =>
    cases read
    obtain ⟨isName, fitsRest⟩ := fits.named
    exact ⟨⟨isName, notTrue, notFalse, notNull⟩, fitsRest⟩
  case h_5 i rest =>
    cases read
    exact (fits_cons (by simp)).1 fits
  case h_8 text rest =>
    split at read
    · next mayVary =>
        cases read
        obtain ⟨isName, fitsRest⟩ := (fits.behindSign rfl rfl).named
        exact ⟨⟨mayVary, isName⟩, fitsRest⟩
    · cases read
  case h_9 rest =>
    obtain ⟨⟨inner, after⟩, readInner, same⟩ := Option.map_eq_some_iff.1 read
    cases same
    exact items.enclosed rfl fits readInner
  case h_10 rest =>
    obtain ⟨⟨inner, after⟩, readInner, same⟩ := Option.map_eq_some_iff.1 read
    cases same
    obtain ⟨⟨positive, readable⟩, fitsAfter⟩ :=
      (fields [] List.Pairwise.nil).enclosed rfl fits readInner
    exact ⟨⟨positive, readable trivial⟩, fitsAfter⟩
  case h_11 => cases read

theorem yields_values (mayVary : Bool) (fuel : Nat) :
    Yields 0 (Value.Readable mayVary) (readValue mayVary fuel) ∧
      Yields 1 (Value.ReadableItems mayVary) (readItems mayVary fuel) ∧
      ∀ known, SortedFields known → Yields 1
        (fun room fields => Value.ReadableFields mayVary room known →
          SortedFields fields ∧ Value.ReadableFields mayVary room fields)
        (readFields mayVary known fuel) := by
  induction fuel with
  | zero => simp [Yields, readValue, readItems, readFields]
  | succ fuel ih =>
      obtain ⟨value, items, fields⟩ := ih
      refine ⟨yields_readValue items fields, ?_, ?_⟩
      · intro room tokens rest result fits read
        unfold readItems at read
        split at read
        · cases read
          exact ⟨trivial, fits.closed rfl⟩
        split at read
        · cases read
        · next item after readItem =>
            obtain ⟨⟨others, last⟩, readOthers, same⟩ := Option.map_eq_some_iff.1 read
            cases same
            obtain ⟨readable, fitsAfter⟩ := value fits readItem
            obtain ⟨readableOthers, fitsLast⟩ := items fitsAfter readOthers
            exact ⟨⟨readable, readableOthers⟩, fitsLast⟩
      · intro known sorted room tokens rest result fits read
        unfold readFields at read
        split at read
        · cases read
          exact ⟨fun readable => ⟨sorted, readable⟩, fits.closed rfl⟩
        · split at read
          · cases read
          · next readFirst =>
              obtain ⟨isName, fitsRest⟩ := fits.named
              obtain ⟨readable, fitsAfter⟩ := value (fitsRest.behindSign rfl rfl) readFirst
              obtain ⟨whole, fitsLast⟩ := fields _ (sortedFields_insertField sorted) fitsAfter read
              exact ⟨fun readableKnown =>
                whole (readableFields_insertField isName readable readableKnown), fitsLast⟩
        · cases read

/-! ### Arguments and directives -/

theorem yields_readArgumentsTail (fuel : Nat) :
    Yields 1 (Value.ReadableFields true) (readArgumentsTail fuel) := by
  induction fuel with
  | zero => simp [Yields, readArgumentsTail]
  | succ fuel ih =>
      intro room tokens rest result fits read
      unfold readArgumentsTail at read
      split at read
      · cases read
        exact ⟨trivial, fits.closed rfl⟩
      · split at read
        · cases read
        · next readFirst =>
            obtain ⟨⟨others, last⟩, readOthers, same⟩ := Option.map_eq_some_iff.1 read
            cases same
            obtain ⟨isName, fitsRest⟩ := fits.named
            obtain ⟨readable, fitsAfter⟩ :=
              (yields_values true fuel).1 (fitsRest.behindSign rfl rfl) readFirst
            obtain ⟨readableOthers, fitsLast⟩ := ih fitsAfter readOthers
            exact ⟨⟨isName, readable, readableOthers⟩, fitsLast⟩
      · cases read

theorem yields_readArguments (fuel : Nat) : Yields 0 Arguments.Readable (readArguments fuel) := by
  intro room tokens rest result fits read
  unfold readArguments at read
  split at read
  · cases read
  · obtain ⟨readable, fitsAfter⟩ := (yields_readArgumentsTail fuel).enclosed rfl fits read
    exact ⟨fun _ => readable, fitsAfter⟩
  · cases read
    exact ⟨fun nonempty => absurd rfl nonempty, fits⟩

theorem yields_readDirectives (fuel : Nat) :
    Yields 0 ReadableDirectives (readDirectives fuel) := by
  induction fuel with
  | zero => simp [Yields, readDirectives]
  | succ fuel ih =>
      intro room tokens rest result fits read
      unfold readDirectives at read
      split at read
      · split at read
        · cases read
        · next readFirst =>
            obtain ⟨⟨others, last⟩, readOthers, same⟩ := Option.map_eq_some_iff.1 read
            cases same
            obtain ⟨isName, fitsRest⟩ := (fits.behindSign rfl rfl).named
            obtain ⟨readable, fitsAfter⟩ := yields_readArguments fuel fitsRest readFirst
            obtain ⟨readableOthers, fitsLast⟩ := ih fitsAfter readOthers
            exact ⟨List.forall_mem_cons.2 ⟨⟨isName, readable⟩, readableOthers⟩, fitsLast⟩
      · cases read
      · cases read
        exact ⟨by simp [ReadableDirectives], fits⟩

/-! ### Types and variables -/

theorem readable_withMark {room : Nat} {type : TypeRef} {tokens : List Token}
    (readable : type.Readable room) (unmarked : ∀ inner, type ≠ .nonNull inner)
    (fits : Fits room tokens) :
    (withMark type tokens).1.Readable room ∧ Fits room (withMark type tokens).2 := by
  unfold withMark
  split
  · refine ⟨?_, fits.behindSign rfl rfl⟩
    cases type with
    | nonNull inner => exact absurd rfl (unmarked inner)
    | named name => exact readable
    | list item => exact readable
  · exact ⟨readable, fits⟩

theorem yields_readType (fuel : Nat) : Yields 0 TypeRef.Readable (readType fuel) := by
  induction fuel with
  | zero => simp [Yields, readType]
  | succ fuel ih =>
      intro room tokens rest result fits read
      unfold readType at read
      split at read
      · next name after =>
          obtain ⟨isName, fitsRest⟩ := fits.named
          have readable : TypeRef.Readable room (.named name) := isName
          have marked := readable_withMark readable (by simp) fitsRest
          rw [Option.some.inj read] at marked
          exact marked
      · split at read
        · next item after readItem =>
            obtain ⟨positive, fitsRest⟩ := fits.opened rfl
            obtain ⟨readable, fitsAfter⟩ := ih fitsRest readItem
            have fitsLast := fitsAfter.closed rfl
            rw [Nat.sub_add_cancel positive] at fitsLast
            have readableList : TypeRef.Readable room (.list item) := ⟨positive, readable⟩
            have marked := readable_withMark readableList (by simp) fitsLast
            rw [Option.some.inj read] at marked
            exact marked
        · cases read
      · cases read

theorem yields_readDefault (fuel : Nat) :
    Yields 0 (fun room default? => ∀ value, default? = some value → Value.Readable false room value)
      (readDefault fuel) := by
  intro room tokens rest result fits read
  unfold readDefault at read
  split at read
  · obtain ⟨⟨value, after⟩, readValue, same⟩ := Option.map_eq_some_iff.1 read
    cases same
    obtain ⟨readable, fitsAfter⟩ := (yields_values false fuel).1 (fits.behindSign rfl rfl) readValue
    refine ⟨?_, fitsAfter⟩
    rintro other ⟨⟩
    exact readable
  · cases read
    exact ⟨by simp, fits⟩

theorem yields_readVariablesTail (fuel : Nat) :
    Yields 1 (fun room declared => ∀ v ∈ declared, Variable.Readable room v)
      (readVariablesTail fuel) := by
  induction fuel with
  | zero => simp [Yields, readVariablesTail]
  | succ fuel ih =>
      intro room tokens rest result fits read
      unfold readVariablesTail at read
      split at read
      · cases read
        exact ⟨by simp, fits.closed rfl⟩
      · split at read
        · cases read
        · next readFirst =>
            split at read
            · cases read
            · next readSecond =>
                obtain ⟨⟨others, last⟩, readOthers, same⟩ := Option.map_eq_some_iff.1 read
                cases same
                obtain ⟨isName, fitsName⟩ := (fits.behindSign rfl rfl).named
                obtain ⟨readableType, fitsType⟩ :=
                  yields_readType fuel (fitsName.behindSign rfl rfl) readFirst
                obtain ⟨readableDefault, fitsDefault⟩ := yields_readDefault fuel fitsType readSecond
                obtain ⟨readableOthers, fitsLast⟩ := ih fitsDefault readOthers
                exact ⟨List.forall_mem_cons.2
                  ⟨⟨isName, readableType, readableDefault⟩, readableOthers⟩, fitsLast⟩
      · cases read

theorem yields_readVariables (fuel : Nat) :
    Yields 0 (fun room declared => declared ≠ [] → 0 < room ∧
      ∀ v ∈ declared, Variable.Readable (room - 1) v) (readVariables fuel) := by
  intro room tokens rest result fits read
  unfold readVariables at read
  split at read
  · cases read
  · obtain ⟨readable, fitsAfter⟩ := (yields_readVariablesTail fuel).enclosed rfl fits read
    exact ⟨fun _ => readable, fitsAfter⟩
  · cases read
    exact ⟨fun nonempty => absurd rfl nonempty, fits⟩

/-! ### Selections -/

theorem yields_readField {fuel : Nat} {alias? : Option String} {name : String}
    (aliased : ∀ text, alias? = some text → IsName text) (isName : IsName name)
    (selections : Yields 1 Selection.ReadableAll (readSelections fuel)) :
    Yields 0 Selection.Readable (readField alias? name (fuel + 1)) := by
  intro room tokens rest result fits read
  unfold readField at read
  split at read
  · cases read
  · next readFirst =>
      obtain ⟨readableArguments, fitsArguments⟩ := yields_readArguments fuel fits readFirst
      split at read
      · cases read
      · next readSecond =>
          obtain ⟨readableDirectives, fitsDirectives⟩ :=
            yields_readDirectives fuel fitsArguments readSecond
          split at read
          · obtain ⟨⟨inner, last⟩, readInner, same⟩ := Option.map_eq_some_iff.1 read
            cases same
            obtain ⟨⟨positive, readable⟩, fitsLast⟩ :=
              selections.enclosed rfl fitsDirectives readInner
            exact ⟨⟨aliased, isName, readableArguments, readableDirectives, fun _ => positive,
              readable⟩, fitsLast⟩
          · cases read
            exact ⟨⟨aliased, isName, readableArguments, readableDirectives,
              fun nonempty => absurd rfl nonempty, trivial⟩, fitsDirectives⟩

theorem yields_readInline {fuel : Nat} {condition : Option String}
    (isType : ∀ type, condition = some type → IsName type)
    (selections : Yields 1 Selection.ReadableAll (readSelections fuel)) :
    Yields 0 Selection.Readable (readInline condition (fuel + 1)) := by
  intro room tokens rest result fits read
  unfold readInline at read
  split at read
  · next readFirst =>
      obtain ⟨⟨inner, last⟩, readInner, same⟩ := Option.map_eq_some_iff.1 read
      cases same
      obtain ⟨readableDirectives, fitsDirectives⟩ := yields_readDirectives fuel fits readFirst
      obtain ⟨readable, fitsLast⟩ := selections.enclosed rfl fitsDirectives readInner
      exact ⟨⟨isType, readableDirectives, readable⟩, fitsLast⟩
  · cases read

theorem yields_selections (fuel : Nat) :
    Yields 1 Selection.ReadableAll (readSelections fuel) ∧
      Yields 0 Selection.Readable (readSelection fuel) ∧
      (∀ alias? name, (∀ text, alias? = some text → IsName text) → IsName name →
        Yields 0 Selection.Readable (readField alias? name fuel)) ∧
      ∀ condition, (∀ type, condition = some type → IsName type) →
        Yields 0 Selection.Readable (readInline condition fuel) := by
  induction fuel with
  | zero => simp [Yields, readSelections, readSelection, readField, readInline]
  | succ fuel ih =>
      obtain ⟨selections, selection, field, inline⟩ := ih
      refine ⟨?_, ?_, fun _ _ aliased isName => yields_readField aliased isName selections,
        fun _ isType => yields_readInline isType selections⟩
      · intro room tokens rest result fits read
        unfold readSelections at read
        split at read
        · cases read
        · next readFirst =>
            obtain ⟨readable, fitsAfter⟩ := selection fits readFirst
            split at read
            · cases read
              exact ⟨⟨readable, trivial⟩, fitsAfter.closed rfl⟩
            · obtain ⟨⟨others, last⟩, readOthers, same⟩ := Option.map_eq_some_iff.1 read
              cases same
              obtain ⟨readableOthers, fitsLast⟩ := selections fitsAfter readOthers
              exact ⟨⟨readable, readableOthers⟩, fitsLast⟩
      · intro room tokens rest result fits read
        unfold readSelection at read
        split at read
        · obtain ⟨isAlias, fitsAlias⟩ := fits.named
          obtain ⟨isName, fitsName⟩ := (fitsAlias.behindSign rfl rfl).named
          refine field _ _ ?_ isName fitsName read
          rintro text ⟨⟩
          exact isAlias
        · cases read
        · obtain ⟨isName, fitsName⟩ := fits.named
          exact field _ _ (by simp) isName fitsName read
        · obtain ⟨isType, fitsType⟩ := ((fits.behind (by simp)).behind (by simp)).named
          refine inline _ ?_ fitsType read
          rintro type ⟨⟩
          exact isType
        · cases read
        · next fragment after _ notOn =>
            obtain ⟨⟨directives, last⟩, readAfter, same⟩ := Option.map_eq_some_iff.1 read
            cases same
            obtain ⟨isName, fitsName⟩ := (fits.behind (by simp)).named
            obtain ⟨readable, fitsLast⟩ := yields_readDirectives fuel fitsName readAfter
            exact ⟨⟨isName, notOn, readable⟩, fitsLast⟩
        · exact inline _ (by simp) (fits.behind (by simp)) read
        · cases read

theorem yields_readSelectionSet (fuel : Nat) :
    Yields 0 (fun room selections => 0 < room ∧ Selection.ReadableAll (room - 1) selections)
      (readSelectionSet fuel) := by
  intro room tokens rest result fits read
  unfold readSelectionSet at read
  split at read
  · exact (yields_selections fuel).1.enclosed rfl fits read
  · cases read

/-! ### Definitions -/

theorem yields_readOperation (fuel : Nat) (kind : OperationKind) :
    Yields 0 Definition.Readable (readOperation fuel kind) := by
  intro room tokens rest result fits read
  have optional : (∀ text, (readOptionalName tokens).1 = some text → IsName text) ∧
      Fits room (readOptionalName tokens).2 := by
    unfold readOptionalName
    split
    · obtain ⟨isName, fitsRest⟩ := fits.named
      refine ⟨?_, fitsRest⟩
      rintro text ⟨⟩
      exact isName
    · exact ⟨by simp, fits⟩
  obtain ⟨isName, fitsName⟩ := optional
  unfold readOperation at read
  simp only [Option.bind_eq_bind, Option.bind_eq_some_iff, Prod.exists, Option.some.injEq,
    Prod.mk.injEq] at read
  obtain ⟨_, _, readDeclared, _, _, readSecond, _, _, readThird, rfl, rfl⟩ := read
  obtain ⟨readableDeclared, fitsDeclared⟩ := yields_readVariables fuel fitsName readDeclared
  obtain ⟨readableDirectives, fitsDirectives⟩ := yields_readDirectives fuel fitsDeclared readSecond
  obtain ⟨readable, fitsLast⟩ := yields_readSelectionSet fuel fitsDirectives readThird
  refine ⟨⟨?_, readable⟩, fitsLast⟩
  rintro header ⟨⟩
  exact ⟨isName, readableDeclared, readableDirectives⟩

theorem yields_readDefinition (fuel : Nat) :
    Yields 0 Definition.Readable (readDefinition fuel) := by
  intro room tokens rest result fits read
  unfold readDefinition at read
  split at read
  · obtain ⟨⟨inner, last⟩, readInner, same⟩ := Option.map_eq_some_iff.1 read
    cases same
    obtain ⟨readable, fitsLast⟩ := yields_readSelectionSet fuel fits readInner
    exact ⟨⟨by simp, readable⟩, fitsLast⟩
  · exact yields_readOperation fuel _ (fits.behind (by simp)) read
  · exact yields_readOperation fuel _ (fits.behind (by simp)) read
  · exact yields_readOperation fuel _ (fits.behind (by simp)) read
  · simp only [Option.bind_eq_bind, Option.bind_eq_some_iff, Prod.exists, Option.some.injEq,
      Prod.mk.injEq] at read
    obtain ⟨_, _, readFirst, _, _, readSecond, rfl, rfl⟩ := read
    obtain ⟨isName, fitsName⟩ := (fits.behind (by simp)).named
    obtain ⟨isType, fitsType⟩ := (fitsName.behind (by simp)).named
    obtain ⟨readableDirectives, fitsDirectives⟩ := yields_readDirectives fuel fitsType readFirst
    obtain ⟨readable, fitsLast⟩ := yields_readSelectionSet fuel fitsDirectives readSecond
    exact ⟨⟨isName, isType, readableDirectives, readable⟩, fitsLast⟩
  · cases read

theorem readable_of_readDefinitions {room bound fuel : Nat} {tokens : List Token}
    {document : Document} (fits : Fits room tokens)
    (read : readDefinitions bound fuel tokens = some document) :
    document ≠ [] ∧ ∀ definition ∈ document, definition.Readable room := by
  induction fuel generalizing tokens document with
  | zero => cases read
  | succ fuel ih =>
      unfold readDefinitions at read
      split at read
      · cases read
      · next readFirst =>
          cases read
          obtain ⟨readable, -⟩ := yields_readDefinition bound fits readFirst
          simpa using readable
      · next readFirst =>
          obtain ⟨readable, fitsRest⟩ := yields_readDefinition bound fits readFirst
          obtain ⟨others, readOthers, rfl⟩ := Option.map_eq_some_iff.1 read
          obtain ⟨-, readableOthers⟩ := ih fitsRest readOthers
          exact ⟨by simp, List.forall_mem_cons.2 ⟨readable, readableOthers⟩⟩

/-- A document that was read has definitions, and all of them can be read again once
something is selected everywhere in them. -/
theorem readable_of_parse? {text : String} {document : Document}
    (read : Document.parse? text = some document) :
    document ≠ [] ∧ ∀ definition ∈ document, definition.Readable maxOpen := by
  obtain ⟨tokens, scanned, readAll⟩ := Option.bind_eq_some_iff.1 read
  exact readable_of_readDefinitions (fits_of_tokens? scanned) readAll

end Reshape.Query
