/-
Module: Reshape.Proofs.Query.Roundtrip
Purpose: which documents are read back from their text.
Main exports: Query.Balanced, Query.tokens?_write, Query.parse?_write
Trusted boundary: the parser and the printer of query documents that the program is given, for
  which those here stand
-/
import Reshape.Proofs.Query.Printed
import Reshape.Proofs.Query.Readable
import Reshape.Proofs.Query.Rereading

/-!
# Reading printed documents

The tokens of a readable document never have more brackets open than there is room for. So the
text of a readable document whose values print exactly is the text of that document alone, if
something is selected everywhere in it, and of none otherwise.
-/

namespace Reshape.Query

/-! ### Brackets -/

/-- Tokens that close what they open and have no more brackets open than there is room for. -/
def Balanced (room : Nat) (tokens : List Token) : Prop :=
  ∀ rest, staysWithin room (tokens ++ rest) = staysWithin room rest

namespace Balanced

variable {room : Nat} {tokens others : List Token}

theorem nil : Balanced room [] := by
  intro rest
  rfl

theorem append (front : Balanced room tokens) (back : Balanced room others) :
    Balanced room (tokens ++ others) := by
  intro rest
  rw [List.append_assoc, front, back]

theorem sign {c : Char} (notOpening : isOpening c = false) (notClosing : isClosing c = false)
    (balanced : Balanced room tokens) : Balanced room (.sign c :: tokens) := by
  intro rest
  simp [staysWithin, notOpening, notClosing, balanced rest]

theorem token {token : Token} (noSign : ∀ c, token ≠ .sign c) (balanced : Balanced room tokens) :
    Balanced room (token :: tokens) := by
  intro rest
  cases token with
  | sign c => exact absurd rfl (noSign c)
  | _ => exact balanced rest

theorem brackets {c d : Char} (positive : 0 < room) (opening : isOpening c = true)
    (closing : isClosing d = true) (balanced : Balanced (room - 1) tokens) :
    Balanced room (.sign c :: (tokens ++ [.sign d])) := by
  intro rest
  obtain _ | room := room
  · cases positive
  have notOpening := isOpening_of_isClosing closing
  have inside := balanced (.sign d :: rest)
  simp only [Nat.add_sub_cancel] at inside
  simp [staysWithin, opening, closing, notOpening, inside]

end Balanced

/-! ### Parts -/

mutual

theorem balanced_value {mayVary : Bool} {room : Nat} {v : Value}
    (readable : v.Readable mayVary room) : Balanced room v.tokens := by
  match v with
  | .variable name => exact .sign rfl rfl (.token (by simp) .nil)
  | .integer _ | .double _ | .string _ | .bool _ | .null | .enumeration _ =>
      exact .token (by simp) .nil
  | .list items => exact .brackets readable.1 rfl rfl (balanced_items readable.2)
  | .object fields => exact .brackets readable.1 rfl rfl (balanced_fields readable.2.2)

theorem balanced_items {mayVary : Bool} {room : Nat} {items : List Value}
    (readable : Value.ReadableItems mayVary room items) :
    Balanced room (Value.tokensOfItems items) := by
  match items with
  | [] => exact .nil
  | item :: rest => exact (balanced_value readable.1).append (balanced_items readable.2)

theorem balanced_fields {mayVary : Bool} {room : Nat} {fields : List (String × Value)}
    (readable : Value.ReadableFields mayVary room fields) :
    Balanced room (Value.tokensOfFields fields) := by
  match fields with
  | [] => exact .nil
  | (name, value) :: rest =>
      have both := (balanced_value readable.2.1).append (balanced_fields readable.2.2)
      exact .token (by simp) (.sign rfl rfl both)

end

theorem balanced_arguments {room : Nat} {arguments : Arguments}
    (readable : arguments.Readable room) : Balanced room arguments.tokens := by
  cases arguments with
  | nil => exact .nil
  | cons argument rest =>
      obtain ⟨positive, fields⟩ := readable (by simp)
      exact .brackets positive rfl rfl (balanced_fields fields)

theorem balanced_flatMap {α : Type} {room : Nat} {tokens : α → List Token} {parts : List α}
    (balanced : ∀ part ∈ parts, Balanced room (tokens part)) :
    Balanced room (parts.flatMap tokens) := by
  induction parts with
  | nil => exact .nil
  | cons first rest ih =>
      have others := ih fun part inside => balanced part (List.mem_cons_of_mem _ inside)
      rw [List.flatMap_cons]
      exact (balanced first (List.mem_cons_self ..)).append others

theorem balanced_directives {room : Nat} {directives : List Directive}
    (readable : ReadableDirectives room directives) :
    Balanced room (directives.flatMap Directive.tokens) := by
  apply balanced_flatMap
  intro directive inside
  obtain ⟨-, arguments⟩ := readable directive inside
  exact .sign rfl rfl (.token (by simp) (balanced_arguments arguments))

mutual

theorem balanced_selection {room : Nat} {selection : Selection}
    (readable : selection.Readable room) : Balanced room selection.tokens := by
  match selection with
  | .field alias? name arguments directives selections =>
      obtain ⟨-, -, readableArguments, readableDirectives, positive, readableInner⟩ := readable
      have inner := balanced_selections readableInner
      have selected : Balanced room (selectedTokens selections) := by
        cases selections with
        | nil => exact .nil
        | cons first rest => exact .brackets (positive (by simp)) rfl rfl inner
      have behind := (balanced_arguments readableArguments).append
        ((balanced_directives readableDirectives).append selected)
      rw [tokens_field]
      cases alias? with
      | none => exact .token (by simp) behind
      | some first => exact .token (by simp) (.sign rfl rfl (.token (by simp) behind))
  | .spread fragment directives =>
      obtain ⟨-, -, readableDirectives⟩ := readable
      exact .token (by simp) (.token (by simp) (balanced_directives readableDirectives))
  | .inline condition directives selections =>
      obtain ⟨-, readableDirectives, positive, readableInner⟩ := readable
      have braces : Balanced room (braced (Selection.tokensOfAll selections)) :=
        .brackets positive rfl rfl (balanced_selections readableInner)
      have behind := (balanced_directives readableDirectives).append braces
      cases condition with
      | none => exact .token (by simp) behind
      | some type => exact .token (by simp) (.token (by simp) (.token (by simp) behind))

theorem balanced_selections {room : Nat} {selections : List Selection}
    (readable : Selection.ReadableAll room selections) :
    Balanced room (Selection.tokensOfAll selections) := by
  match selections with
  | [] => exact .nil
  | selection :: rest =>
      exact (balanced_selection readable.1).append (balanced_selections readable.2)

end

theorem balanced_type {room : Nat} {type : TypeRef} (readable : type.Readable room) :
    Balanced room type.tokens := by
  match type with
  | .named _ => exact .token (by simp) .nil
  | .list item => exact .brackets readable.1 rfl rfl (balanced_type readable.2)
  | .nonNull (.nonNull _) => cases readable
  | .nonNull (.named _) => exact .token (by simp) (.sign rfl rfl .nil)
  | .nonNull (.list item) =>
      have inner : Balanced room (TypeRef.list item).tokens :=
        .brackets readable.1 rfl rfl (balanced_type readable.2)
      exact inner.append (.sign rfl rfl .nil)

theorem balanced_variable {room : Nat} {v : Variable} (readable : v.Readable room) :
    Balanced room v.tokens := by
  obtain ⟨name, type, default?⟩ := v
  obtain ⟨-, readableType, readableDefault⟩ := readable
  have assigned : Balanced room
      ((default?.map fun value => .sign '=' :: value.tokens).getD []) := by
    cases default? with
    | none => exact .nil
    | some value => exact .sign rfl rfl (balanced_value (readableDefault value rfl))
  have typed := (balanced_type readableType).append assigned
  exact .sign rfl rfl (.token (by simp) (.sign rfl rfl typed))

theorem balanced_header {room : Nat} {header : Header} (readable : header.Readable room) :
    Balanced room header.tokens := by
  obtain ⟨kind, name, declared, directives⟩ := header
  obtain ⟨-, readableDeclared, readableDirectives⟩ := readable
  have declarations : Balanced room (Variable.tokensOfAll declared) := by
    cases declared with
    | nil => exact .nil
    | cons v rest =>
        obtain ⟨positive, each⟩ := readableDeclared (by simp)
        exact .brackets positive rfl rfl
          (balanced_flatMap fun other inside => balanced_variable (each other inside))
  have behind := declarations.append (balanced_directives readableDirectives)
  cases name with
  | none => exact .token (by simp) behind
  | some text => exact .token (by simp) (.token (by simp) behind)

theorem balanced_definition {room : Nat} {definition : Definition}
    (readable : definition.Readable room) : Balanced room definition.tokens := by
  match definition with
  | .operation header selections =>
      obtain ⟨readableHeader, positive, readableInner⟩ := readable
      have braces : Balanced room (braced (Selection.tokensOfAll selections)) :=
        .brackets positive rfl rfl (balanced_selections readableInner)
      cases header with
      | none => exact braces
      | some header => exact (balanced_header (readableHeader header rfl)).append braces
  | .fragment name condition directives selections =>
      obtain ⟨-, -, readableDirectives, positive, readableInner⟩ := readable
      have braces : Balanced room (braced (Selection.tokensOfAll selections)) :=
        .brackets positive rfl rfl (balanced_selections readableInner)
      have behind := (balanced_directives readableDirectives).append braces
      exact .token (by simp) (.token (by simp) (.token (by simp) (.token (by simp) behind)))

/-! ### Documents -/

/-- The text of a readable document is scanned as the tokens of the document. -/
theorem tokens?_write {document : Document}
    (readable : ∀ definition ∈ document, definition.Readable maxOpen)
    (exact : document.PrintsExactly) : tokens? document.write = some document.tokens := by
  have balanced : Balanced maxOpen document.tokens :=
    balanced_flatMap fun definition inside => balanced_definition (readable definition inside)
  have within : staysWithin maxOpen document.tokens = true := by
    have all := balanced []
    rwa [List.append_nil] at all
  rw [tokens?_eq, lex_write readable exact, Option.filter_some, if_pos within]

/-- The text of a readable document is read as the document, if something is selected
everywhere in it, and as none otherwise. -/
theorem parse?_write {document : Document} (nonempty : document ≠ [])
    (readable : ∀ definition ∈ document, definition.Readable maxOpen)
    (exact : document.PrintsExactly) :
    Document.parse? document.write = if document.filled then some document else none := by
  have steps : document.length ≤ document.tokens.length + 1 :=
    Nat.le_succ_of_le (length_le_tokens document)
  rw [Document.parse?, tokens?_write readable exact, Option.bind_some]
  exact readDefinitions_tokens nonempty readable (Nat.le_add_right _ 4) steps

end Reshape.Query
