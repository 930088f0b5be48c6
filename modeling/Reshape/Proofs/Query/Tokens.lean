/-
Module: Reshape.Proofs.Query.Tokens
Purpose: the tokens of every part of a document, and which documents have tokens that
  the readers accept.
Main exports: Query.Document.tokens, Query.IsName, Query.Value.Readable,
  Query.Definition.Readable, Query.Definition.filled, Query.Fits
Trusted boundary: the parser and the printer of query documents that the program is given, for
  which those here stand
-/
import Reshape.Query.Printer
import Reshape.Query.Reader

/-!
# The tokens of a document

A document is a list of tokens in one way: the signs between its parts are given by what
the parts are. A part is readable within some room when its names are names, its integers
have 64 bits, its words are not taken for others, and no more brackets are open in it than
there is room for. Apart from that a reader asks for something to stand between the braces
of operations, fragments and inline fragments.
-/

namespace Reshape.Query

/-! ### Tokens -/

mutual

/-- The tokens of a value. -/
def Value.tokens : Value → List Token
  | .variable name => [.sign '$', .name name]
  | .integer i => [.integer i]
  | .double x => [.double x]
  | .string s => [.string s]
  | .bool b => [.name (if b then "true" else "false")]
  | .null => [.name "null"]
  | .enumeration name => [.name name]
  | .list items => .sign '[' :: (Value.tokensOfItems items ++ [.sign ']'])
  | .object fields => .sign '\x7b' :: (Value.tokensOfFields fields ++ [.sign '\x7d'])

def Value.tokensOfItems : List Value → List Token
  | [] => []
  | item :: rest => item.tokens ++ Value.tokensOfItems rest

/-- The tokens of named values; arguments have the same. -/
def Value.tokensOfFields : List (String × Value) → List Token
  | [] => []
  | (name, value) :: rest =>
      .name name :: .sign ':' :: (value.tokens ++ Value.tokensOfFields rest)

end

/-- The tokens of arguments, which are none when there are no arguments. -/
def Arguments.tokens (arguments : Arguments) : List Token :=
  if arguments.isEmpty then []
  else .sign '(' :: (Value.tokensOfFields arguments ++ [.sign ')'])

def Directive.tokens (directive : Directive) : List Token :=
  .sign '@' :: .name directive.name :: Arguments.tokens directive.arguments

/-- Tokens between braces. -/
def braced (inner : List Token) : List Token :=
  .sign '\x7b' :: (inner ++ [.sign '\x7d'])

mutual

/-- The tokens of a selection; a field without selections has no braces. -/
def Selection.tokens : Selection → List Token
  | .field alias? name arguments directives selections =>
      (alias?.map fun text => [.name text, .sign ':']).getD [] ++ .name name ::
        (Arguments.tokens arguments ++ (directives.flatMap Directive.tokens ++
          (if selections.isEmpty then [] else braced (Selection.tokensOfAll selections))))
  | .spread fragment directives =>
      .ellipsis :: .name fragment :: directives.flatMap Directive.tokens
  | .inline condition directives selections =>
      .ellipsis :: ((condition.map fun type => [.name "on", .name type]).getD [] ++
        (directives.flatMap Directive.tokens ++ braced (Selection.tokensOfAll selections)))

def Selection.tokensOfAll : List Selection → List Token
  | [] => []
  | selection :: rest => selection.tokens ++ Selection.tokensOfAll rest

end

def TypeRef.tokens : TypeRef → List Token
  | .named name => [.name name]
  | .list item => .sign '[' :: (item.tokens ++ [.sign ']'])
  | .nonNull inner => inner.tokens ++ [.sign '!']

def Variable.tokens (v : Variable) : List Token :=
  .sign '$' :: .name v.name :: .sign ':' ::
    (v.type.tokens ++ (v.default?.map fun value => .sign '=' :: value.tokens).getD [])

/-- The tokens of declared variables, which are none when there are none. -/
def Variable.tokensOfAll (declared : List Variable) : List Token :=
  if declared.isEmpty then [] else .sign '(' :: (declared.flatMap Variable.tokens ++ [.sign ')'])

/-- The tokens of an operation before its braces. -/
def Header.tokens (header : Header) : List Token :=
  .name header.kind.word ::
    ((header.name.map fun text => [.name text]).getD [] ++
      (Variable.tokensOfAll header.declared ++ header.directives.flatMap Directive.tokens))

def Definition.tokens : Definition → List Token
  | .operation header selections =>
      (header.map Header.tokens).getD [] ++ braced (Selection.tokensOfAll selections)
  | .fragment name condition directives selections =>
      .name "fragment" :: .name name :: .name "on" :: .name condition ::
        (directives.flatMap Directive.tokens ++ braced (Selection.tokensOfAll selections))

/-- The tokens of a document. -/
def Document.tokens (document : Document) : List Token :=
  document.flatMap Definition.tokens

/-! ### Readable parts -/

/-- A text that is scanned as a name: a letter or an underscore, then also digits. -/
def IsName (text : String) : Prop :=
  ∃ c rest, text.toList = c :: rest ∧ isNameFirst c = true ∧ rest.all isNameChar = true

/-- Fields in the order of their names. -/
def SortedFields (fields : List (String × Value)) : Prop :=
  (fields.map Prod.fst).Pairwise (· < ·)

mutual

/-- A value can be read again with room for a number of open brackets. Fields are sorted,
which is how they are kept. -/
def Value.Readable (mayVary : Bool) (room : Nat) : Value → Prop
  | .variable name => mayVary = true ∧ IsName name
  | .integer i => minInt64 ≤ i ∧ i ≤ maxInt64
  | .enumeration name => IsName name ∧ name ≠ "true" ∧ name ≠ "false" ∧ name ≠ "null"
  | .list items => 0 < room ∧ Value.ReadableItems mayVary (room - 1) items
  | .object fields =>
      0 < room ∧ SortedFields fields ∧ Value.ReadableFields mayVary (room - 1) fields
  | .double _ | .string _ | .bool _ | .null => True

def Value.ReadableItems (mayVary : Bool) (room : Nat) : List Value → Prop
  | [] => True
  | item :: rest => item.Readable mayVary room ∧ Value.ReadableItems mayVary room rest

def Value.ReadableFields (mayVary : Bool) (room : Nat) : List (String × Value) → Prop
  | [] => True
  | (name, value) :: rest =>
      IsName name ∧ value.Readable mayVary room ∧ Value.ReadableFields mayVary room rest

end

def Arguments.Readable (room : Nat) (arguments : Arguments) : Prop :=
  arguments ≠ [] → 0 < room ∧ Value.ReadableFields true (room - 1) arguments

def Directive.Readable (room : Nat) (directive : Directive) : Prop :=
  IsName directive.name ∧ Arguments.Readable room directive.arguments

/-- Directives can be read again. -/
def ReadableDirectives (room : Nat) (directives : List Directive) : Prop :=
  ∀ directive ∈ directives, directive.Readable room

mutual

def Selection.Readable (room : Nat) : Selection → Prop
  | .field alias? name arguments directives selections =>
      (∀ text, alias? = some text → IsName text) ∧ IsName name ∧
        Arguments.Readable room arguments ∧ ReadableDirectives room directives ∧
        (selections ≠ [] → 0 < room) ∧ Selection.ReadableAll (room - 1) selections
  | .spread fragment directives =>
      IsName fragment ∧ fragment ≠ "on" ∧ ReadableDirectives room directives
  | .inline condition directives selections =>
      (∀ type, condition = some type → IsName type) ∧ ReadableDirectives room directives ∧
        0 < room ∧ Selection.ReadableAll (room - 1) selections

def Selection.ReadableAll (room : Nat) : List Selection → Prop
  | [] => True
  | selection :: rest => selection.Readable room ∧ Selection.ReadableAll room rest

end

/-- A type can be read again; a mark is read once. -/
def TypeRef.Readable (room : Nat) : TypeRef → Prop
  | .named name => IsName name
  | .list item => 0 < room ∧ item.Readable (room - 1)
  | .nonNull (.nonNull _) => False
  | .nonNull inner => inner.Readable room

def Variable.Readable (room : Nat) (v : Variable) : Prop :=
  IsName v.name ∧ v.type.Readable room ∧
    ∀ value, v.default? = some value → value.Readable false room

def Header.Readable (room : Nat) (header : Header) : Prop :=
  (∀ text, header.name = some text → IsName text) ∧
    (header.declared ≠ [] → 0 < room ∧ ∀ v ∈ header.declared, v.Readable (room - 1)) ∧
    ReadableDirectives room header.directives

/-- A definition can be read again, when something stands between its braces. -/
def Definition.Readable (room : Nat) : Definition → Prop
  | .operation header selections =>
      (∀ h, header = some h → h.Readable room) ∧ 0 < room ∧
        Selection.ReadableAll (room - 1) selections
  | .fragment name condition directives selections =>
      IsName name ∧ IsName condition ∧ ReadableDirectives room directives ∧ 0 < room ∧
        Selection.ReadableAll (room - 1) selections

/-! ### Filled parts -/

mutual

/-- Whether something is selected in every inline fragment of a selection. -/
def Selection.filled : Selection → Bool
  | .field _ _ _ _ selections => Selection.filledAll selections
  | .spread _ _ => true
  | .inline _ _ selections => !selections.isEmpty && Selection.filledAll selections

def Selection.filledAll : List Selection → Bool
  | [] => true
  | selection :: rest => selection.filled && Selection.filledAll rest

end

/-- Whether something is selected in a definition and in every inline fragment of it. -/
def Definition.filled : Definition → Bool
  | .operation _ selections => !selections.isEmpty && Selection.filledAll selections
  | .fragment _ _ _ selections => !selections.isEmpty && Selection.filledAll selections

/-- Whether something is selected in every operation, fragment and inline fragment. -/
def Document.filled (document : Document) : Bool :=
  document.all Definition.filled

/-! ### Tokens that fit -/

/-- The names among the tokens are names, and the integers have 64 bits. -/
def Token.Readable : Token → Prop
  | .name text => IsName text
  | .integer i => minInt64 ≤ i ∧ i ≤ maxInt64
  | .sign _ | .ellipsis | .double _ | .string _ => True

/-- Readable tokens that never have more brackets open than there is room for. -/
def Fits (room : Nat) (tokens : List Token) : Prop :=
  (∀ token ∈ tokens, token.Readable) ∧ staysWithin room tokens = true

theorem fits_cons_opening {room : Nat} {c : Char} {rest : List Token}
    (opening : isOpening c = true) :
    Fits room (.sign c :: rest) ↔ 0 < room ∧ Fits (room - 1) rest := by
  cases room with
  | zero => simp [Fits, staysWithin, opening]
  | succ room => simp [Fits, staysWithin, opening, Token.Readable]

theorem isOpening_of_isClosing {c : Char} (closing : isClosing c = true) :
    isOpening c = false := by
  simp only [isClosing, Bool.or_eq_true, beq_iff_eq] at closing
  rcases closing with (rfl | rfl) | rfl <;> decide

theorem fits_cons_closing {room : Nat} {c : Char} {rest : List Token}
    (closing : isClosing c = true) : Fits room (.sign c :: rest) ↔ Fits (room + 1) rest := by
  simp [Fits, staysWithin, closing, isOpening_of_isClosing closing, Token.Readable]

theorem fits_cons_sign {room : Nat} {c : Char} {rest : List Token}
    (notOpening : isOpening c = false) (notClosing : isClosing c = false) :
    Fits room (.sign c :: rest) ↔ Fits room rest := by
  simp [Fits, staysWithin, notOpening, notClosing, Token.Readable]

/-- A token that is no sign needs no room. -/
theorem fits_cons {room : Nat} {token : Token} {rest : List Token}
    (noSign : ∀ c, token ≠ .sign c) :
    Fits room (token :: rest) ↔ token.Readable ∧ Fits room rest := by
  cases token with
  | sign c => exact absurd rfl (noSign c)
  | _ => simp [Fits, staysWithin, and_assoc]

end Reshape.Query
