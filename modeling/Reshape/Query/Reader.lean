/-
Module: Reshape.Query.Reader
Purpose: query documents from text.
Main exports: Query.Document.parse?
Trusted boundary: stands for the parser of query documents that the program is given and that is no
  part of it
-/
import Reshape.Query.Basic
import Reshape.Query.Token

/-!
# Reading query documents

Every reader looks at the first token only, returns what it has read and the tokens
after it, and fails when what has begun is not completed. The readers of nested
parts take `fuel`, a bound on their steps that the number of tokens pays for.
-/

namespace Reshape.Query

/-- The fields of an object value as it keeps them: sorted by name, the last one of
each name. -/
def insertField (name : String) (value : Value) : List (String × Value) → List (String × Value)
  | [] => [(name, value)]
  | (other, old) :: rest =>
      if name < other then (name, value) :: (other, old) :: rest
      else if name = other then (name, value) :: rest
      else (other, old) :: insertField name value rest

/-! ## Values and annotations -/

mutual

/-- A value; `mayVary` tells whether it may hold variables. -/
def readValue (mayVary : Bool) : Nat → List Token → Option (Value × List Token)
  | 0, _ => none
  | fuel + 1, tokens =>
      match tokens with
      | .name "true" :: rest => some (.bool true, rest)
      | .name "false" :: rest => some (.bool false, rest)
      | .name "null" :: rest => some (.null, rest)
      | .name text :: rest => some (.enumeration text, rest)
      | .integer i :: rest => some (.integer i, rest)
      | .double x :: rest => some (.double x, rest)
      | .string s :: rest => some (.string s, rest)
      | .sign '$' :: .name text :: rest => if mayVary then some (.variable text, rest) else none
      | .sign '[' :: rest =>
          (readItems mayVary fuel rest).map fun (items, after) => (.list items, after)
      | .sign '\x7b' :: rest =>
          (readFields mayVary [] fuel rest).map fun (fields, after) => (.object fields, after)
      | _ => none

/-- Values up to the closing bracket. -/
def readItems (mayVary : Bool) : Nat → List Token → Option (List Value × List Token)
  | 0, _ => none
  | fuel + 1, tokens =>
      match tokens with
      | .sign ']' :: rest => some ([], rest)
      | _ =>
          match readValue mayVary fuel tokens with
          | none => none
          | some (item, rest) =>
              (readItems mayVary fuel rest).map fun (items, after) => (item :: items, after)

/-- Named values up to the closing brace, put in order. -/
def readFields (mayVary : Bool) (fields : List (String × Value)) :
    Nat → List Token → Option (List (String × Value) × List Token)
  | 0, _ => none
  | fuel + 1, tokens =>
      match tokens with
      | .sign '\x7d' :: rest => some (fields, rest)
      | .name name :: .sign ':' :: rest =>
          match readValue mayVary fuel rest with
          | none => none
          | some (value, after) => readFields mayVary (insertField name value fields) fuel after
      | _ => none

end

/-- Named values up to the closing parenthesis. -/
def readArgumentsTail : Nat → List Token → Option (Arguments × List Token)
  | 0, _ => none
  | fuel + 1, tokens =>
      match tokens with
      | .sign ')' :: rest => some ([], rest)
      | .name name :: .sign ':' :: rest =>
          match readValue true fuel rest with
          | none => none
          | some (value, after) =>
              (readArgumentsTail fuel after).map fun (arguments, last) =>
                ((name, value) :: arguments, last)
      | _ => none

/-- Arguments in parentheses, or nothing. Parentheses hold at least one argument. -/
def readArguments (fuel : Nat) : List Token → Option (Arguments × List Token)
  | .sign '(' :: .sign ')' :: _ => none
  | .sign '(' :: rest => readArgumentsTail fuel rest
  | tokens => some ([], tokens)

/-- Any number of directives. -/
def readDirectives : Nat → List Token → Option (List Directive × List Token)
  | 0, _ => none
  | fuel + 1, tokens =>
      match tokens with
      | .sign '@' :: .name name :: rest =>
          match readArguments fuel rest with
          | none => none
          | some (arguments, after) =>
              (readDirectives fuel after).map fun (directives, last) =>
                (⟨name, arguments⟩ :: directives, last)
      | .sign '@' :: _ => none
      | _ => some ([], tokens)

/-! ## Selections -/

mutual

/-- Selections up to the closing brace, at least one. -/
def readSelections : Nat → List Token → Option (List Selection × List Token)
  | 0, _ => none
  | fuel + 1, tokens =>
      match readSelection fuel tokens with
      | none => none
      | some (selection, rest) =>
          match rest with
          | .sign '\x7d' :: after => some ([selection], after)
          | _ =>
              (readSelections fuel rest).map fun (selections, after) =>
                (selection :: selections, after)

/-- A selection. -/
def readSelection : Nat → List Token → Option (Selection × List Token)
  | 0, _ => none
  | fuel + 1, tokens =>
      match tokens with
      | .name first :: .sign ':' :: .name second :: rest => readField (some first) second fuel rest
      | .name _ :: .sign ':' :: _ => none
      | .name name :: rest => readField none name fuel rest
      | .ellipsis :: .name "on" :: .name condition :: rest => readInline (some condition) fuel rest
      | .ellipsis :: .name "on" :: _ => none
      | .ellipsis :: .name fragment :: rest =>
          (readDirectives fuel rest).map fun (directives, after) =>
            (.spread fragment directives, after)
      | .ellipsis :: rest => readInline none fuel rest
      | _ => none

/-- A field after its name. -/
def readField (alias? : Option String) (name : String) :
    Nat → List Token → Option (Selection × List Token)
  | 0, _ => none
  | fuel + 1, tokens =>
      match readArguments fuel tokens with
      | none => none
      | some (arguments, afterArguments) =>
          match readDirectives fuel afterArguments with
          | none => none
          | some (directives, rest) =>
              match rest with
              | .sign '\x7b' :: inner =>
                  (readSelections fuel inner).map fun (selections, after) =>
                    (.field alias? name arguments directives selections, after)
              | _ => some (.field alias? name arguments directives [], rest)

/-- An inline fragment after its condition. -/
def readInline (condition : Option String) : Nat → List Token → Option (Selection × List Token)
  | 0, _ => none
  | fuel + 1, tokens =>
      match readDirectives fuel tokens with
      | some (directives, .sign '\x7b' :: inner) =>
          (readSelections fuel inner).map fun (selections, after) =>
            (.inline condition directives selections, after)
      | _ => none

end

/-- Selections in braces. -/
def readSelectionSet (fuel : Nat) : List Token → Option (List Selection × List Token)
  | .sign '\x7b' :: rest => readSelections fuel rest
  | _ => none

/-! ## Definitions -/

/-- An exclamation mark makes a type refuse null. -/
def withMark (type : TypeRef) : List Token → TypeRef × List Token
  | .sign '!' :: rest => (.nonNull type, rest)
  | rest => (type, rest)

/-- A type. -/
def readType : Nat → List Token → Option (TypeRef × List Token)
  | 0, _ => none
  | fuel + 1, tokens =>
      match tokens with
      | .name name :: rest => some (withMark (.named name) rest)
      | .sign '[' :: rest =>
          match readType fuel rest with
          | some (item, .sign ']' :: after) => some (withMark (.list item) after)
          | _ => none
      | _ => none

/-- The default value of a variable, which holds no variable, or nothing. -/
def readDefault (fuel : Nat) : List Token → Option (Option Value × List Token)
  | .sign '=' :: rest => (readValue false fuel rest).map fun (value, after) => (some value, after)
  | tokens => some (none, tokens)

/-- Declarations of variables up to the closing parenthesis. -/
def readVariablesTail : Nat → List Token → Option (List Variable × List Token)
  | 0, _ => none
  | fuel + 1, tokens =>
      match tokens with
      | .sign ')' :: rest => some ([], rest)
      | .sign '$' :: .name name :: .sign ':' :: rest =>
          match readType fuel rest with
          | none => none
          | some (type, afterType) =>
              match readDefault fuel afterType with
              | none => none
              | some (default?, after) =>
                  (readVariablesTail fuel after).map fun (declared, last) =>
                    (⟨name, type, default?⟩ :: declared, last)
      | _ => none

/-- Declarations of variables in parentheses, or nothing. Parentheses hold at least
one declaration. -/
def readVariables (fuel : Nat) : List Token → Option (List Variable × List Token)
  | .sign '(' :: .sign ')' :: _ => none
  | .sign '(' :: rest => readVariablesTail fuel rest
  | tokens => some ([], tokens)

/-- The optional name of an operation. -/
def readOptionalName : List Token → Option String × List Token
  | .name text :: rest => (some text, rest)
  | rest => (none, rest)

/-- An operation after the word for its kind. -/
def readOperation (fuel : Nat) (kind : OperationKind) (tokens : List Token) :
    Option (Definition × List Token) := do
  let (name, afterName) := readOptionalName tokens
  let (declared, afterVariables) ← readVariables fuel afterName
  let (directives, afterDirectives) ← readDirectives fuel afterVariables
  let (selections, rest) ← readSelectionSet fuel afterDirectives
  some (.operation (some ⟨kind, name, declared, directives⟩) selections, rest)

/-- A definition. -/
def readDefinition (fuel : Nat) (tokens : List Token) : Option (Definition × List Token) :=
  match tokens with
  | .sign '\x7b' :: rest =>
      (readSelections fuel rest).map fun (selections, after) => (.operation none selections, after)
  | .name "query" :: rest => readOperation fuel .query rest
  | .name "mutation" :: rest => readOperation fuel .mutation rest
  | .name "subscription" :: rest => readOperation fuel .subscription rest
  | .name "fragment" :: .name name :: .name "on" :: .name condition :: rest => do
      let (directives, afterDirectives) ← readDirectives fuel rest
      let (selections, after) ← readSelectionSet fuel afterDirectives
      some (.fragment name condition directives selections, after)
  | _ => none

/-- Definitions up to the end, at least one. -/
def readDefinitions (bound : Nat) : Nat → List Token → Option Document
  | 0, _ => none
  | fuel + 1, tokens =>
      match readDefinition bound tokens with
      | none => none
      | some (definition, []) => some [definition]
      | some (definition, rest) => (readDefinitions bound fuel rest).map (definition :: ·)

/-- The document that a text writes. -/
def Document.parse? (text : String) : Option Document :=
  (tokens? text).bind fun tokens =>
    readDefinitions (4 * tokens.length + 4) (tokens.length + 1) tokens

end Reshape.Query
