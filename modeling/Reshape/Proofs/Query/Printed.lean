/-
Module: Reshape.Proofs.Query.Printed
Purpose: the printed text of a document is scanned as the tokens of the document.
Main exports: Query.Document.PrintsExactly, Query.lex_write
Trusted boundary: the parser and the printer of query documents that the program is given, for
  which those here stand
-/
import Reshape.Proofs.Query.Scanning

/-!
# Printed documents

Every part of a document is printed so that what follows it does not change its last token.
Names and integers are always scanned as what they were. Doubles and strings are where their
text has it that way: a whole double is printed without a point, and the escapes of some
characters are not those that are read.
-/

namespace Reshape.Query

/-! ### Exact values -/

mutual

/-- The doubles and strings of a value are scanned as they were when the value is printed
in a line of the given depth. -/
def Value.PrintsExactly (depth : Nat) : Value → Prop
  | .double x => token? (writeDouble x) = some (.double x, [])
  | .string s => token? (writeString depth s) = some (.string s, [])
  | .list items => Value.ItemsPrintExactly depth items
  | .object fields => Value.FieldsPrintExactly depth fields
  | .variable _ | .integer _ | .bool _ | .null | .enumeration _ => True

def Value.ItemsPrintExactly (depth : Nat) : List Value → Prop
  | [] => True
  | item :: rest => item.PrintsExactly depth ∧ Value.ItemsPrintExactly depth rest

def Value.FieldsPrintExactly (depth : Nat) : List (String × Value) → Prop
  | [] => True
  | (_, value) :: rest => value.PrintsExactly depth ∧ Value.FieldsPrintExactly depth rest

end

/-- The arguments of directives print exactly. -/
def DirectivesPrintExactly (depth : Nat) (directives : List Directive) : Prop :=
  ∀ directive ∈ directives, Value.FieldsPrintExactly depth directive.arguments

mutual

def Selection.PrintsExactly (depth : Nat) : Selection → Prop
  | .field _ _ arguments directives selections =>
      Value.FieldsPrintExactly depth arguments ∧ DirectivesPrintExactly depth directives ∧
        Selection.AllPrintExactly (depth + 1) selections
  | .spread _ directives => DirectivesPrintExactly depth directives
  | .inline _ directives selections =>
      DirectivesPrintExactly depth directives ∧ Selection.AllPrintExactly (depth + 1) selections

def Selection.AllPrintExactly (depth : Nat) : List Selection → Prop
  | [] => True
  | selection :: rest => selection.PrintsExactly depth ∧ Selection.AllPrintExactly depth rest

end

/-- The default values and the arguments of an operation print exactly. -/
def Header.PrintsExactly (header : Header) : Prop :=
  (∀ v ∈ header.declared, ∀ value, v.default? = some value → value.PrintsExactly 0) ∧
    DirectivesPrintExactly 0 header.directives

def Definition.PrintsExactly : Definition → Prop
  | .operation header selections =>
      (∀ h, header = some h → h.PrintsExactly) ∧ Selection.AllPrintExactly 1 selections
  | .fragment _ _ directives selections =>
      DirectivesPrintExactly 0 directives ∧ Selection.AllPrintExactly 1 selections

/-- Every value in a document prints exactly where it stands. -/
def Document.PrintsExactly (document : Document) : Prop :=
  ∀ definition ∈ document, definition.PrintsExactly

/-! ### Values -/

theorem Scans.name {text : String} (name : IsName text) : Scans text.toList [.name text] :=
  .token (token?_name name)

/-- A name in front of a text that separates. -/
theorem Scans.named {name : String} {text : List Char} {tokens : List Token} (isName : IsName name)
    (scans : Scans text tokens) (separates : Separates text) :
    Scans (name.toList ++ text) (.name name :: tokens) :=
  (Scans.name isName).append scans separates

/-- A named value. -/
theorem Scans.entry {name : String} {text : List Char} {tokens : List Token} (isName : IsName name)
    (scans : Scans text tokens) :
    Scans (name.toList ++ ':' :: ' ' :: text) (.name name :: .sign ':' :: tokens) :=
  .named isName (.sign rfl (.separator rfl scans)) (separates_cons.2 rfl)

mutual

theorem scans_writeValue {mayVary : Bool} {room depth : Nat} {v : Value}
    (readable : v.Readable mayVary room) (exact : v.PrintsExactly depth) :
    Scans (writeValue depth v) v.tokens := by
  match v with
  | .variable name => exact .sign rfl (.name readable.2)
  | .integer i => exact .token (token?_integer readable.1 readable.2)
  | .double x => exact .token exact
  | .string s => exact .token exact
  | .bool false => exact .token rfl
  | .bool true => exact .token rfl
  | .null => exact .token rfl
  | .enumeration name => exact .name readable.1
  | .list items => exact .sign rfl (scans_writeItems readable.2 exact)
  | .object fields => exact .sign rfl (scans_writeFields readable.2.2 exact)

theorem scans_writeItems {mayVary : Bool} {room depth : Nat} {items : List Value}
    (readable : Value.ReadableItems mayVary room items)
    (exact : Value.ItemsPrintExactly depth items) :
    Scans (writeItems depth items) (Value.tokensOfItems items ++ [.sign ']']) := by
  match items with
  | [] => exact .sign rfl .nil
  | [item] =>
      have first := scans_writeValue readable.1 exact.1
      rw [Value.tokensOfItems, Value.tokensOfItems, List.append_nil]
      exact first.append (.sign rfl .nil) (separates_cons.2 rfl)
  | item :: second :: others =>
      have first := scans_writeValue readable.1 exact.1
      have rest := scans_writeItems readable.2 exact.2
      rw [Value.tokensOfItems, List.append_assoc]
      exact first.append (.separator rfl (.separator rfl rest)) (separates_cons.2 rfl)

theorem scans_writeFields {mayVary : Bool} {room depth : Nat} {fields : List (String × Value)}
    (readable : Value.ReadableFields mayVary room fields)
    (exact : Value.FieldsPrintExactly depth fields) :
    Scans (writeFields depth fields) (Value.tokensOfFields fields ++ [.sign '\x7d']) := by
  match fields with
  | [] => exact .sign rfl .nil
  | [(name, value)] =>
      have first := Scans.entry readable.1 (scans_writeValue readable.2.1 exact.1)
      rw [Value.tokensOfFields, Value.tokensOfFields, List.append_nil]
      exact first.append (.sign rfl .nil) (separates_cons.2 rfl)
  | (name, value) :: second :: others =>
      have first := Scans.entry readable.1 (scans_writeValue readable.2.1 exact.1)
      have rest := scans_writeFields readable.2.2 exact.2
      rw [Value.tokensOfFields, List.cons_append, List.cons_append, List.append_assoc]
      exact first.append (.separator rfl (.separator rfl rest)) (separates_cons.2 rfl)

end

/-! ### Arguments and directives -/

theorem Scans.separators {blanks text : List Char} {tokens : List Token}
    (all : ∀ c ∈ blanks, isSeparator c = true) (scans : Scans text tokens) :
    Scans (blanks ++ text) tokens := by
  induction blanks with
  | nil => exact scans
  | cons c blanks ih =>
      exact .separator (all c (by simp)) (ih fun d inside => all d (by simp [inside]))

/-- Parts with separators between them. -/
theorem Scans.intercalate {α : Type} {between : List Char} {write : α → List Char}
    {tokens : α → List Token} {parts : List α} (separators : between.all isSeparator = true)
    (separates : ∀ text, Separates (between ++ text))
    (scans : ∀ part ∈ parts, Scans (write part) (tokens part)) :
    Scans (between.intercalate (parts.map write)) (parts.flatMap tokens) := by
  induction parts with
  | nil => exact .nil
  | cons first rest ih =>
      have scansFirst := scans first (by simp)
      have scansRest := ih fun part inside => scans part (by simp [inside])
      cases rest with
      | nil => simpa using scansFirst
      | cons second others =>
          rw [List.map_cons, List.map_cons, List.intercalate_cons_cons, List.append_assoc,
            List.flatMap_cons]
          have separated := scansRest.separators (List.all_eq_true.1 separators)
          exact scansFirst.append separated (separates _)

theorem tokensOfFields_eq_flatMap (fields : List (String × Value)) :
    Value.tokensOfFields fields =
      fields.flatMap fun (name, value) => .name name :: .sign ':' :: value.tokens := by
  induction fields with
  | nil => rfl
  | cons field rest ih => rw [Value.tokensOfFields, ih, List.flatMap_cons]; rfl

/-- Every field of a readable value that prints exactly is scanned. -/
theorem scans_of_mem_fields {mayVary : Bool} {room depth : Nat} {fields : List (String × Value)}
    (readable : Value.ReadableFields mayVary room fields)
    (exact : Value.FieldsPrintExactly depth fields) {name : String} {value : Value}
    (inside : (name, value) ∈ fields) :
    Scans (name.toList ++ ':' :: ' ' :: writeValue depth value)
      (.name name :: .sign ':' :: value.tokens) := by
  induction fields with
  | nil => cases inside
  | cons field rest ih =>
      rcases List.mem_cons.1 inside with rfl | inside
      · exact .entry readable.1 (scans_writeValue readable.2.1 exact.1)
      · exact ih readable.2.2 exact.2 inside

theorem separates_writeArguments (depth : Nat) (arguments : Arguments) :
    Separates (writeArguments depth arguments) := by
  cases arguments with
  | nil => exact separates_nil
  | cons argument rest => exact separates_cons.2 rfl

theorem scans_writeArguments {room depth : Nat} {arguments : Arguments}
    (readable : arguments.Readable room) (exact : Value.FieldsPrintExactly depth arguments) :
    Scans (writeArguments depth arguments) arguments.tokens := by
  cases arguments with
  | nil => exact .nil
  | cons argument rest =>
      have fields := (readable (by simp)).2
      have inner : Scans ([',', ' '].intercalate ((argument :: rest).map fun (name, value) =>
          name.toList ++ ':' :: ' ' :: writeValue depth value))
          (Value.tokensOfFields (argument :: rest)) := by
        rw [tokensOfFields_eq_flatMap]
        apply Scans.intercalate (by decide) fun text => separates_cons.2 rfl
        rintro ⟨name, value⟩ inside
        exact scans_of_mem_fields fields exact inside
      exact .sign rfl (inner.append (.sign rfl .nil) (separates_cons.2 rfl))

theorem separates_writeDirectives (depth : Nat) (directives : List Directive) :
    Separates (writeDirectives depth directives) := by
  cases directives with
  | nil => exact separates_nil
  | cons directive rest => exact separates_cons.2 rfl

theorem scans_writeDirectives {room depth : Nat} {directives : List Directive}
    (readable : ReadableDirectives room directives)
    (exact : DirectivesPrintExactly depth directives) :
    Scans (writeDirectives depth directives) (directives.flatMap Directive.tokens) := by
  induction directives with
  | nil => exact .nil
  | cons directive rest ih =>
      obtain ⟨isName, arguments⟩ := readable directive (by simp)
      have first := scans_writeArguments arguments (exact directive (by simp))
      have others := ih (fun d inside => readable d (by simp [inside]))
        fun d inside => exact d (by simp [inside])
      have name := Scans.named isName first (separates_writeArguments depth directive.arguments)
      have whole : Scans (' ' :: '@' :: _) _ := .separator rfl (.sign rfl name)
      rw [List.flatMap_cons]
      exact whole.append others (separates_writeDirectives depth rest)

/-! ### Selections -/

theorem Scans.indented {depth : Nat} {text : List Char} {tokens : List Token}
    (scans : Scans text tokens) : Scans (indentation depth ++ text) tokens := by
  apply scans.separators
  intro c inside
  rw [List.eq_of_mem_replicate inside]
  rfl

theorem scans_closeBrace (depth : Nat) : Scans (closeBrace depth) [.sign '\x7d'] :=
  .indented (.sign rfl (.separator rfl .nil))

theorem separates_closeBrace (depth : Nat) : Separates (closeBrace depth) := by
  cases depth with
  | zero => exact separates_cons.2 rfl
  | succ depth => exact separates_cons.2 rfl

/-- Text between braces. -/
theorem Scans.braced {depth : Nat} {text : List Char} {tokens : List Token}
    (scans : Scans text tokens) :
    Scans (openBrace ++ text ++ closeBrace depth) (Query.braced tokens) :=
  .sign rfl (.separator rfl (scans.append (scans_closeBrace depth) (separates_closeBrace depth)))

theorem separates_indentation {depth : Nat} (inner : 0 < depth) (text : List Char) :
    Separates (indentation depth ++ text) := by
  cases depth with
  | zero => cases inner
  | succ depth => exact separates_cons.2 rfl

theorem separates_writeSelections {depth : Nat} (inner : 0 < depth) (selections : List Selection) :
    Separates (writeSelections depth selections) := by
  cases selections with
  | nil => exact separates_nil
  | cons selection rest =>
      cases selection <;> simp only [writeSelections, writeSelection, List.append_assoc] <;>
        exact separates_indentation inner _

/-- Directives in front of a text that separates. -/
theorem Scans.directed {room depth : Nat} {directives : List Directive} {text : List Char}
    {tokens : List Token} (readable : ReadableDirectives room directives)
    (exact : DirectivesPrintExactly depth directives) (scans : Scans text tokens)
    (separates : Separates text) :
    Scans (writeDirectives depth directives ++ text)
      (directives.flatMap Directive.tokens ++ tokens) :=
  (scans_writeDirectives readable exact).append scans separates

/-- A field up to where its selections stand. -/
theorem Scans.field {room depth : Nat} {alias? : Option String} {name : String}
    {arguments : Arguments} {directives : List Directive} {text : List Char} {tokens : List Token}
    (aliased : ∀ text, alias? = some text → IsName text) (isName : IsName name)
    (readableArguments : arguments.Readable room)
    (exactArguments : Value.FieldsPrintExactly depth arguments)
    (readableDirectives : ReadableDirectives room directives)
    (exactDirectives : DirectivesPrintExactly depth directives)
    (scans : Scans text tokens) (separates : Separates text) :
    Scans
      (indentation depth ++ (alias?.map fun text => text.toList ++ [':', ' ']).getD [] ++
        name.toList ++ writeArguments depth arguments ++ writeDirectives depth directives ++ text)
      ((alias?.map fun text => [.name text, .sign ':']).getD [] ++
        .name name :: (arguments.tokens ++ (directives.flatMap Directive.tokens ++ tokens))) := by
  have separatesRest := (separates_writeDirectives depth directives).append separates
  have rest := Scans.directed readableDirectives exactDirectives scans separates
  have behind := (scans_writeArguments readableArguments exactArguments).append rest separatesRest
  have separatesBehind := (separates_writeArguments depth arguments).append separatesRest
  have named := behind.named isName separatesBehind
  simp only [List.append_assoc]
  apply Scans.indented
  cases alias? with
  | none => exact named
  | some first =>
      have entry := named.entry (aliased first rfl)
      simpa using entry

theorem isName_on : IsName "on" :=
  ⟨'o', ['n'], rfl, rfl, rfl⟩

/-- The condition of an inline fragment in front of a text that separates. -/
theorem Scans.conditioned {condition : Option String} {text : List Char} {tokens : List Token}
    (isType : ∀ type, condition = some type → IsName type) (scans : Scans text tokens)
    (separates : Separates text) :
    Scans
      ("...".toList ++ ((condition.map fun type => " on ".toList ++ type.toList).getD [] ++ text))
      (.ellipsis :: ((condition.map fun type => [.name "on", .name type]).getD [] ++ tokens)) := by
  apply Scans.ellipsis
  cases condition with
  | none => exact scans
  | some type =>
      have named := Scans.separator (c := ' ') rfl (scans.named (isType type rfl) separates)
      exact .separator rfl (named.named isName_on (separates_cons.2 rfl))

mutual

theorem scans_writeSelection {room depth : Nat} {selection : Selection}
    (readable : selection.Readable room) (exact : selection.PrintsExactly depth) :
    Scans (writeSelection depth selection) selection.tokens := by
  match selection with
  | .field alias? name arguments directives selections =>
      obtain ⟨aliased, isName, readableArguments, readableDirectives, -, readableInner⟩ := readable
      obtain ⟨exactArguments, exactDirectives, exactInner⟩ := exact
      have selected := scans_writeSelections (Nat.succ_pos depth) readableInner exactInner
      cases selections with
      | nil =>
          exact .field aliased isName readableArguments exactArguments readableDirectives
            exactDirectives (.separator rfl .nil) (separates_cons.2 rfl)
      | cons first rest =>
          exact .field aliased isName readableArguments exactArguments readableDirectives
            exactDirectives (.separator rfl selected.braced) (separates_cons.2 rfl)
  | .spread fragment directives =>
      obtain ⟨isName, -, readableDirectives⟩ := readable
      have line := Scans.directed readableDirectives exact (Scans.separator (c := '\n') rfl .nil)
        (separates_cons.2 rfl)
      have text := line.named isName
        ((separates_writeDirectives depth directives).append (separates_cons.2 rfl))
      rw [writeSelection, Selection.tokens, List.append_assoc, List.append_assoc, List.append_assoc]
      simpa using (Scans.ellipsis text).indented
  | .inline condition directives selections =>
      obtain ⟨isType, readableDirectives, -, readableInner⟩ := readable
      have selected := scans_writeSelections (Nat.succ_pos depth) readableInner exact.2
      have braces : Scans (' ' :: (openBrace ++ writeSelections (depth + 1) selections ++
          closeBrace depth)) (braced (Selection.tokensOfAll selections)) :=
        .separator rfl selected.braced
      have rest := Scans.directed readableDirectives exact.1 braces (separates_cons.2 rfl)
      have text := rest.conditioned isType
        ((separates_writeDirectives depth directives).append (separates_cons.2 rfl))
      rw [writeSelection, Selection.tokens]
      simpa using text.indented

theorem scans_writeSelections {room depth : Nat} {selections : List Selection} (inner : 0 < depth)
    (readable : Selection.ReadableAll room selections)
    (exact : Selection.AllPrintExactly depth selections) :
    Scans (writeSelections depth selections) (Selection.tokensOfAll selections) := by
  match selections with
  | [] => exact .nil
  | selection :: rest =>
      have first := scans_writeSelection readable.1 exact.1
      have others := scans_writeSelections inner readable.2 exact.2
      exact first.append others (separates_writeSelections inner rest)

end

/-! ### Definitions -/

theorem scans_writeType {room : Nat} {type : TypeRef} (readable : type.Readable room) :
    Scans type.write type.tokens := by
  match type with
  | .named name => exact .name readable
  | .list item =>
      have inner : Scans item.write item.tokens := scans_writeType readable.2
      exact .sign rfl (inner.append (.sign rfl .nil) (separates_cons.2 rfl))
  | .nonNull (.nonNull _) => cases readable
  | .nonNull (.named name) =>
      have inner : Scans (TypeRef.named name).write (TypeRef.named name).tokens := .name readable
      exact inner.append (.sign rfl .nil) (separates_cons.2 rfl)
  | .nonNull (.list item) =>
      have inner : Scans item.write item.tokens := scans_writeType readable.2
      have list : Scans (TypeRef.list item).write (TypeRef.list item).tokens :=
        .sign rfl (inner.append (.sign rfl .nil) (separates_cons.2 rfl))
      exact list.append (.sign rfl .nil) (separates_cons.2 rfl)

theorem scans_writeVariable {room : Nat} {v : Variable} (readable : v.Readable room)
    (exact : ∀ value, v.default? = some value → value.PrintsExactly 0) :
    Scans v.write v.tokens := by
  obtain ⟨name, type, default?⟩ := v
  obtain ⟨isName, readableType, readableDefault⟩ := readable
  have typed := scans_writeType readableType
  rw [Variable.write, Variable.tokens, List.append_assoc]
  cases default? with
  | none =>
      exact .sign rfl (.entry isName (by simpa using typed))
  | some value =>
      have written := scans_writeValue (readableDefault value rfl) (exact value rfl)
      have spaced := Scans.separator (c := ' ') rfl written
      have equals := Scans.separator (c := ' ') rfl (.sign (c := '=') rfl spaced)
      have declared := typed.append equals (separates_cons.2 rfl)
      exact .sign rfl (declared.entry isName)

theorem scans_writeVariables {room : Nat} {declared : List Variable}
    (readable : declared ≠ [] → 0 < room ∧ ∀ v ∈ declared, v.Readable (room - 1))
    (exact : ∀ v ∈ declared, ∀ value, v.default? = some value → value.PrintsExactly 0) :
    Scans (if declared.isEmpty then []
      else '(' :: [',', ' '].intercalate (declared.map Variable.write) ++ [')'])
      (Variable.tokensOfAll declared) := by
  cases declared with
  | nil => exact .nil
  | cons v rest =>
      have inner : Scans ([',', ' '].intercalate ((v :: rest).map Variable.write))
          ((v :: rest).flatMap Variable.tokens) := by
        apply Scans.intercalate (by decide) fun text => separates_cons.2 rfl
        intro other inside
        exact scans_writeVariable ((readable (by simp)).2 other inside) (exact other inside)
      exact .sign rfl (inner.append (.sign rfl .nil) (separates_cons.2 rfl))

theorem separates_writeVariables (declared : List Variable) :
    Separates (if declared.isEmpty then []
      else '(' :: [',', ' '].intercalate (declared.map Variable.write) ++ [')']) := by
  cases declared with
  | nil => exact separates_nil
  | cons v rest => exact separates_cons.2 rfl

theorem isName_word (kind : OperationKind) : IsName kind.word := by
  cases kind with
  | query => exact ⟨'q', _, rfl, rfl, rfl⟩
  | mutation => exact ⟨'m', _, rfl, rfl, rfl⟩
  | subscription => exact ⟨'s', _, rfl, rfl, rfl⟩

theorem scans_writeHeader {room : Nat} {header : Header} (readable : header.Readable room)
    (exact : header.PrintsExactly) : Scans header.write header.tokens := by
  obtain ⟨kind, name, declared, directives⟩ := header
  obtain ⟨isName, readableDeclared, readableDirectives⟩ := readable
  have separatesDirectives := separates_writeDirectives 0 directives
  have directed := scans_writeDirectives readableDirectives exact.2
  have behind := (scans_writeVariables readableDeclared exact.1).append directed separatesDirectives
  have separates := (separates_writeVariables declared).append separatesDirectives
  simp only [Header.write, List.append_assoc]
  cases name with
  | none => exact behind.named (isName_word kind) separates
  | some text =>
      have named := behind.named (isName text rfl) separates
      exact .named (isName_word kind) (.separator rfl named) (separates_cons.2 rfl)

theorem scans_writeBlock {room : Nat} {selections : List Selection}
    (readable : Selection.ReadableAll room selections)
    (exact : Selection.AllPrintExactly 1 selections) :
    Scans (writeBlock selections) (braced (Selection.tokensOfAll selections)) :=
  (scans_writeSelections Nat.one_pos readable exact).braced

theorem write_fragment (name condition : String) (directives : List Directive)
    (selections : List Selection) :
    (Definition.fragment name condition directives selections).write =
      "fragment".toList ++ ' ' :: (name.toList ++ ' ' :: ("on".toList ++ ' ' ::
        (condition.toList ++ (writeDirectives 0 directives ++ ' ' :: writeBlock selections)))) := by
  change "fragment ".toList ++ name.toList ++ " on ".toList ++ condition.toList ++
    writeDirectives 0 directives ++ ' ' :: writeBlock selections = _
  simp

theorem scans_writeDefinition {room : Nat} {definition : Definition}
    (readable : definition.Readable room) (exact : definition.PrintsExactly) :
    Scans definition.write definition.tokens := by
  match definition with
  | .operation none selections => exact scans_writeBlock readable.2.2 exact.2
  | .operation (some header) selections =>
      have head := scans_writeHeader (readable.1 header rfl) (exact.1 header rfl)
      have block := scans_writeBlock readable.2.2 exact.2
      exact head.append (.separator rfl block) (separates_cons.2 rfl)
  | .fragment name condition directives selections =>
      obtain ⟨isName, isType, readableDirectives, -, readableInner⟩ := readable
      have block := Scans.separator (c := ' ') rfl (scans_writeBlock readableInner exact.2)
      have rest := Scans.directed readableDirectives exact.1 block (separates_cons.2 rfl)
      have typed := Scans.separator (c := ' ') rfl
        (rest.named isType ((separates_writeDirectives 0 directives).append (separates_cons.2 rfl)))
      have condition := Scans.separator (c := ' ') rfl
        (typed.named isName_on (separates_cons.2 rfl))
      have named := Scans.separator (c := ' ') rfl (condition.named isName (separates_cons.2 rfl))
      have word : IsName "fragment" := ⟨'f', _, rfl, rfl, rfl⟩
      rw [write_fragment]
      exact named.named word (separates_cons.2 rfl)

/-- A readable document whose values print exactly is scanned as its tokens. -/
theorem lex_write {room : Nat} {document : Document}
    (readable : ∀ definition ∈ document, definition.Readable room)
    (exact : document.PrintsExactly) : lex document.write.toList = some document.tokens := by
  rw [Document.write, String.toList_ofList]
  apply Scans.lex_eq
  apply Scans.intercalate (by decide) fun text => separates_cons.2 rfl
  intro definition inside
  exact scans_writeDefinition (readable definition inside) (exact definition inside)

end Reshape.Query
