/-
Module: Reshape.Proofs.Query.Rereading
Purpose: the tokens of a readable document are read as the document if something is
  selected everywhere, and as nothing otherwise.
Main exports: Query.readDefinitions_tokens
Trusted boundary: the parser and the printer of query documents that the program is given, for
  which those here stand
-/
import Reshape.Proofs.Query.Tokens

/-!
# Reading the tokens of a document

Every reader finds the part whose tokens are in front and leaves the tokens behind them. Its
steps are paid for by the tokens: a value takes no more steps than it has tokens, and a
selection no more than four for every token. Braces with nothing between them are the only
tokens of a readable document that no reader accepts.
-/

namespace Reshape.Query

/-! ### Values -/

/-- A field whose name is larger than the names before comes last. -/
theorem insertField_eq_append {name : String} {value : Value} {fields : List (String × Value)}
    (larger : ∀ field ∈ fields, field.1 < name) :
    insertField name value fields = fields ++ [(name, value)] := by
  induction fields with
  | nil => rfl
  | cons field rest ih =>
      have before : field.1 < name := larger field (by simp)
      have notSmaller : ¬name < field.1 := String.lt_asymm before
      have different : name ≠ field.1 := by
        intro same
        exact String.lt_irrefl name (same ▸ before)
      rw [insertField, if_neg notSmaller, if_neg different,
        ih fun other inside => larger other (by simp [inside])]
      rfl

theorem tokens_pos (v : Value) : 0 < v.tokens.length := by
  cases v <;> simp [Value.tokens]

/-- A value does not begin with a closing bracket. -/
theorem tokens_append_ne_closing (v : Value) (rest more : List Token) :
    v.tokens ++ rest ≠ .sign ']' :: more := by
  cases v <;> simp [Value.tokens]

mutual

theorem readValue_tokens {mayVary : Bool} {room fuel : Nat} {v : Value} {rest : List Token}
    (readable : v.Readable mayVary room) (enough : v.tokens.length ≤ fuel) :
    readValue mayVary fuel (v.tokens ++ rest) = some (v, rest) := by
  obtain _ | fuel := fuel
  · exact absurd enough (Nat.not_le.2 (tokens_pos v))
  match v with
  | .variable name =>
      obtain ⟨rfl, -⟩ := readable
      rfl
  | .integer _ | .double _ | .string _ | .null => rfl
  | .bool false | .bool true => rfl
  | .enumeration name =>
      obtain ⟨-, notTrue, notFalse, notNull⟩ := readable
      rw [Value.tokens, List.singleton_append, readValue]
      · exact notTrue
      · exact notFalse
      · exact notNull
  | .list items =>
      simp only [Value.tokens, List.length_cons, List.length_append, List.length_nil] at enough
      have inner : readItems mayVary fuel (Value.tokensOfItems items ++ .sign ']' :: rest) =
          some (items, rest) :=
        readItems_tokens readable.2 (by omega)
      simp [Value.tokens, readValue, inner]
  | .object fields =>
      simp only [Value.tokens, List.length_cons, List.length_append, List.length_nil] at enough
      have inner :
          readFields mayVary [] fuel (Value.tokensOfFields fields ++ .sign '\x7d' :: rest) =
            some ([] ++ fields, rest) :=
        readFields_tokens readable.2.2 readable.2.1 (by omega)
      simp [Value.tokens, readValue, inner]

theorem readItems_tokens {mayVary : Bool} {room fuel : Nat} {items : List Value}
    {rest : List Token} (readable : Value.ReadableItems mayVary room items)
    (enough : (Value.tokensOfItems items).length < fuel) :
    readItems mayVary fuel (Value.tokensOfItems items ++ .sign ']' :: rest) =
      some (items, rest) := by
  obtain _ | fuel := fuel
  · cases enough
  match items with
  | [] => rfl
  | item :: others =>
      simp only [Value.tokensOfItems, List.length_append] at enough
      have positive := tokens_pos item
      have first : readValue mayVary fuel
          (item.tokens ++ (Value.tokensOfItems others ++ .sign ']' :: rest)) =
          some (item, Value.tokensOfItems others ++ .sign ']' :: rest) :=
        readValue_tokens readable.1 (by omega)
      have inner : readItems mayVary fuel (Value.tokensOfItems others ++ .sign ']' :: rest) =
          some (others, rest) :=
        readItems_tokens readable.2 (by omega)
      rw [Value.tokensOfItems, List.append_assoc, readItems, first]
      · simp [inner]
      · exact fun _ => tokens_append_ne_closing item _ _

theorem readFields_tokens {mayVary : Bool} {room fuel : Nat} {known fields : List (String × Value)}
    {rest : List Token} (readable : Value.ReadableFields mayVary room fields)
    (sorted : SortedFields (known ++ fields))
    (enough : (Value.tokensOfFields fields).length < fuel) :
    readFields mayVary known fuel (Value.tokensOfFields fields ++ .sign '\x7d' :: rest) =
      some (known ++ fields, rest) := by
  obtain _ | fuel := fuel
  · cases enough
  match fields with
  | [] =>
      simp [Value.tokensOfFields, readFields]
  | (name, value) :: others =>
      simp only [Value.tokensOfFields, List.length_cons, List.length_append] at enough
      have first : readValue mayVary fuel
          (value.tokens ++ (Value.tokensOfFields others ++ .sign '\x7d' :: rest)) =
          some (value, Value.tokensOfFields others ++ .sign '\x7d' :: rest) :=
        readValue_tokens readable.2.1 (by omega)
      have larger : ∀ field ∈ known, field.1 < name := by
        intro field inside
        rw [SortedFields, List.map_append, List.pairwise_append] at sorted
        exact sorted.2.2 field.1 (List.mem_map_of_mem inside) name (by simp)
      have sortedRest : SortedFields (known ++ [(name, value)] ++ others) := by
        simpa using sorted
      have inner : readFields mayVary (known ++ [(name, value)]) fuel
          (Value.tokensOfFields others ++ .sign '\x7d' :: rest) =
          some (known ++ [(name, value)] ++ others, rest) :=
        readFields_tokens readable.2.2 sortedRest (by omega)
      rw [Value.tokensOfFields]
      unfold readFields
      simp [first, insertField_eq_append larger, inner]

end

/-! ### Arguments and directives -/

/-- A sign does not stand in front. -/
def Lacks (c : Char) (tokens : List Token) : Prop :=
  ∀ more, tokens ≠ .sign c :: more

theorem lacks_sign {c d : Char} {rest : List Token} (different : d ≠ c) :
    Lacks c (.sign d :: rest) := by
  intro more same
  cases same
  exact different rfl

theorem lacks_cons {c : Char} {token : Token} {rest : List Token}
    (noSign : ∀ d, token ≠ .sign d) : Lacks c (token :: rest) := by
  intro more same
  cases same
  exact noSign c rfl

theorem readArgumentsTail_tokens {room fuel : Nat} {arguments : Arguments} {rest : List Token}
    (readable : Value.ReadableFields true room arguments)
    (enough : (Value.tokensOfFields arguments).length < fuel) :
    readArgumentsTail fuel (Value.tokensOfFields arguments ++ .sign ')' :: rest) =
      some (arguments, rest) := by
  induction arguments generalizing fuel with
  | nil =>
      obtain _ | fuel := fuel
      · cases enough
      · rfl
  | cons argument others ih =>
      obtain ⟨name, value⟩ := argument
      obtain _ | fuel := fuel
      · cases enough
      simp only [Value.tokensOfFields, List.length_cons, List.length_append] at enough
      have first : readValue true fuel
          (value.tokens ++ (Value.tokensOfFields others ++ .sign ')' :: rest)) =
          some (value, Value.tokensOfFields others ++ .sign ')' :: rest) :=
        readValue_tokens readable.2.1 (by omega)
      have inner : readArgumentsTail fuel (Value.tokensOfFields others ++ .sign ')' :: rest) =
          some (others, rest) :=
        ih readable.2.2 (by omega)
      simp [Value.tokensOfFields, readArgumentsTail, first, inner]

theorem readArguments_tokens {room fuel : Nat} {arguments : Arguments} {rest : List Token}
    (readable : arguments.Readable room) (enough : arguments.tokens.length < fuel)
    (lacks : Lacks '(' rest) :
    readArguments fuel (arguments.tokens ++ rest) = some (arguments, rest) := by
  cases arguments with
  | nil =>
      rw [Arguments.tokens, List.isEmpty_nil, if_pos rfl, List.nil_append]
      unfold readArguments
      split
      · exact absurd rfl (lacks _)
      · exact absurd rfl (lacks _)
      · rfl
  | cons argument others =>
      have tail : readArgumentsTail fuel
          (Value.tokensOfFields (argument :: others) ++ .sign ')' :: rest) =
          some (argument :: others, rest) := by
        apply readArgumentsTail_tokens (readable (by simp)).2
        simp [Arguments.tokens] at enough
        omega
      simpa [Arguments.tokens, Value.tokensOfFields, readArguments] using tail

theorem readDirectives_tokens {room fuel : Nat} {directives : List Directive} {rest : List Token}
    (readable : ReadableDirectives room directives)
    (enough : (directives.flatMap Directive.tokens).length < fuel)
    (lacksArguments : Lacks '(' rest) (lacksDirective : Lacks '@' rest) :
    readDirectives fuel (directives.flatMap Directive.tokens ++ rest) =
      some (directives, rest) := by
  induction directives generalizing fuel with
  | nil =>
      obtain _ | fuel := fuel
      · cases enough
      rw [List.flatMap_nil, List.nil_append]
      unfold readDirectives
      split
      · exact absurd rfl (lacksDirective _)
      · exact absurd rfl (lacksDirective _)
      · rfl
  | cons directive others ih =>
      obtain _ | fuel := fuel
      · cases enough
      obtain ⟨name, arguments⟩ := directive
      simp only [List.flatMap_cons, Directive.tokens, List.length_append,
        List.length_cons] at enough
      have lacks : Lacks '(' (others.flatMap Directive.tokens ++ rest) := by
        cases others with
        | nil => exact lacksArguments
        | cons second others => exact lacks_sign (by decide)
      have first : readArguments fuel
          (arguments.tokens ++ (others.flatMap Directive.tokens ++ rest)) =
          some (arguments, others.flatMap Directive.tokens ++ rest) :=
        readArguments_tokens (readable _ (List.mem_cons_self ..)).2 (by omega) lacks
      have readableOthers : ReadableDirectives room others := by
        intro other inside
        exact readable other (by simp [inside])
      have inner : readDirectives fuel (others.flatMap Directive.tokens ++ rest) =
          some (others, rest) :=
        ih readableOthers (by omega)
      simp [Directive.tokens, readDirectives, first, inner]

/-! ### Types and variables -/

theorem withMark_of_lacks {type : TypeRef} {rest : List Token} (lacks : Lacks '!' rest) :
    withMark type rest = (type, rest) := by
  unfold withMark
  split
  · exact absurd rfl (lacks _)
  · rfl

theorem type_tokens_pos (type : TypeRef) : 0 < type.tokens.length := by
  cases type <;> simp [TypeRef.tokens]

theorem readType_tokens {room fuel : Nat} {type : TypeRef} {rest : List Token}
    (readable : type.Readable room) (enough : type.tokens.length ≤ fuel) (lacks : Lacks '!' rest) :
    readType fuel (type.tokens ++ rest) = some (type, rest) := by
  obtain _ | fuel := fuel
  · exact absurd enough (Nat.not_le.2 (type_tokens_pos type))
  match type with
  | .named name => simp [TypeRef.tokens, readType, withMark_of_lacks lacks]
  | .nonNull (.named name) => simp [TypeRef.tokens, readType, withMark]
  | .nonNull (.nonNull _) => cases readable
  | .list item =>
      simp only [TypeRef.tokens, List.length_cons, List.length_append, List.length_nil] at enough
      have inner : readType fuel (item.tokens ++ .sign ']' :: rest) =
          some (item, .sign ']' :: rest) :=
        readType_tokens readable.2 (by omega) (lacks_sign (by decide))
      simp [TypeRef.tokens, readType, inner, withMark_of_lacks lacks]
  | .nonNull (.list item) =>
      simp only [TypeRef.tokens, List.length_cons, List.length_append, List.length_nil] at enough
      have inner : readType fuel (item.tokens ++ .sign ']' :: .sign '!' :: rest) =
          some (item, .sign ']' :: .sign '!' :: rest) :=
        readType_tokens readable.2 (by omega) (lacks_sign (by decide))
      simp [TypeRef.tokens, readType, inner, withMark]

theorem readDefault_tokens {room fuel : Nat} {default? : Option Value} {rest : List Token}
    (readable : ∀ value, default? = some value → value.Readable false room)
    (enough : ((default?.map fun value => .sign '=' :: value.tokens).getD []).length ≤ fuel)
    (lacks : Lacks '=' rest) :
    readDefault fuel ((default?.map fun value => .sign '=' :: value.tokens).getD [] ++ rest) =
      some (default?, rest) := by
  cases default? with
  | none =>
      rw [Option.map_none, Option.getD_none, List.nil_append]
      unfold readDefault
      split
      · exact absurd rfl (lacks _)
      · rfl
  | some value =>
      simp only [Option.map_some, Option.getD_some, List.length_cons] at enough
      have read : readValue false fuel (value.tokens ++ rest) = some (value, rest) :=
        readValue_tokens (readable value rfl) (by omega)
      simp [readDefault, read]

theorem readVariablesTail_tokens {room fuel : Nat} {declared : List Variable} {rest : List Token}
    (readable : ∀ v ∈ declared, v.Readable room)
    (enough : (declared.flatMap Variable.tokens).length < fuel) :
    readVariablesTail fuel (declared.flatMap Variable.tokens ++ .sign ')' :: rest) =
      some (declared, rest) := by
  induction declared generalizing fuel with
  | nil =>
      obtain _ | fuel := fuel
      · cases enough
      · rfl
  | cons v others ih =>
      obtain _ | fuel := fuel
      · cases enough
      obtain ⟨name, type, default?⟩ := v
      obtain ⟨-, readableType, readableDefault⟩ := readable _ (List.mem_cons_self ..)
      simp only [List.flatMap_cons, Variable.tokens, List.length_append, List.length_cons] at enough
      have separated : Lacks '!' (others.flatMap Variable.tokens ++ .sign ')' :: rest) ∧
          Lacks '=' (others.flatMap Variable.tokens ++ .sign ')' :: rest) := by
        cases others with
        | nil => exact ⟨lacks_sign (by decide), lacks_sign (by decide)⟩
        | cons second others => exact ⟨lacks_sign (by decide), lacks_sign (by decide)⟩
      have lacksMark : Lacks '!' ((default?.map fun value => .sign '=' :: value.tokens).getD [] ++
          (others.flatMap Variable.tokens ++ .sign ')' :: rest)) := by
        cases default? with
        | none => exact separated.1
        | some value => exact lacks_sign (by decide)
      have typed : readType fuel (type.tokens ++ _) = some (type, _) :=
        readType_tokens readableType (by omega) lacksMark
      have default : readDefault fuel
          ((default?.map fun value => .sign '=' :: value.tokens).getD [] ++ _) =
            some (default?, _) :=
        readDefault_tokens readableDefault (by omega) separated.2
      have readableOthers : ∀ v ∈ others, v.Readable room := by
        intro other inside
        exact readable other (List.mem_cons_of_mem _ inside)
      have inner : readVariablesTail fuel (others.flatMap Variable.tokens ++ .sign ')' :: rest) =
          some (others, rest) :=
        ih readableOthers (by omega)
      simp [Variable.tokens, readVariablesTail, typed, default, inner]

theorem readVariables_tokens {room fuel : Nat} {declared : List Variable} {rest : List Token}
    (readable : declared ≠ [] → 0 < room ∧ ∀ v ∈ declared, v.Readable (room - 1))
    (enough : (Variable.tokensOfAll declared).length < fuel) (lacks : Lacks '(' rest) :
    readVariables fuel (Variable.tokensOfAll declared ++ rest) = some (declared, rest) := by
  cases declared with
  | nil =>
      rw [Variable.tokensOfAll, List.isEmpty_nil, if_pos rfl, List.nil_append]
      unfold readVariables
      split
      · exact absurd rfl (lacks _)
      · exact absurd rfl (lacks _)
      · rfl
  | cons v others =>
      have tail : readVariablesTail fuel
          ((v :: others).flatMap Variable.tokens ++ .sign ')' :: rest) =
            some (v :: others, rest) := by
        apply readVariablesTail_tokens (readable (by simp)).2
        simp [Variable.tokensOfAll] at enough
        simp
        omega
      simpa [Variable.tokensOfAll, Variable.tokens, readVariables] using tail

/-! ### Selections -/

/-- Another selection or the closing brace stands in front. -/
def EndsSelection : List Token → Prop
  | .name _ :: _ | .ellipsis :: _ => True
  | .sign c :: _ => c = '\x7d'
  | _ => False

theorem EndsSelection.lacks {c : Char} {rest : List Token} (ends : EndsSelection rest)
    (different : c ≠ '\x7d') : Lacks c rest := by
  rintro more rfl
  exact different ends

theorem endsSelection_tokensOfAll (selections : List Selection) (rest : List Token) :
    EndsSelection (Selection.tokensOfAll selections ++ .sign '\x7d' :: rest) := by
  match selections with
  | [] => exact rfl
  | .field none _ _ _ _ :: _ | .field (some _) _ _ _ _ :: _ => trivial
  | .spread _ _ :: _ | .inline _ _ _ :: _ => trivial

/-- The tokens of the selections between braces are read as the selections, if something is
selected there and in every inline fragment. -/
def ReadsAll (fuel : Nat) (selections : List Selection) : Prop :=
  ∀ rest, readSelections fuel (Selection.tokensOfAll selections ++ .sign '\x7d' :: rest) =
    if !selections.isEmpty && Selection.filledAll selections then some (selections, rest) else none

theorem braced_append (inner rest : List Token) :
    braced inner ++ rest = .sign '\x7b' :: (inner ++ .sign '\x7d' :: rest) := by
  simp [braced]

/-- The tokens of the selections of a field. -/
def selectedTokens (selections : List Selection) : List Token :=
  if selections.isEmpty then [] else braced (Selection.tokensOfAll selections)

theorem tokens_field (alias? : Option String) (name : String) (arguments : Arguments)
    (directives : List Directive) (selections : List Selection) :
    (Selection.field alias? name arguments directives selections).tokens =
      (alias?.map fun text => [.name text, .sign ':']).getD [] ++ .name name ::
        (arguments.tokens ++ (directives.flatMap Directive.tokens ++ selectedTokens selections)) :=
  rfl

theorem length_tokensOfAll_le (selections : List Selection) :
    (Selection.tokensOfAll selections).length ≤ (selectedTokens selections).length := by
  cases selections with
  | nil => exact Nat.le_refl 0
  | cons selection others =>
      simp only [selectedTokens, List.isEmpty_cons, Bool.false_eq_true, if_false, braced,
        List.length_cons, List.length_append]
      omega

theorem lacks_arguments {c : Char} {rest : List Token} (arguments : Arguments) (different : '(' ≠ c)
    (lacks : Lacks c rest) : Lacks c (arguments.tokens ++ rest) := by
  cases arguments with
  | nil => exact lacks
  | cons argument others => exact lacks_sign different

theorem lacks_directives {c : Char} {rest : List Token} (directives : List Directive)
    (different : '@' ≠ c) (lacks : Lacks c rest) :
    Lacks c (directives.flatMap Directive.tokens ++ rest) := by
  cases directives with
  | nil => exact lacks
  | cons directive others => exact lacks_sign different

theorem lacks_selected {c : Char} {rest : List Token} (selections : List Selection)
    (different : '\x7b' ≠ c) (lacks : Lacks c rest) :
    Lacks c (selectedTokens selections ++ rest) := by
  cases selections with
  | nil => exact lacks
  | cons selection others => exact lacks_sign different

theorem readField_tokens {room fuel : Nat} {alias? : Option String} {name : String}
    {arguments : Arguments} {directives : List Directive} {selections : List Selection}
    {rest : List Token} (readableArguments : arguments.Readable room)
    (readableDirectives : ReadableDirectives room directives)
    (enough : arguments.tokens.length + (directives.flatMap Directive.tokens).length < fuel)
    (readsAll : ReadsAll fuel selections) (ends : EndsSelection rest) :
    readField alias? name (fuel + 1) (arguments.tokens ++ (directives.flatMap Directive.tokens ++
        (selectedTokens selections ++ rest))) =
      if Selection.filledAll selections then
        some (.field alias? name arguments directives selections, rest)
      else none := by
  have lacksParenthesis : Lacks '(' (selectedTokens selections ++ rest) :=
    lacks_selected selections (by decide) (ends.lacks (by decide))
  have lacksDirective : Lacks '@' (selectedTokens selections ++ rest) :=
    lacks_selected selections (by decide) (ends.lacks (by decide))
  have first : readArguments fuel (arguments.tokens ++ _) = some (arguments, _) :=
    readArguments_tokens readableArguments (by omega)
      (lacks_directives directives (by decide) lacksParenthesis)
  have second : readDirectives fuel (directives.flatMap Directive.tokens ++ _) =
      some (directives, _) :=
    readDirectives_tokens readableDirectives (by omega) lacksParenthesis lacksDirective
  simp only [readField, first, second]
  cases selections with
  | nil =>
      simp only [selectedTokens, List.isEmpty_nil, if_true, List.nil_append, Selection.filledAll]
      split
      · next inner => exact absurd rfl (ends.lacks (by decide) inner)
      · rfl
  | cons selection others =>
      have inner := readsAll rest
      simp only [List.isEmpty_cons, Bool.not_false, Bool.true_and] at inner
      simp only [selectedTokens, List.isEmpty_cons, Bool.false_eq_true, if_false, braced_append,
        inner]
      split <;> rfl

theorem readInline_tokens {room fuel : Nat} {condition : Option String}
    {directives : List Directive} {selections : List Selection} {rest : List Token}
    (readable : ReadableDirectives room directives)
    (enough : (directives.flatMap Directive.tokens).length < fuel)
    (readsAll : ReadsAll fuel selections) :
    readInline condition (fuel + 1) (directives.flatMap Directive.tokens ++
        (braced (Selection.tokensOfAll selections) ++ rest)) =
      if !selections.isEmpty && Selection.filledAll selections then
        some (.inline condition directives selections, rest)
      else none := by
  have first : readDirectives fuel (directives.flatMap Directive.tokens ++
      (braced (Selection.tokensOfAll selections) ++ rest)) =
      some (directives, braced (Selection.tokensOfAll selections) ++ rest) :=
    readDirectives_tokens readable enough (lacks_sign (by decide)) (lacks_sign (by decide))
  simp only [readInline, first]
  simp only [braced_append, readsAll rest]
  split <;> rfl

theorem selection_tokens_pos (selection : Selection) : 0 < selection.tokens.length := by
  cases selection <;> simp only [Selection.tokens, List.length_append, List.length_cons] <;> omega

/-- A selection does not begin with a closing brace. -/
theorem lacks_closing (selection : Selection) (others : List Selection) (rest : List Token) :
    Lacks '\x7d' (Selection.tokensOfAll (selection :: others) ++ rest) := by
  match selection with
  | .field none _ _ _ _ | .field (some _) _ _ _ _ => exact lacks_cons (by simp)
  | .spread _ _ | .inline _ _ _ => exact lacks_cons (by simp)

mutual

theorem readSelection_tokens {room fuel : Nat} {selection : Selection} {rest : List Token}
    (readable : selection.Readable room) (enough : 4 * selection.tokens.length ≤ fuel + 1)
    (ends : EndsSelection rest) :
    readSelection fuel (selection.tokens ++ rest) =
      if selection.filled then some (selection, rest) else none := by
  match selection with
  | .field alias? name arguments directives selections =>
      obtain ⟨-, -, readableArguments, readableDirectives, -, readableInner⟩ := readable
      have shorter := length_tokensOfAll_le selections
      rw [tokens_field] at enough ⊢
      simp only [List.length_append, List.length_cons] at enough
      obtain _ | _ | fuel := fuel
      · omega
      · omega
      have readsAll : ReadsAll fuel selections := readSelections_tokens readableInner (by omega)
      have read : ∀ alias?, readField alias? name (fuel + 1) (arguments.tokens ++
          (directives.flatMap Directive.tokens ++ (selectedTokens selections ++ rest))) =
          if Selection.filledAll selections then
            some (.field alias? name arguments directives selections, rest)
          else none := by
        intro alias?
        exact readField_tokens readableArguments readableDirectives (by omega) readsAll ends
      simp only [List.append_assoc, List.cons_append, Selection.filled]
      cases alias? with
      | none =>
          have lacks : Lacks ':' (arguments.tokens ++ (directives.flatMap Directive.tokens ++
              (selectedTokens selections ++ rest))) :=
            lacks_arguments arguments (by decide) (lacks_directives directives (by decide)
              (lacks_selected selections (by decide) (ends.lacks (by decide))))
          rw [Option.map_none, Option.getD_none, List.nil_append, readSelection, read none]
          · rfl
          · intro second more same
            exact lacks _ same
          · intro more same
            exact lacks _ same
      | some first => exact read (some first)
  | .spread fragment directives =>
      obtain ⟨-, notOn, readableDirectives⟩ := readable
      simp only [Selection.tokens, List.length_cons] at enough
      obtain _ | fuel := fuel
      · omega
      have read : readDirectives fuel (directives.flatMap Directive.tokens ++ rest) =
          some (directives, rest) :=
        readDirectives_tokens readableDirectives (by omega) (ends.lacks (by decide))
          (ends.lacks (by decide))
      simp [Selection.tokens, readSelection, read, notOn, Selection.filled]
  | .inline condition directives selections =>
      obtain ⟨-, readableDirectives, -, readableInner⟩ := readable
      simp only [Selection.tokens, braced, List.length_append, List.length_cons,
        List.length_nil] at enough
      obtain _ | _ | fuel := fuel
      · omega
      · omega
      have readsAll : ReadsAll fuel selections := readSelections_tokens readableInner (by omega)
      have read : ∀ condition, readInline condition (fuel + 1)
          (directives.flatMap Directive.tokens ++
            (braced (Selection.tokensOfAll selections) ++ rest)) =
          if !selections.isEmpty && Selection.filledAll selections then
            some (.inline condition directives selections, rest)
          else none := by
        intro condition
        exact readInline_tokens readableDirectives (by omega) readsAll
      simp only [Selection.tokens, List.append_assoc, List.cons_append, Selection.filled]
      cases condition with
      | none =>
          -- A sign follows the dots, so they begin neither a spread nor a condition.
          have noName : ∀ text more, directives.flatMap Directive.tokens ++
              (braced (Selection.tokensOfAll selections) ++ rest) ≠ .name text :: more := by
            intro text more
            cases directives <;> simp [braced, Directive.tokens]
          rw [Option.map_none, Option.getD_none, List.nil_append, readSelection, read none]
          · rfl
          · intro condition more same
            exact noName _ _ same
          · intro more same
            exact noName _ _ same
          · intro fragment more same
            exact noName _ _ same
      | some type => exact read (some type)

theorem readSelections_tokens {room fuel : Nat} {selections : List Selection}
    (readable : Selection.ReadableAll room selections)
    (enough : 4 * (Selection.tokensOfAll selections).length ≤ fuel) :
    ReadsAll fuel selections := by
  intro rest
  match selections with
  | [] =>
      obtain _ | _ | fuel := fuel
      · rfl
      · rfl
      · rfl
  | selection :: others =>
      simp only [Selection.tokensOfAll, List.length_append] at enough
      have positive := selection_tokens_pos selection
      obtain _ | fuel := fuel
      · omega
      have first : readSelection fuel (selection.tokens ++ _) =
          if selection.filled then some (selection, _) else none :=
        readSelection_tokens readable.1 (by omega) (endsSelection_tokensOfAll others rest)
      have inner : ReadsAll fuel others := readSelections_tokens readable.2 (by omega)
      rw [Selection.tokensOfAll, List.append_assoc, readSelections, first]
      cases filled : selection.filled with
      | false => simp [Selection.filledAll, filled]
      | true =>
          cases others with
          | nil => simp [Selection.tokensOfAll, Selection.filledAll, filled]
          | cons second others =>
              simp only [if_true]
              split
              · next closed => exact absurd closed (lacks_closing second others _ _)
              · rw [inner rest]
                cases rest : Selection.filledAll (second :: others) <;>
                  simp [Selection.filledAll.eq_2 selection, filled, rest]

end

/-! ### Definitions -/

theorem readSelectionSet_tokens {fuel : Nat} {selections : List Selection}
    (readsAll : ReadsAll fuel selections) (rest : List Token) :
    readSelectionSet fuel (braced (Selection.tokensOfAll selections) ++ rest) =
      if !selections.isEmpty && Selection.filledAll selections then some (selections, rest)
      else none := by
  rw [braced_append]
  exact readsAll rest

theorem readOptionalName_tokens {name : Option String} {rest : List Token}
    (noName : ∀ text more, rest ≠ .name text :: more) :
    readOptionalName ((name.map fun text => [.name text]).getD [] ++ rest) = (name, rest) := by
  cases name with
  | none =>
      rw [Option.map_none, Option.getD_none, List.nil_append]
      unfold readOptionalName
      split
      · exact absurd rfl (noName _ _)
      · rfl
  | some text => rfl

theorem readOperation_tokens {room fuel : Nat} {header : Header} {selections : List Selection}
    (readable : header.Readable room) (enough : header.tokens.length ≤ fuel)
    (readsAll : ReadsAll fuel selections) (rest : List Token) :
    readOperation fuel header.kind (header.tokens.tail ++
        (braced (Selection.tokensOfAll selections) ++ rest)) =
      if !selections.isEmpty && Selection.filledAll selections then
        some (.operation (some header) selections, rest)
      else none := by
  obtain ⟨kind, name, declared, directives⟩ := header
  obtain ⟨-, readableDeclared, readableDirectives⟩ := readable
  simp only at readableDeclared readableDirectives
  simp only [Header.tokens, List.length_cons, List.length_append] at enough
  have lacksParenthesis : Lacks '(' (directives.flatMap Directive.tokens ++
      (braced (Selection.tokensOfAll selections) ++ rest)) :=
    lacks_directives directives (by decide) (lacks_sign (by decide))
  have noName : ∀ text more, Variable.tokensOfAll declared ++
      (directives.flatMap Directive.tokens ++
        (braced (Selection.tokensOfAll selections) ++ rest)) ≠ .name text :: more := by
    intro text more
    cases declared <;> cases directives <;> simp [braced, Directive.tokens, Variable.tokensOfAll]
  have first : readOptionalName ((name.map fun text => [.name text]).getD [] ++ _) = (name, _) :=
    readOptionalName_tokens noName
  have second : readVariables fuel (Variable.tokensOfAll declared ++ _) = some (declared, _) :=
    readVariables_tokens readableDeclared (by omega) lacksParenthesis
  have third : readDirectives fuel (directives.flatMap Directive.tokens ++
      (braced (Selection.tokensOfAll selections) ++ rest)) =
      some (directives, braced (Selection.tokensOfAll selections) ++ rest) :=
    readDirectives_tokens readableDirectives (by omega) (lacks_sign (by decide))
      (lacks_sign (by decide))
  have fourth := readSelectionSet_tokens readsAll rest
  simp only [readOperation, Header.tokens, List.tail_cons, List.append_assoc, first, second, third,
    fourth, Option.bind_eq_bind, Option.bind_some]
  split <;> rfl

theorem readDefinition_tokens {room fuel : Nat} {definition : Definition} {rest : List Token}
    (readable : definition.Readable room) (enough : 4 * definition.tokens.length ≤ fuel) :
    readDefinition fuel (definition.tokens ++ rest) =
      if definition.filled then some (definition, rest) else none := by
  match definition with
  | .operation none selections =>
      simp only [Definition.tokens, braced, Option.map_none, Option.getD_none, List.nil_append,
        List.length_cons, List.length_append, List.length_nil] at enough
      have readsAll : ReadsAll fuel selections := readSelections_tokens readable.2.2 (by omega)
      simp only [Definition.tokens, Option.map_none, Option.getD_none, List.nil_append,
        braced_append, readDefinition, readsAll rest]
      rw [Definition.filled]
      split <;> rfl
  | .operation (some header) selections =>
      simp only [Definition.tokens, braced, Option.map_some, Option.getD_some,
        List.length_cons, List.length_append, List.length_nil] at enough
      have readsAll : ReadsAll fuel selections := readSelections_tokens readable.2.2 (by omega)
      have read := readOperation_tokens (readable.1 header rfl) (by omega) readsAll rest
      have word : header.tokens = .name header.kind.word :: header.tokens.tail := rfl
      simp only [Definition.tokens, Option.map_some, Option.getD_some, List.append_assoc]
      rw [word, List.cons_append]
      cases kind : header.kind <;> rw [kind] at read <;> exact read
  | .fragment name condition directives selections =>
      obtain ⟨-, -, readableDirectives, -, readableInner⟩ := readable
      simp only [Definition.tokens, braced, List.length_cons, List.length_append,
        List.length_nil] at enough
      have readsAll : ReadsAll fuel selections := readSelections_tokens readableInner (by omega)
      have first : readDirectives fuel (directives.flatMap Directive.tokens ++
          (braced (Selection.tokensOfAll selections) ++ rest)) =
          some (directives, braced (Selection.tokensOfAll selections) ++ rest) :=
        readDirectives_tokens readableDirectives (by omega) (lacks_sign (by decide))
          (lacks_sign (by decide))
      have second := readSelectionSet_tokens readsAll rest
      simp only [Definition.tokens, List.cons_append, List.append_assoc, readDefinition, first,
        second, Option.bind_eq_bind, Option.bind_some]
      rw [Definition.filled]
      split <;> rfl

theorem definition_tokens_ne_nil (definition : Definition) : definition.tokens ≠ [] := by
  cases definition <;> simp [Definition.tokens, braced]

/-- Readable definitions are read if something is selected everywhere in them. -/
theorem readDefinitions_tokens {room bound fuel : Nat} {document : Document}
    (nonempty : document ≠ []) (readable : ∀ definition ∈ document, definition.Readable room)
    (enough : 4 * document.tokens.length ≤ bound) (steps : document.length ≤ fuel) :
    readDefinitions bound fuel document.tokens =
      if document.filled then some document else none := by
  induction document generalizing fuel with
  | nil => exact absurd rfl nonempty
  | cons definition others ih =>
      obtain _ | fuel := fuel
      · cases steps
      simp only [Document.tokens, List.flatMap_cons, List.length_append] at enough
      have first : readDefinition bound (definition.tokens ++ others.flatMap Definition.tokens) =
          if definition.filled then some (definition, others.flatMap Definition.tokens) else none :=
        readDefinition_tokens (readable definition (List.mem_cons_self ..)) (by omega)
      rw [Document.tokens, List.flatMap_cons, readDefinitions, first]
      cases filled : definition.filled with
      | false => simp [Document.filled, filled]
      | true =>
          cases others with
          | nil => simp [Document.filled, filled]
          | cons second others =>
              have more : (second :: others).flatMap Definition.tokens ≠ [] := by
                simp [definition_tokens_ne_nil]
              have inner :
                  readDefinitions bound fuel ((second :: others).flatMap Definition.tokens) =
                  if Document.filled (second :: others) then some (second :: others) else none :=
                ih (by simp) (fun other inside => readable other (List.mem_cons_of_mem _ inside))
                  (by rw [Document.tokens]; omega) (Nat.le_of_succ_le_succ steps)
              obtain ⟨token, tail, shape⟩ := List.exists_cons_of_ne_nil more
              have both : Document.filled (definition :: second :: others) =
                  Document.filled (second :: others) := by
                simp [Document.filled, filled]
              rw [shape] at inner ⊢
              simp only [if_true, inner, both]
              split <;> rfl

/-- The number of definitions is at most that of their tokens. -/
theorem length_le_tokens (document : Document) : document.length ≤ document.tokens.length := by
  induction document with
  | nil => exact Nat.le_refl 0
  | cons definition others ih =>
      have positive := List.length_pos_iff.2 (definition_tokens_ne_nil definition)
      simp only [Document.tokens, List.flatMap_cons, List.length_append, List.length_cons] at ih ⊢
      omega

end Reshape.Query
