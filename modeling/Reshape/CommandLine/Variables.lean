/-
Module: Reshape.CommandLine.Variables
Purpose: the environment variables that a file of assignments adds.
Main exports: CommandLine.Variables, CommandLine.Variables.load,
  CommandLine.Variables.mentioned
Trusted boundary: stands for the reader of variable files that the program is given and that is no
  part of it
-/
import Reshape.Text.Blank
import Reshape.Text.Split
import Reshape.Text.Word

/-!
# Variables

A line of the file assigns a value to a name. A variable that is set already keeps its
value. The first line that is no assignment ends the reading; those before it count.
-/

namespace Reshape.CommandLine

/-- The values of environment variables. -/
abbrev Variables := String → Option String

namespace Variables

/-- Set a variable, unless it is set. -/
def setDefault (name value : String) (known : Variables) : Variables :=
  fun other => (known other).orElse fun _ => if other = name then some value else none

end Variables

/-! ## Values -/

/-- What the characters of a value are read as. -/
inductive ValueMode where
  | plain
  /-- Between single quotes. -/
  | single
  /-- Between double quotes. -/
  | double
  /-- Behind a blank that ends the value. -/
  | ended
  deriving DecidableEq, Repr

/-- The name behind a dollar sign that is being read. -/
inductive Reference where
  | none
  /-- A name of letters and digits. -/
  | open (name : List Char)
  /-- A name in braces. -/
  | braced (name : List Char)
  deriving DecidableEq, Repr

/-- The text of a value so far, and what the next characters are read as. -/
structure ValueState where
  text : List Char
  mode : ValueMode
  /-- A backslash stands in front. -/
  escaped : Bool
  reference : Reference

namespace ValueState

def start : ValueState := ⟨[], .plain, false, .none⟩

def push (c : Char) (state : ValueState) : ValueState :=
  { state with text := state.text ++ [c] }

/-- Letters and digits, the characters of names that stand without braces. -/
def isReferenceChar (c : Char) : Bool :=
  c.isAlphanum || (0x80 ≤ c.toNat && Text.isWordChar c)

/-- Add the value of a variable; one that is not set is empty. -/
def substitute (known : Variables) (name : List Char) (state : ValueState) : ValueState :=
  { state with
    text := state.text ++ ((known (String.ofList name)).getD "").toList
    reference := .none }

/-- A character behind a backslash. -/
def stepEscaped? (c : Char) (state : ValueState) : Option ValueState :=
  if ['\\', '\'', '"', '$', ' '].contains c then some { state.push c with escaped := false }
  else if c = 'n' then some { state.push '\n' with escaped := false }
  else none

/-- A character that is no part of a name. -/
def stepText? (c : Char) (state : ValueState) : Option ValueState :=
  if c = '$' then some { state with reference := .open [] }
  else
    match state.mode, c with
    | .double, '"' => some { state with mode := .plain }
    | .double, '\\' => some { state with escaped := true }
    | .plain, '\'' => some { state with mode := .single }
    | .plain, '"' => some { state with mode := .double }
    | .plain, '\\' => some { state with escaped := true }
    | .plain, ' ' => some { state with mode := .ended }
    | .plain, '\t' => some { state with mode := .ended }
    | _, _ => some (state.push c)

/-- A character while a name behind a dollar sign is read. What ends a name without
braces stands for itself, whatever quotes it is in. -/
def stepReference? (known : Variables) (c : Char) (state : ValueState) : Option ValueState :=
  match state.reference with
  | .none => stepText? c state
  | .open name =>
      if isReferenceChar c then some { state with reference := .open (name ++ [c]) }
      else if c = '\x7b' && name.isEmpty then some { state with reference := .braced [] }
      else
        let state := state.substitute known name
        some (if c = '$' then { state with reference := .open [] } else state.push c)
  | .braced name =>
      if c = '\x7d' then some (state.substitute known name)
      else some { state with reference := .braced (name ++ [c]) }

end ValueState

/-- The value that text writes: with quotes, escapes and references to variables, and up
to a comment behind a blank. -/
def readValue? (known : Variables) : ValueState → List Char → Option String
  | state, [] =>
      match state.mode, state.reference with
      | .single, _ => none
      | .double, _ => none
      | _, .braced _ => none
      | _, .open name => some (String.ofList (state.substitute known name).text)
      | _, .none => some (String.ofList state.text)
  | state, c :: rest =>
      if state.mode = .ended then
        if c = ' ' || c = '\t' then readValue? known state rest
        else if c = '#' then readValue? known state []
        else none
      else
        let next :=
          if state.escaped then state.stepEscaped? c
          else if state.mode = .single then
            some (if c = '\'' then { state with mode := .plain } else state.push c)
          else state.stepReference? known c
        match next with
        | some state => readValue? known state rest
        | none => none

/-! ## Lines -/

/-- What a line does. -/
inductive Assignment where
  /-- Nothing: the line is blank or a comment. -/
  | skip
  | set (name value : String)
  deriving DecidableEq, Repr

/-- Whether a line has nothing more to read. -/
def isBlankOrComment (s : List Char) : Bool :=
  s.isEmpty || s.take 1 == ['#']

/-- The characters of names that are assigned to. -/
def isNameChar (c : Char) : Bool :=
  c.isAlphanum || c == '_' || c == '.'

/-- The name at the start of a text, and what stands behind it and its blanks. -/
def takeName? (s : List Char) : Option (String × List Char) :=
  if (s.take 1).any fun c => c.isAlpha || c == '_' then
    some (String.ofList (s.takeWhile isNameChar), Text.trimStart (s.dropWhile isNameChar))
  else none

/-- The name that a line assigns to, and the text behind the equal sign. The word
`export` may stand in front. -/
def takeTarget? (s : List Char) : Option (String × List Char) := do
  let (name, rest) ← takeName? s
  match rest with
  | '=' :: value => some (name, Text.trimStart value)
  | _ =>
      if name = "export" then
        match takeName? rest with
        | some (name, '=' :: value) => some (name, Text.trimStart value)
        | _ => none
      else none

/-- What a line of the file assigns. -/
def readAssignment? (known : Variables) (line : List Char) : Option Assignment :=
  let s := Text.trim line
  if isBlankOrComment s then some .skip
  else
    (takeTarget? s).bind fun (name, value) =>
      if isBlankOrComment value then some (.set name "")
      else (readValue? known .start value).map (.set name)

namespace Variables

/-- The variables after some lines. A value may refer to variables that are set and to
those of earlier lines. -/
def loadLines (known : Variables) : List (List Char) → Variables
  | [] => known
  | line :: rest =>
      match readAssignment? known line with
      | some .skip => loadLines known rest
      | some (.set name value) => loadLines (known.setDefault name value) rest
      | none => known

/-- The stretches of characters of a kind. -/
def stretches (p : Char → Bool) (s : List Char) : List String :=
  (Text.splitChar ' ' (s.map fun c => if p c then c else ' ')).map String.ofList

/-- All names that a file of assignments may assign to or refer to. -/
def mentioned (text : String) : List String :=
  stretches isNameChar text.toList ++ stretches ValueState.isReferenceChar text.toList

/-- The variables after a file of assignments. -/
def load (known : Variables) (text : String) : Variables :=
  loadLines known (Text.lines text.toList)

end Variables

end Reshape.CommandLine
