/-
Module: Reshape.Call.Builtin.Catalog
Purpose: the functions that every registry starts with.
Main exports: Registry.builtin
Trusted boundary: the library of patterns that `filter` is given
-/
import Reshape.Call.Builtin.Arithmetic
import Reshape.Call.Builtin.Comparison
import Reshape.Call.Builtin.Lookup
import Reshape.Pattern.Library
import Reshape.Text.Naming
import Reshape.Text.Split

namespace Reshape.Builtin

/-- A function that always succeeds and is passed over on null. -/
def plain (f : Json → List Json → Json) : Registered :=
  ⟨fun value args => .ok (f value args), false⟩

/-- A function that always succeeds and runs on null too. -/
def onNull (f : Json → List Json → Json) : Registered :=
  ⟨fun value args => .ok (f value args), true⟩

/-- Change the items of an array; other values stay as they are. -/
def onItems (f : List Json → List Json → List Json) : Registered :=
  plain fun value args => match value with
    | .array items => .array (f items args)
    | other => other

/-- Change a string; other values stay as they are. -/
def onText (f : List Char → List Char) : Registered :=
  plain fun value _ => match value with
    | .string s => .string (String.ofList (f s.toList))
    | other => other

def collections : Registry := [
  ("push", onItems fun items args => items ++ args),
  ("pop", onItems fun items _ => items.dropLast),
  ("shift", onItems fun items _ => items.drop 1),
  ("unshift", onItems fun items args => args ++ items)]

/-- The value, or the first argument that is not null in its place. -/
def firstPresent (value : Json) (args : List Json) : Json :=
  match value with
  | .null => (args.find? (!·.isNull)).getD .null
  | other => other

/-- Neighbours put into pairs; the last one may be alone. -/
def pairUp : List Json → List Json
  | [] => []
  | [single] => [.array [single]]
  | a :: b :: rest => .array [a, b] :: pairUp rest

/-- What `filter` asks the library for: a pattern between slashes with flags behind, or else
all of the text. -/
def patternRequest (source : String) : Pattern.Options × String :=
  match source.toList with
  | '/' :: rest =>
      match Text.cutLast? '/' rest with
      | some (text, flags) =>
          ({ anyCase := flags.contains 'i'
             multiLine := flags.contains 'm'
             dotAll := flags.contains 's'
             extended := flags.contains 'x' }, String.ofList text)
      | none => ({}, source)
  | _ => ({}, source)

/-- Keep the strings of an array that a pattern occurs in. -/
def filter [Pattern.Library] (value : Json) (args : List Json) : Except CallError Json :=
  match value with
  | .array items =>
      match args[0]?.bind Json.string? with
      | none => .error .patternExpected
      | some source =>
          let (options, text) := patternRequest source
          match Pattern.Library.build? options text with
          | none => .error (.malformedPattern source)
          | some occursIn => .ok (.array (items.filter fun item => item.string?.any occursIn))
  | other => .ok other

def utilities [Pattern.Library] : Registry := [
  ("get", plain get),
  ("set", plain set),
  ("nvl", onNull firstPresent),
  ("uvl", onNull firstPresent),
  ("default", onNull fun value args => firstPresent value (Json.flattenOnce args)),
  ("pairs", plain fun value args => .array (pairUp (withValue value args))),
  ("flatten", plain fun value _ => flatten value),
  ("unflatten", plain fun value _ => unflatten value),
  ("filter", ⟨filter, false⟩),
  ("pick", plain pick)]

/-- A text with its first character changed. -/
def onFirst (f : Char → List Char) : List Char → List Char
  | [] => []
  | c :: rest => f c ++ rest

def naming : Registry := [
  ("ucFirst", onText (onFirst Text.upperChar)),
  ("lcFirst", onText (onFirst Text.lowerChar)),
  ("camelCase", onText Text.NamingStyle.camel.apply),
  ("snakeCase", onText Text.NamingStyle.snake.apply),
  ("kebabCase", onText Text.NamingStyle.kebab.apply),
  ("pascalCase", onText Text.NamingStyle.pascal.apply),
  ("titleCase", onText Text.NamingStyle.title.apply)]

end Reshape.Builtin

namespace Reshape

/-- The functions that every registry starts with. -/
def Registry.builtin [Pattern.Library] : Registry :=
  Builtin.collections ++ Builtin.comparisons ++ Builtin.arithmetic ++ Builtin.utilities ++
    Builtin.naming

end Reshape
