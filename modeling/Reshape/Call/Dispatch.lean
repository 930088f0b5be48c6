/-
Module: Reshape.Call.Dispatch
Purpose: what a call means: a namespace, a registered function or a member of the
  value.
Main exports: Dispatcher, Dispatcher.frozenAt, Dispatcher.dispatch
Trusted boundary: the clock, taken to stand still while a program runs, and the library of
  patterns
-/
import Reshape.Call.Builtin.Catalog
import Reshape.Call.Member.Basic
import Reshape.Call.Namespace.Basic

/-!
# Dispatch

A name is offered to the namespaces, then to the registry, then to the members of
the current value; the first that knows it answers. A name that nothing knows
leaves the value as it is. A leading null among the arguments only keeps the place
of the discriminator, which the namespaces alone read.
-/

namespace Reshape

/-- What a program is given to run with: the registered functions, the present moment, and
the library that reads patterns. -/
structure Dispatcher where
  registry : Registry
  /-- The instant that every call reads. A clock that moves on between two calls is not
  covered. -/
  now : Calendar.Moment
  [patterns : Pattern.Library]

namespace Dispatcher

/-- What a run is given while the clock stands at one instant: every call of the run reads it.
This is the assumption on the clock under which runs are pure and can be compared. -/
def frozenAt [Pattern.Library] (instant : Calendar.Moment) (registry : Registry) : Dispatcher :=
  ⟨registry, instant⟩

/-- The arguments without a leading null. -/
def dropDiscriminator : List Json → List Json
  | .null :: rest => rest
  | args => args

/-- The value of a call. -/
def dispatch (d : Dispatcher) (name : String) (value : Json) (args : List Json) :
    Except CallError Json :=
  match Namespace.find? d.now name args with
  | some result => result
  | none =>
      if d.registry.has name then d.registry.call name value (dropDiscriminator args)
      else (Member.find? value name (dropDiscriminator args)).getD (.ok value)

/-- Whether a name runs on null. -/
def isNullSafe (d : Dispatcher) (name : String) : Bool :=
  d.registry.isNullSafe name

end Dispatcher

end Reshape
