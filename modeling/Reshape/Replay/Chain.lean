/-
Module: Reshape.Replay.Chain
Purpose: what a chain of operations does with a value.
Main exports: Replay.runChain, Replay.runOperation, Replay.Setting
Trusted boundary: the clock, taken to stand still while a program runs
-/
import Reshape.Call.Dispatch
import Reshape.PathQuery.Basic
import Reshape.Program.Operation
import Reshape.Replay.Trace
import Reshape.Tree.Revision

/-!
# Chains

The operations of a chain run from left to right, each on the value that the one
before it gave. Null is passed over by every operation that does not ask for it.
Hoisting and renaming leave the value alone and give an edit of the enclosing
object, to be made when the whole chain has succeeded. Inside `each` there is no
such object, and the edits are dropped.
-/

namespace Reshape.Replay

/-- What a chain runs in: the meaning of calls, and the tree around the value. -/
structure Setting where
  dispatcher : Dispatcher
  sight : Sight

/-- Evaluate a path expression on a container; any other value is left as it is. -/
def navigate (_ : Pattern.Library) (path : String) (target : Json) : Except CallError Json :=
  if target.isContainer then PathQuery.evaluate path target else .ok target

/-- Merge members into the enclosing object, where the match goes away unless it is
kept. -/
def hoistEdit (keep : Bool) (members : Members) : Edit := fun key parent =>
  Members.insertAll (if keep then parent else Members.erase key parent) members

/-- Move the match to another key of the enclosing object. -/
def renameEdit (target : String) : Edit := fun key parent =>
  match Members.get? key parent with
  | some value => Members.insert target value (Members.erase key parent)
  | none => parent

/-- No argument assigns null, one is the value, several are the list of them. -/
def assigned : List Json → Json
  | [] => .null
  | [value] => value
  | values => .array values

/-- Whether an operation runs on null. -/
def runsOnNull (dispatcher : Dispatcher) : Operation → Bool
  | .navigate scope _ => scope != .current
  | .assign _ => true
  | .call name _ => dispatcher.isNullSafe name
  | .each _ | .hoist _ | .rename _ => false

mutual

/-- The value after a chain, and the edits it asks for. -/
def runChain (setting : Setting) : List Operation → Trace → Json →
    Except CallError (Json × List Edit)
  | [], _, value => .ok (value, [])
  | operation :: rest, trace, value => do
      let (next, edits) ← runOperation setting operation trace value
      let (last, more) ← runChain setting rest (trace.record next) next
      .ok (last, edits ++ more)

/-- The value after one operation, and the edits it asks for. -/
def runOperation (setting : Setting) (operation : Operation) (trace : Trace) (value : Json) :
    Except CallError (Json × List Edit) :=
  if value.isNull && !runsOnNull setting.dispatcher operation then .ok (value, [])
  else
    match operation with
    | .navigate .current path => (navigate setting.dispatcher.patterns path value).map (·, [])
    | .navigate .parent path =>
        match setting.sight.parent? with
        | some parent => (navigate setting.dispatcher.patterns path parent).map (·, [])
        | none => .ok (value, [])
    | .navigate .root path => (navigate setting.dispatcher.patterns path setting.sight.root).map (·, [])
    | .each operations =>
        match value with
        | .array items => do
            let results ← items.mapM fun item => runChain setting operations (.start item) item
            .ok (.array (results.map Prod.fst), [])
        | other => do
            let (last, _) ← runChain setting operations (.start other) other
            .ok (last, [])
    | .hoist keep =>
        match value with
        | .object members => .ok (value, [hoistEdit keep members])
        | _ => .ok (value, [])
    | .rename key => .ok (value, [renameEdit key])
    | .assign args => .ok (assigned (args.map trace.interpolate), [])
    | .call name args => (setting.dispatcher.dispatch name value (args.map trace.resolve)).map (·, [])

end

end Reshape.Replay
