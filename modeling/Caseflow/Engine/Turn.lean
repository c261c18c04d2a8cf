import Caseflow.Engine.Toolkit
/-! A turn: the execution of one action, with the world, the scope that hooks may change, the entry
whose properties are at hand, and the answers already found on the availability of actions. -/
namespace Caseflow

/-- What is known about the availability of actions (`AvailabilityCache`). It is kept for one call
only. -/
structure Availability where
  answers : List (ActionKey × Bool) := []
  deriving DecidableEq, Inhabited

namespace Availability

def find? (known : Availability) (key : ActionKey) : Option Bool :=
  (known.answers.find? (·.1 = key)).map (·.2)

/-- Notes the answer on an action not known so far. -/
def learn (known : Availability) (key : ActionKey) (available : Bool) : Availability :=
  ⟨known.answers ++ [(key, available)]⟩

def size (known : Availability) : Nat :=
  known.answers.length

end Availability

/-- The state of a turn. -/
structure Turn where
  world : World
  scope : Scope
  home : EntryId
  known : Availability := {}
  deriving Inhabited

namespace Turn

/-- The properties at hand. -/
def properties (turn : Turn) : Values :=
  turn.world.store.propertiesOf turn.home

/-- Runs on the world of the turn. -/
def onWorld {α : Type} (computation : Run World α) : Run Turn α :=
  Run.within Turn.world (fun turn world => { turn with world }) computation

/-- The scope as it is now. -/
def scopeNow : Run Turn Scope := do
  let turn ← Run.read
  return turn.scope

/-- Changes the scope. -/
def amendScope (amend : Scope → Scope) : Run Turn Unit :=
  Run.change fun turn => { turn with scope := amend turn.scope }

/-- Changes the properties at hand. -/
def amendProperties (amend : Values → Values) : Run Turn Unit :=
  Run.change fun turn =>
    { turn with
      world := { turn.world with store := turn.world.store.modifyProperties turn.home amend } }

/-- Puts a request to the store and goes on with its answer, a refusal included. -/
def answerOf (request : StoreRequest) : Run Turn (Except StoreError request.Answer) := fun turn =>
  let (answer, world) := turn.world.ask request
  (.ok answer, { turn with world })

/-- Carries out the program of a function. -/
def perform : Program → Run Turn Unit
  | .done => Run.done ()
  | .fail failure => Run.fail failure
  | .look next => Run.andThen Run.read fun turn => perform (next turn.scope turn.properties)
  | .amend change next => Run.andThen (amendScope change) fun _ => perform next
  | .putProperty name value next =>
    Run.andThen (amendProperties (·.insert name value)) fun _ => perform next
  | .dropProperty name next => Run.andThen (amendProperties (·.erase name)) fun _ => perform next
  | .ask request next => Run.andThen (answerOf request) fun answer => perform (next answer)

end Turn

namespace Toolkit

/-- Resolves a function and carries out its program. -/
def callFunction (kit : Toolkit) (type : String) (args : Args) : Run Turn Unit := do
  let scope ← Turn.scopeNow
  let function ← Run.ofExcept (kit.extensions.function type args)
  Turn.onWorld (World.record (.extensionCalled .function type args scope.view))
  Turn.perform (function args)

/-- Runs validators in turn (`run_validators`), each with its arguments interpolated. -/
def runValidators (kit : Toolkit) : List Call → Run Turn Unit :=
  Run.each fun call => do
    let turn ← Run.read
    let args := kit.resolver.args turn.scope turn.properties call.args
    Turn.onWorld (kit.callValidator turn.scope turn.properties call.type args)

/-- Runs functions in turn (`execute_functions`), each with its arguments interpolated in the scope
it finds. -/
def runFunctions (kit : Toolkit) : List Call → Run Turn Unit :=
  Run.each fun call => do
    let turn ← Run.read
    kit.callFunction call.type (kit.resolver.args turn.scope turn.properties call.args)

/-- Whether an action is available at a step (`is_available`). The answer is looked up by the
identity of the action first, whatever step it was found for; while it is worked out, the action
counts as the one being checked. -/
def isAvailable (kit : Toolkit) (candidate : ScopedAction) (stepId : StepDefId) :
    Run Turn Bool := do
  let turn ← Run.read
  match turn.known.find? candidate.key with
  | some available => return available
  | none =>
    let scope := { turn.scope with actionId := some candidate.id }
    let available ← Turn.onWorld (kit.mayFire scope turn.properties stepId candidate.action)
    Run.change fun turn => { turn with known := turn.known.learn candidate.key available }
    return available

/-- Whether a tree passes in the scope as it is now. -/
def passesNow (kit : Toolkit) (tree : Option Conditions) (stepId : StepDefId) : Run Turn Bool := do
  let turn ← Run.read
  Turn.onWorld (kit.treePasses turn.scope turn.properties stepId tree)

/-- The text of a template in the scope as it is now. -/
def textNow (kit : Toolkit) (template : String) : Run Turn String := do
  let turn ← Run.read
  return kit.resolver.text turn.scope turn.properties template

end Toolkit

end Caseflow
