import Caseflow.Engine.Catalog
import Caseflow.Engine.Selection
import Caseflow.Engine.Transition
import Caseflow.Extension.Builtin
/-! Engines: what a caller can do with the entries of a store. Calls that change something say
whether the unit of work around them must be rolled back; listings answer with nothing where they
cannot answer. -/
namespace Caseflow

/-- An engine acting for a caller (`WorkflowOrchestrator`). -/
structure Engine where
  catalog : Catalog := {}
  kit : Toolkit := { extensions := Builtin.extensions }
  caller : Option String := none

/-- What a call comes to: its result, the world after it, and whether it has marked the work of its
caller as failed. -/
structure Reply (α : Type) where
  result : Except Failure α
  world : World
  rollback : Bool

namespace Reply

/-- Runs a call whose failures mark the work as failed where `marks` tells so (`rollback_on`). -/
def ofRun {α : Type} (marks : Failure → Bool) (computation : Run World α) (world : World) :
    Reply α :=
  match computation world with
  | (.ok value, after) => ⟨.ok value, after, false⟩
  | (.error failure, after) => ⟨.error failure, after, marks failure⟩

end Reply

namespace Engine

/-- The same engine acting for another caller. -/
def asCaller (engine : Engine) (caller : Option String) : Engine :=
  { engine with caller }

/-- Adds a blueprint to the catalog (`register_descriptor`). -/
def register (engine : Engine) (blueprint : Blueprint) : Except Failure Engine :=
  (engine.catalog.register blueprint).map fun catalog => { engine with catalog }

/-! ### Turns -/

/-- The scope of a call on an entry (`build_scope`). -/
def scope (engine : Engine) (properties : Values) (entry : Entry) (blueprint : Blueprint)
    (steps : List Step) (inputs : Values) : Run World Scope :=
  engine.kit.buildScope properties
    { caller := engine.caller, entry, blueprint, currentSteps := steps } inputs

/-- Runs a turn in a scope, with nothing known about the availability of actions. -/
def turn {α : Type} (scope : Scope) (home : EntryId) (computation : Run Turn α) : Run World α :=
  fun world =>
    let (result, after) := computation { world, scope, home }
    (result, after.world)

/-- None of the steps offers anything: each is known and declares no action. -/
def nothingLeft (blueprint : Blueprint) (steps : List Step) : Bool :=
  steps.all fun step => (blueprint.step? step.defId).any fun definition => !definition.hasActions

/-- After a transition (`after_transition`): completes an entry whose steps offer nothing, where
the settings say so, and else finds the action that fires on its own, on a fresh look at the
entry. -/
def settle (engine : Engine) (entryId : EntryId) (actionId : ActionId) (inputs : Values) :
    Progress → Run World (Option ActionId)
  | .finished => Run.done none
  | .continued => do
    let entry ← World.findEntry entryId
    if !entry.isActive then return none
    else
      let blueprint ← Run.ofExcept (engine.catalog.get entry.workflow)
      let steps ← World.currentSteps entryId
      if engine.kit.settings.implicitFinish && nothingLeft blueprint steps then
        let _ ← Lifecycle.complete engine.kit.settings.finishedStatus entryId actionId engine.caller
        return none
      else
        let properties ← World.properties entryId
        let scope ← engine.scope properties entry blueprint steps inputs
        let automatic ← turn scope entryId (engine.kit.findAutomatic blueprint steps)
        return automatic.map (·.id)

/-- One level of `do_action_at_depth`: selects and executes one action on an active entry, and
answers the action that follows it on its own, if there is one. -/
def act (engine : Engine) (entryId : EntryId) (inputs : Values) (actionId : ActionId) :
    Run World (Option ActionId) := do
  let entry ← World.findEntry entryId
  if !entry.isActive then Run.fail (.entryNotActive entryId entry.state)
  else
    let blueprint ← Run.ofExcept (engine.catalog.get entry.workflow)
    let steps ← World.currentSteps entryId
    let properties ← World.properties entryId
    let scope ← engine.scope properties entry blueprint steps inputs
    let progress ← turn scope entryId do
      let found ← engine.kit.findRequested blueprint steps actionId
      let chosen ← Run.ofOption (.actionNotAvailable actionId entryId) found
      engine.kit.execute chosen
    engine.settle entryId actionId inputs progress

/-- Executes the actions that follow one another on their own, at most `limit` of them, as
`do_action_at_depth` calls itself. -/
def chain (engine : Engine) (entryId : EntryId) (inputs : Values) :
    Nat → Option ActionId → Run World Unit
  | _, none => Run.done ()
  | 0, some _ => Run.fail (.chainLimitExceeded engine.kit.settings.maxAutoChainDepth)
  | limit + 1, some actionId =>
    Run.andThen (engine.act entryId inputs actionId) (engine.chain entryId inputs limit)

/-- Executes the initial action on a new entry (`run_initial`), if its restriction lets the caller.
The conditions of the whole workflow are not asked. -/
def runInitial (engine : Engine) (entry : Entry) (blueprint : Blueprint) (action : Action)
    (inputs : Values) : Run World (Option ActionId) := do
  let properties ← World.properties entry.id
  let scope ← engine.scope properties entry blueprint [] inputs
  let allowed ← engine.kit.treePasses scope properties 0 action.restriction
  if !allowed then Run.fail (.unauthorized engine.caller blueprint.name action.id)
  else
    let progress ← turn scope entry.id (engine.kit.execute ⟨.initial, action⟩)
    engine.settle entry.id action.id inputs progress

/-! ### Calls that change something -/

/-- The blueprint and the initial action that an entry would be started with. -/
def initialAction (engine : Engine) (workflow : String) (actionId : ActionId) :
    Except Failure (Blueprint × Action) := do
  let blueprint ← engine.catalog.get workflow
  match blueprint.initialAction? actionId with
  | some action => return (blueprint, action)
  | none => throw (.notInitialAction actionId workflow)

/-- Creates an entry of a workflow and starts it with an initial action (`initialize`). Once there
is a blueprint and an action, every failure marks the work as failed. -/
def startEntry (engine : Engine) (workflow : String) (actionId : ActionId) (inputs : Values)
    (world : World) : Reply EntryId :=
  match engine.initialAction workflow actionId with
  | .error failure => ⟨.error failure, world, false⟩
  | .ok (blueprint, action) =>
    Reply.ofRun (fun _ => true)
      (do
        let entry ← World.createEntry workflow
        let following ← engine.runInitial entry blueprint action inputs
        engine.chain entry.id inputs engine.kit.settings.maxAutoChainDepth following
        return entry.id)
      world

/-- Executes an action on an active entry (`do_action`), and then those that follow it on their
own. -/
def doAction (engine : Engine) (entryId : EntryId) (actionId : ActionId) (inputs : Values) :
    World → Reply Unit :=
  Reply.ofRun Failure.requiresRollback
    (Run.andThen (engine.act entryId inputs actionId)
      (engine.chain entryId inputs engine.kit.settings.maxAutoChainDepth))

/-- Moves an entry along an edge of its lifecycle (`change_entry_state`); asking for its present
state does nothing. -/
def changeState (engine : Engine) (entryId : EntryId) (target : EntryState) :
    World → Reply Unit :=
  Reply.ofRun Failure.requiresRollback do
    let _ ← Lifecycle.changeState engine.kit.settings.finishedStatus entryId target engine.caller
    return ()

/-! ### Questions -/

/-- Whether the caller could start the workflow with the action (`can_initialize`). Nothing is
created, the entry has number 0 and no properties, and whatever fails means no. -/
def canStart (engine : Engine) (workflow : String) (actionId : ActionId) (inputs : Values) :
    Run World Bool :=
  Run.orElse false do
    let (blueprint, action) ← Run.ofExcept (engine.initialAction workflow actionId)
    let world ← Run.read
    let entry : Entry := ⟨0, workflow, .created, world.now⟩
    let scope ← engine.scope ∅ entry blueprint [] inputs
    engine.kit.treePasses scope ∅ 0 action.restriction

/-- The numbers of the actions available on an active entry (`get_available_actions`); none where
they cannot be found out. -/
def availableActions (engine : Engine) (entryId : EntryId) (inputs : Values) :
    Run World (List ActionId) := do
  let found ← Run.orElse none (do
    let entry ← World.findEntry? entryId
    return some entry)
  match found with
  | none => return []
  | some none => Run.fail (.entryNotFound entryId)
  | some (some entry) =>
    if !entry.isActive then return []
    else
      Run.orElse [] do
        let blueprint ← Run.ofExcept (engine.catalog.get entry.workflow)
        let steps ← World.currentSteps entryId
        let properties ← World.properties entryId
        let scope ← engine.scope properties entry blueprint steps inputs
        turn scope entryId (engine.kit.findAvailable blueprint steps)

/-- The current steps of an entry (`get_current_steps`); none where they cannot be found. -/
def currentSteps (entryId : EntryId) : Run World (List Step) :=
  Run.orElse [] (World.currentSteps entryId)

/-- The steps an entry has left (`get_history_steps`); none where they cannot be found. -/
def historySteps (entryId : EntryId) : Run World (List Step) :=
  Run.orElse [] (World.historySteps entryId)

/-- The properties of an entry (`get_property_set`), if they can be found. -/
def properties? (entryId : EntryId) : Run World (Option Values) :=
  Run.orElse none do
    let properties ← World.properties entryId
    return some properties

def entry (entryId : EntryId) : Run World Entry :=
  World.findEntry entryId

/-- The state of an entry (`get_entry_state`), unknown where it cannot be found. -/
def entryState (entryId : EntryId) : Run World EntryState :=
  Run.orElse .unknown do
    let found ← World.findEntry? entryId
    return (found.map (·.state)).getD .unknown

/-- The entries a search expression holds of. -/
def query (query : Query) : Run World (List EntryId) :=
  World.query query

/-- Sets a property of an entry, if its properties can be found. -/
def setProperty (entryId : EntryId) (name : String) (value : Json) : Run World Bool := do
  match ← properties? entryId with
  | none => return false
  | some _ =>
    Run.change fun world =>
      { world with store := world.store.modifyProperties entryId (·.insert name value) }
    return true

end Engine

end Caseflow
