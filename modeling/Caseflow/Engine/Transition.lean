import Caseflow.Engine.Turn
import Caseflow.Engine.Lifecycle
import Caseflow.Engine.DueDate
/-! Transitions: the execution of one action. The step being left is found, the action's validators,
the left step's and the action's functions run, one outcome is selected and entered, directly or
through a split or a join, and then the entry is activated or completed where the action says so. A
failure stops the sequence where it stands. -/
namespace Caseflow

/-- How an executed action left the entry (`TransitionOutcome`). -/
inductive Progress where
  | continued
  | finished
  deriving DecidableEq, Repr, Inhabited

namespace Toolkit

/-! ### The step being left -/

/-- The first of the steps that offers the action where it is available. -/
def firstOffering (kit : Toolkit) (blueprint : Blueprint) (actionId : ActionId) :
    List Step → Run Turn (Option Step)
  | [] => Run.done none
  | step :: rest =>
    match blueprint.actionForStep? step.defId actionId with
    | none => kit.firstOffering blueprint actionId rest
    | some candidate =>
      Run.andThen (kit.isAvailable candidate step.defId) fun available =>
        if available then Run.done (some step) else kit.firstOffering blueprint actionId rest

/-- The only current step, whatever it offers; of several the first that offers the action where it
is available, if any does (`find_leaving_step`). -/
def leavingStep (kit : Toolkit) (actionId : ActionId) : Run Turn (Option Step) := do
  let scope ← Turn.scopeNow
  match scope.currentSteps with
  | [only] => return some only
  | steps => kit.firstOffering scope.blueprint actionId steps

/-! ### The outcome -/

/-- The first of the conditional outcomes whose conditions pass. -/
def firstPassing (kit : Toolkit) (stepId : StepDefId) :
    List ConditionalOutcome → Run Turn (Option Outcome)
  | [] => Run.done none
  | conditional :: rest =>
    Run.andThen (kit.passesNow (some conditional.conditions) stepId) fun passed =>
      if passed then Run.done (some conditional.outcome) else kit.firstPassing stepId rest

/-- The outcome the action takes (`select_result`). -/
def selectOutcome (kit : Toolkit) (action : Action) (stepId : StepDefId) : Run Turn Outcome := do
  match ← kit.firstPassing stepId action.conditionalOutcomes with
  | some outcome => return outcome
  | none =>
    Run.ofOption (.defective (.missingUnconditionalOutcome action.id)) action.unconditionalOutcome

/-! ### Closing and creating steps -/

/-- The status that a left step gets (`old_status`): that of the outcome, or the finished status
where it is empty. -/
def oldStatus (kit : Toolkit) (outcome : Outcome) : Run Turn String := do
  let status ← kit.textNow outcome.oldStatus
  return if status.isEmpty then kit.settings.finishedStatus else status

/-- Marks a step as finished by the caller and moves it to the history (`close_step`). -/
def closeStep (step : Step) (actionId : ActionId) (status : String) : Run Turn Step := do
  let turn ← Run.read
  let finished ← Turn.onWorld
    (World.markFinished step ⟨actionId, turn.world.now, status, turn.scope.caller⟩)
  Turn.onWorld (World.moveToHistory step)
  return finished

/-- The number of the step definition that a target leads to. -/
def enteredStep (actionId : ActionId) (leaving : Option Step) : Target → Run Turn StepDefId
  | .step id =>
    if id = Target.sameStep then
      Run.ofOption (.configuration (.noStepToStayIn actionId)) (leaving.map (·.defId))
    else Run.done id
  | other => Run.fail (.configuration (.targetCreatesNoStep other))

/-- The step that an outcome creates, as far as it is known before the store has numbered it. -/
def plannedStep (kit : Toolkit) (outcome : Outcome) (defId : StepDefId) (previous : List StepId)
    (turn : Turn) : NewStep where
  entryId := turn.scope.entry.id
  defId := defId
  owner := (outcome.owner.map (kit.resolver.text turn.scope turn.properties)).filter (· ≠ "")
  startDate := turn.world.now
  dueDate := do
    let template ← outcome.dueDate
    let value ← kit.resolver turn.scope turn.properties template
    DueDate.ofValue? turn.world.now value
  status := kit.resolver.text turn.scope turn.properties outcome.status
  previous := previous

/-- Creates the step an outcome leads to (`create_new_current_step`), after closing the step being
left where that is asked for, and runs the functions of the step entered. -/
def enterStep (kit : Toolkit) (outcome : Outcome) (actionId : ActionId) (leaving : Option Step)
    (closeLeaving : Bool) (previous : List StepId) : Run Turn Unit := do
  let defId ← enteredStep actionId leaving outcome.target
  let turn ← Run.read
  let definition ← Run.ofOption (.stepNotFound defId) (turn.scope.blueprint.step? defId)
  let planned := kit.plannedStep outcome defId previous turn
  if closeLeaving then
    match leaving with
    | some step =>
      let status ← kit.oldStatus outcome
      let _ ← closeStep step actionId status
    | none => pure ()
  let created ← Turn.onWorld (World.createStep planned)
  Turn.amendScope fun scope =>
    { scope with
      createdStep := some created
      currentSteps :=
        if leaving.isNone then scope.currentSteps ++ [created] else scope.currentSteps }
  kit.runFunctions definition.preFunctions

/-! ### Plain outcomes, splits and joins -/

/-- Takes an outcome that leads to a step (`dispatch_plain`). A finishing action only closes the
step being left. -/
def takePlain (kit : Toolkit) (action : Action) (outcome : Outcome) (leaving : Option Step) :
    Run Turn Unit := do
  if action.finish then
    match leaving with
    | some step =>
      let status ← kit.oldStatus outcome
      let _ ← closeStep step action.id status
    | none => pure ()
  else
    kit.enterStep outcome action.id leaving true (leaving.map (·.id)).toList

/-- Enters the outcomes of a split in turn; the first one closes the step being left. -/
def enterSiblings (kit : Toolkit) (actionId : ActionId) (leaving : Option Step) :
    Bool → List Outcome → Run Turn Unit
  | _, [] => Run.done ()
  | isFirst, outcome :: rest =>
    Run.andThen (kit.enterStep outcome actionId leaving isFirst (leaving.map (·.id)).toList)
      fun _ => kit.enterSiblings actionId leaving false rest

/-- Takes a split (`dispatch_split`): the validators of all its outcomes, their functions, and a
step for each. -/
def takeSplit (kit : Toolkit) (splitId : NodeId) (action : Action) (leaving : Option Step) :
    Run Turn Unit := do
  let scope ← Turn.scopeNow
  let split ← Run.ofOption (.defective (.splitNotFound splitId)) (scope.blueprint.split? splitId)
  kit.runValidators (split.outcomes.flatMap (·.validators))
  kit.runFunctions (split.outcomes.flatMap (·.preFunctions))
  if !action.finish then
    kit.enterSiblings action.id leaving true split.outcomes
  kit.runFunctions (split.outcomes.flatMap (·.postFunctions))

/-- The steps other than the one being left that can lead to the join. -/
def feeding (blueprint : Blueprint) (joinId : NodeId) (leaving : Option Step) (steps : List Step) :
    List Step :=
  steps.filter fun step =>
    some step.id ≠ leaving.map (·.id) && blueprint.resultsInJoin step.defId joinId

/-- Moves the steps to the history as they are. -/
def retire : List Step → Run Turn Unit :=
  Run.each fun step => Turn.onWorld (World.moveToHistory step)

/-- Shows the branches to the guards, or hides them again. -/
def showBranches (branches : Option Branches) : Run Turn Unit :=
  Turn.amendScope fun scope => { scope with branches }

/-- Arrives at a join (`dispatch_join`). The arriving step is closed in any case. Its branches are
that step, the other current steps that can lead to the join, and those in the history. If the
conditions pass, the current branches are retired and the outcome of the join is taken. -/
def takeJoin (kit : Toolkit) (joinId : NodeId) (action : Action) (outcome : Outcome)
    (leaving : Option Step) : Run Turn Unit := do
  let scope ← Turn.scopeNow
  let join ← Run.ofOption (.defective (.joinNotFound joinId)) (scope.blueprint.join? joinId)
  let joined ← Run.ofOption (.defective (.missingJoinOutcome joinId)) join.outcome
  let arrived ← arrive
  let stillCurrent := feeding scope.blueprint joinId leaving scope.currentSteps
  let history ← Turn.onWorld (World.historySteps scope.entry.id)
  let branches : Branches :=
    arrived ++ stillCurrent ++ feeding scope.blueprint joinId leaving history
  showBranches (some branches)
  let passed ← kit.passesNow (some join.conditions) 0
  if passed then
    kit.runValidators joined.validators
    kit.runFunctions joined.preFunctions
    retire stillCurrent
    if !action.finish then
      kit.enterStep joined action.id leaving false (branches.map (·.id))
    kit.runFunctions joined.postFunctions
  showBranches none
where
  /-- Closes the step being left and answers it as it then is. -/
  arrive : Run Turn (List Step) :=
    match leaving with
    | none => Run.done []
    | some step => do
      let status ← kit.oldStatus outcome
      let closed ← closeStep step action.id status
      return [closed]

/-! ### The action as a whole -/

/-- Takes the selected outcome. -/
def takeOutcome (kit : Toolkit) (action : Action) (outcome : Outcome) (leaving : Option Step) :
    Run Turn Unit :=
  match outcome.target with
  | .split id => kit.takeSplit id action leaving
  | .join id => kit.takeJoin id action outcome leaving
  | .step _ => kit.takePlain action outcome leaving

/-- Runs the functions of the step being left. -/
def leaveStep (kit : Toolkit) (blueprint : Blueprint) : Option Step → Run Turn Unit
  | none => Run.done ()
  | some step => do
    let definition ← Run.ofOption (.stepNotFound step.defId) (blueprint.step? step.defId)
    kit.runFunctions definition.postFunctions

/-- An initial action activates the entry, unless it is active already. -/
def activate (kit : Toolkit) (entryId : EntryId) (declared : ActionScope) : Run Turn Unit := do
  let scope ← Turn.scopeNow
  if declared = .initial ∧ scope.entry.state ≠ .activated then
    let _ ← Turn.onWorld
      (Lifecycle.changeState kit.settings.finishedStatus entryId .activated scope.caller)
    Turn.amendScope fun scope => { scope with entry := { scope.entry with state := .activated } }

/-- A finishing action completes the entry. -/
def finish (kit : Toolkit) (entryId : EntryId) (action : Action) : Run Turn Progress := do
  if action.finish then
    let scope ← Turn.scopeNow
    let _ ← Turn.onWorld
      (Lifecycle.complete kit.settings.finishedStatus entryId action.id scope.caller)
    Turn.amendScope fun scope => { scope with entry := { scope.entry with state := .completed } }
    return .finished
  else return .continued

/-- Executes an action that is known to be valid (`execute_action`). -/
def execute (kit : Toolkit) (chosen : ScopedAction) : Run Turn Progress := do
  let scope ← Turn.scopeNow
  let action := chosen.action
  let entryId := scope.entry.id
  Turn.onWorld (World.record (.actionBegun entryId chosen.key))
  Turn.amendScope fun scope => { scope with actionId := some chosen.id }
  let leaving ← kit.leavingStep chosen.id
  let guardStep := (leaving.map (·.defId)).getD (-1)
  kit.runValidators action.validators
  kit.leaveStep scope.blueprint leaving
  kit.runFunctions action.preFunctions
  let outcome ← kit.selectOutcome action guardStep
  kit.runValidators outcome.validators
  kit.runFunctions outcome.preFunctions
  kit.takeOutcome action outcome leaving
  kit.runFunctions outcome.postFunctions
  kit.runFunctions action.postFunctions
  kit.activate entryId chosen.scope
  kit.finish entryId action

end Toolkit

end Caseflow
