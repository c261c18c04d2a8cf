import Caseflow.Blueprint.Condition
import Caseflow.Text.Numeral
/-! Blueprints of workflows: their steps, actions, splits and joins, and the lookups by number. Of
two definitions with one number the first is found. -/
namespace Caseflow

/-- Where an outcome sends an entry (`ResultTarget`). -/
inductive Target where
  | step (id : StepDefId)
  | split (id : NodeId)
  | join (id : NodeId)
  deriving DecidableEq, Repr, Inhabited

namespace Target

/-- The step number that stands for the definition of the step being left (`SAME_STEP`). -/
def sameStep : StepDefId := -1

def text : Target → String
  | .step id => "step " ++ Text.integerText id.toInt
  | .split id => "split " ++ Text.integerText id.toInt
  | .join id => "join " ++ Text.integerText id.toInt

end Target

/-- What an action leads to (`ResultDescriptor`): a target, the status and owner of the step
created, and the status of the step left. The texts are templates. -/
structure Outcome where
  target : Target
  status : String := ""
  oldStatus : String := ""
  owner : Option String := none
  dueDate : Option String := none
  preFunctions : List Call := []
  postFunctions : List Call := []
  validators : List Call := []
  displayName : Option String := none
  deriving DecidableEq, Inhabited

/-- An outcome that is taken only if its conditions pass (`ConditionalResult`). -/
structure ConditionalOutcome where
  conditions : Conditions
  outcome : Outcome
  deriving DecidableEq, Inhabited

/-- A transition (`ActionDescriptor`). It takes the first conditional outcome whose conditions
pass, or else the unconditional one. -/
structure Action where
  id : ActionId
  name : String := ""
  autoExecute : Bool := false
  finish : Bool := false
  restriction : Option Conditions := none
  validators : List Call := []
  preFunctions : List Call := []
  postFunctions : List Call := []
  conditionalOutcomes : List ConditionalOutcome := []
  unconditionalOutcome : Option Outcome := none
  metadata : SortedMap String String := ∅
  deriving DecidableEq, Inhabited

namespace Action

/-- Every outcome the action can take (`results`), the conditional ones first. -/
def outcomes (action : Action) : List Outcome :=
  action.conditionalOutcomes.map (·.outcome) ++ action.unconditionalOutcome.toList

end Action

/-- Where an action is declared. -/
inductive ActionScope where
  | initial
  | global
  | common
  | step (id : StepDefId)
  deriving DecidableEq, Repr, Inhabited

/-- The identity of an action within a blueprint. A common action has one identity,
whichever step refers to it. -/
structure ActionKey where
  scope : ActionScope
  actionId : ActionId
  deriving DecidableEq, Repr, Inhabited

/-- An action with the place of its declaration. -/
structure ScopedAction where
  scope : ActionScope
  action : Action
  deriving DecidableEq, Inhabited

namespace ScopedAction

def id (candidate : ScopedAction) : ActionId :=
  candidate.action.id

def key (candidate : ScopedAction) : ActionKey :=
  ⟨candidate.scope, candidate.action.id⟩

end ScopedAction

/-- A step that an entry can be in (`StepDescriptor`). -/
structure StepDef where
  id : StepDefId
  name : String := ""
  actions : List Action := []
  commonActions : List ActionId := []
  preFunctions : List Call := []
  postFunctions : List Call := []
  metadata : SortedMap String String := ∅
  deriving DecidableEq, Inhabited

namespace StepDef

/-- The step declares an action or refers to a common one (`has_actions`). -/
def hasActions (step : StepDef) : Bool :=
  !step.actions.isEmpty || !step.commonActions.isEmpty

end StepDef

/-- Several outcomes that are taken together (`SplitDescriptor`). -/
structure Split where
  id : NodeId
  outcomes : List Outcome := []
  deriving DecidableEq, Inhabited

/-- A barrier (`JoinDescriptor`): its outcome is taken once the conditions on the arrived branches
pass. -/
structure Join where
  id : NodeId
  conditions : Conditions := {}
  outcome : Option Outcome := none
  deriving DecidableEq, Inhabited

/-- A reference to a register (`RegisterDescriptor`), whose value every scope of the workflow holds
as a variable. -/
structure RegisterCall where
  name : String
  type : String
  args : Args := ∅
  deriving DecidableEq, Inhabited

/-- The definition of a workflow (`WorkflowDescriptor`). -/
structure Blueprint where
  name : String
  initialActions : List Action := []
  globalActions : List Action := []
  commonActions : SortedMap ActionId Action := ∅
  steps : List StepDef := []
  splits : List Split := []
  joins : List Join := []
  globalConditions : Option Conditions := none
  registers : List RegisterCall := []
  metadata : SortedMap String String := ∅
  deriving DecidableEq, Inhabited

namespace Blueprint

-- The lookups by number: `get_step`, `get_split`, `get_join`, `get_initial_action`,
-- `get_global_action` and `get_common_action`.

def step? (blueprint : Blueprint) (id : StepDefId) : Option StepDef :=
  blueprint.steps.find? (·.id = id)

def split? (blueprint : Blueprint) (id : NodeId) : Option Split :=
  blueprint.splits.find? (·.id = id)

def join? (blueprint : Blueprint) (id : NodeId) : Option Join :=
  blueprint.joins.find? (·.id = id)

def initialAction? (blueprint : Blueprint) (id : ActionId) : Option Action :=
  blueprint.initialActions.find? (·.id = id)

def globalAction? (blueprint : Blueprint) (id : ActionId) : Option Action :=
  blueprint.globalActions.find? (·.id = id)

def commonAction? (blueprint : Blueprint) (id : ActionId) : Option Action :=
  blueprint.commonActions.get? id

def scopedGlobalActions (blueprint : Blueprint) : List ScopedAction :=
  blueprint.globalActions.map (⟨.global, ·⟩)

/-- The actions a step offers (`actions_for_step`): its own, then the common ones it refers to. An
unknown step offers none, and a reference to an unknown common action counts for nothing. -/
def actionsForStep (blueprint : Blueprint) (stepId : StepDefId) : List ScopedAction :=
  match blueprint.step? stepId with
  | none => []
  | some step =>
    step.actions.map (⟨.step stepId, ·⟩) ++
      step.commonActions.filterMap fun id => (blueprint.commonAction? id).map (⟨.common, ·⟩)

/-- The first action with this number that the step offers (`action_for_step`). -/
def actionForStep? (blueprint : Blueprint) (stepId : StepDefId) (actionId : ActionId) :
    Option ScopedAction :=
  (blueprint.actionsForStep stepId).find? (·.id = actionId)

/-- The action declared in a scope under a number. -/
def declaredAction? (blueprint : Blueprint) (key : ActionKey) : Option Action :=
  match key.scope with
  | .initial => blueprint.initialAction? key.actionId
  | .global => blueprint.globalAction? key.actionId
  | .common => blueprint.commonAction? key.actionId
  | .step id => (blueprint.step? id).bind fun step => step.actions.find? (·.id = key.actionId)

/-- Some action of the step can lead to the join (`results_in_join`). -/
def resultsInJoin (blueprint : Blueprint) (stepId : StepDefId) (joinId : NodeId) : Bool :=
  (blueprint.actionsForStep stepId).any fun candidate =>
    candidate.action.outcomes.any (·.target = .join joinId)

end Blueprint

end Caseflow
