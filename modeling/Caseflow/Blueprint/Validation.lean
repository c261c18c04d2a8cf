import Caseflow.Blueprint.Basic
import Caseflow.Text.Blank
/-! What can be wrong with a blueprint, and the search for the first such defect. -/
namespace Caseflow

/-- A structural defect of a blueprint (`DescriptorError`). -/
inductive Defect where
  | missingName
  | noInitialAction (workflow : String)
  | duplicateStep (id : StepDefId)
  | duplicateSplit (id : NodeId)
  | duplicateJoin (id : NodeId)
  | duplicateAction (id : ActionId)
  | commonActionNotFound (id : ActionId)
  | missingUnconditionalOutcome (action : ActionId)
  | stepNotFound (id : StepDefId)
  | splitNotFound (id : NodeId)
  | joinNotFound (id : NodeId)
  | emptySplit (id : NodeId)
  | splitOutcomeNotStep (split : NodeId) (target : Target)
  | missingJoinOutcome (id : NodeId)
  deriving DecidableEq, Repr, Inhabited

/-- The wording of a defect. -/
def Defect.message : Defect → String
  | .missingName => "Workflow descriptor has no name"
  | .noInitialAction workflow => "Workflow '" ++ workflow ++ "' declares no initial action"
  | .duplicateStep id => "Duplicate step ID: " ++ Text.integerText id.toInt
  | .duplicateSplit id => "Duplicate split ID: " ++ Text.integerText id.toInt
  | .duplicateJoin id => "Duplicate join ID: " ++ Text.integerText id.toInt
  | .duplicateAction id => "Duplicate action ID: " ++ Text.integerText id.toInt
  | .commonActionNotFound id => "Common action not found: " ++ Text.integerText id.toInt
  | .missingUnconditionalOutcome action =>
    "Action " ++ Text.integerText action.toInt ++ " has no unconditional result"
  | .stepNotFound id => "Step not found: " ++ Text.integerText id.toInt
  | .splitNotFound id => "Split not found: " ++ Text.integerText id.toInt
  | .joinNotFound id => "Join not found: " ++ Text.integerText id.toInt
  | .emptySplit id => "Split " ++ Text.integerText id.toInt ++ " has no results"
  | .splitOutcomeNotStep split target =>
    "Split " ++ Text.integerText split.toInt ++ " result must target a step, found " ++ target.text
  | .missingJoinOutcome id => "Join " ++ Text.integerText id.toInt ++ " has no result"

/-- The first number that stands in the list, or in `seen`, before it. -/
def firstRepeated? (seen : List Int32) : List Int32 → Option Int32
  | [] => none
  | id :: rest => if id ∈ seen then some id else firstRepeated? (id :: seen) rest

namespace Blueprint

/-- The actions whose numbers must differ: the initial, the global and the steps' own ones. -/
def localActions (blueprint : Blueprint) : List Action :=
  blueprint.initialActions ++ blueprint.globalActions ++ blueprint.steps.flatMap (·.actions)

/-- Every action that is declared anywhere. -/
def allActions (blueprint : Blueprint) : List Action :=
  blueprint.initialActions ++ blueprint.globalActions ++ blueprint.commonActions.values ++
    blueprint.steps.flatMap (·.actions)

/-- What is wrong with a target (`check_target`), if it does not exist. -/
def targetDefect? (blueprint : Blueprint) : Target → Option Defect
  | .step id =>
    if id = Target.sameStep || (blueprint.step? id).isSome then none else some (.stepNotFound id)
  | .split id => if (blueprint.split? id).isSome then none else some (.splitNotFound id)
  | .join id => if (blueprint.join? id).isSome then none else some (.joinNotFound id)

def nameDefect? (blueprint : Blueprint) : Option Defect :=
  if Text.isAllBlank blueprint.name then some .missingName else none

def initialDefect? (blueprint : Blueprint) : Option Defect :=
  if blueprint.initialActions.isEmpty then some (.noInitialAction blueprint.name) else none

def duplicateDefect? (blueprint : Blueprint) : Option Defect :=
  ((firstRepeated? [] (blueprint.steps.map (·.id))).map .duplicateStep).or <|
  ((firstRepeated? [] (blueprint.splits.map (·.id))).map .duplicateSplit).or <|
  ((firstRepeated? [] (blueprint.joins.map (·.id))).map .duplicateJoin).or <|
  (firstRepeated? [] (blueprint.localActions.map (·.id))).map .duplicateAction

/-- The first reference of a step to a common action that does not exist. -/
def referenceDefect? (blueprint : Blueprint) : Option Defect :=
  (blueprint.steps.flatMap (·.commonActions)).findSome? fun id =>
    if blueprint.commonActions.contains id then none else some (.commonActionNotFound id)

def actionDefect? (blueprint : Blueprint) (action : Action) : Option Defect :=
  if action.unconditionalOutcome.isNone then some (.missingUnconditionalOutcome action.id)
  else action.outcomes.findSome? fun outcome => blueprint.targetDefect? outcome.target

/-- A split leads to steps only, and to at least one. -/
def splitDefect? (blueprint : Blueprint) (split : Split) : Option Defect :=
  if split.outcomes.isEmpty then some (.emptySplit split.id)
  else split.outcomes.findSome? fun outcome =>
    match outcome.target with
    | .step id => blueprint.targetDefect? (.step id)
    | other => some (.splitOutcomeNotStep split.id other)

def joinDefect? (blueprint : Blueprint) (join : Join) : Option Defect :=
  match join.outcome with
  | none => some (.missingJoinOutcome join.id)
  | some outcome => blueprint.targetDefect? outcome.target

/-- The first defect: of the name, the initial actions, repeated numbers, references, actions,
splits and joins, in this order. -/
def defect? (blueprint : Blueprint) : Option Defect :=
  blueprint.nameDefect?.or <|
  blueprint.initialDefect?.or <|
  blueprint.duplicateDefect?.or <|
  blueprint.referenceDefect?.or <|
  (blueprint.allActions.findSome? blueprint.actionDefect?).or <|
  (blueprint.splits.findSome? blueprint.splitDefect?).or <|
  blueprint.joins.findSome? blueprint.joinDefect?

/-- Accepts the blueprint, or names its first defect. -/
def validate (blueprint : Blueprint) : Except Defect Unit :=
  match blueprint.defect? with
  | none => .ok ()
  | some defect => .error defect

end Blueprint

end Caseflow
