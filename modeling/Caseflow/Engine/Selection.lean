import Caseflow.Engine.Turn
/-! The selection of actions: the one that was asked for, the one that fires on its own, and all
that are available. Global actions come first, then those of each current step in turn. -/
namespace Caseflow.Toolkit

/-- The global actions with step 0, then what each step offers with the step's number. -/
def candidates (blueprint : Blueprint) (steps : List Step) : List (ScopedAction × StepDefId) :=
  blueprint.scopedGlobalActions.map (·, 0) ++
    steps.flatMap fun step => (blueprint.actionsForStep step.defId).map (·, step.defId)

/-- The global actions of a number, then the first action of that number that each step offers. -/
def candidatesFor (blueprint : Blueprint) (steps : List Step) (actionId : ActionId) :
    List (ScopedAction × StepDefId) :=
  (blueprint.scopedGlobalActions.filter (·.id = actionId)).map (·, 0) ++
    steps.filterMap fun step =>
      (blueprint.actionForStep? step.defId actionId).map (·, step.defId)

/-- The first of the candidates that is available. -/
def firstAvailable (kit : Toolkit) : List (ScopedAction × StepDefId) →
    Run Turn (Option ScopedAction)
  | [] => Run.done none
  | (candidate, stepId) :: rest =>
    Run.andThen (kit.isAvailable candidate stepId) fun available =>
      if available then Run.done (some candidate) else kit.firstAvailable rest

/-- The action asked for (`find_valid_action`), if it is available. -/
def findRequested (kit : Toolkit) (blueprint : Blueprint) (steps : List Step)
    (actionId : ActionId) : Run Turn (Option ScopedAction) :=
  kit.firstAvailable (candidatesFor blueprint steps actionId)

/-- The first action that fires on its own and is available (`find_auto_action`). -/
def findAutomatic (kit : Toolkit) (blueprint : Blueprint) (steps : List Step) :
    Run Turn (Option ScopedAction) :=
  kit.firstAvailable ((candidates blueprint steps).filter (·.1.action.autoExecute))

/-- Adds to `found` the numbers of the candidates that are available, each number once. -/
def collectAvailable (kit : Toolkit) (found : List ActionId) :
    List (ScopedAction × StepDefId) → Run Turn (List ActionId)
  | [] => Run.done found
  | (candidate, stepId) :: rest =>
    Run.andThen (kit.isAvailable candidate stepId) fun available =>
      kit.collectAvailable
        (if available && !found.contains candidate.id then found ++ [candidate.id] else found) rest

/-- The numbers of all available actions (`collect_available_actions`). -/
def findAvailable (kit : Toolkit) (blueprint : Blueprint) (steps : List Step) :
    Run Turn (List ActionId) :=
  kit.collectAvailable [] (candidates blueprint steps)

end Caseflow.Toolkit
