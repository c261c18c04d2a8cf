import Caseflow.Blueprint.Basic
/-! Blueprints put together part by part. The construction has words for everything an engine acts
on, and none for the labels of validators, the display names of outcomes and the metadata of steps:
a blueprint that is taken apart and put together again comes back without those, and with its common
actions filed under their own numbers. -/
namespace Caseflow

namespace Call

/-- The reference without its label. -/
def unlabelled (call : Call) : Call :=
  { call with label := none }

end Call

namespace Outcome

def reassembled (outcome : Outcome) : Outcome :=
  { outcome with
    validators := outcome.validators.map Call.unlabelled
    displayName := none }

end Outcome

namespace Action

def reassembled (action : Action) : Action :=
  { action with
    validators := action.validators.map Call.unlabelled
    conditionalOutcomes := action.conditionalOutcomes.map fun conditional =>
      { conditional with outcome := conditional.outcome.reassembled }
    unconditionalOutcome := action.unconditionalOutcome.map Outcome.reassembled }

end Action

namespace StepDef

def reassembled (step : StepDef) : StepDef :=
  { step with actions := step.actions.map Action.reassembled, metadata := ∅ }

end StepDef

namespace Split

def reassembled (split : Split) : Split :=
  { split with outcomes := split.outcomes.map Outcome.reassembled }

end Split

namespace Join

def reassembled (join : Join) : Join :=
  { join with outcome := join.outcome.map Outcome.reassembled }

end Join

namespace Blueprint

/-- Adds an action under its own number, in place of an earlier one with that number. -/
def addCommonAction (blueprint : Blueprint) (action : Action) : Blueprint :=
  { blueprint with commonActions := blueprint.commonActions.insert action.id action }

/-- The blueprint put together again from its parts. -/
def reassembled (blueprint : Blueprint) : Blueprint :=
  blueprint.commonActions.values.foldl
    (fun built action => built.addCommonAction action.reassembled)
    { blueprint with
      initialActions := blueprint.initialActions.map Action.reassembled
      globalActions := blueprint.globalActions.map Action.reassembled
      commonActions := ∅
      steps := blueprint.steps.map StepDef.reassembled
      splits := blueprint.splits.map Split.reassembled
      joins := blueprint.joins.map Join.reassembled }

end Blueprint

end Caseflow
