import Caseflow.Blueprint.Basic
import Caseflow.Store.Basic
/-! The scope of a call: what guards, validators and functions see while an entry is looked at or
moved. It is built for one call and dropped after it. -/
namespace Caseflow

/-- The steps that feed a join (`JoinNodes`), the arriving one first. -/
abbrev Branches := List Step

/-- The branch of a step definition, if it has arrived. -/
def Branches.step? (branches : Branches) (id : StepDefId) : Option Step :=
  branches.find? (·.defId = id)

/-- The scope of a call (`TransientScope`). The current steps are those at its start; the branches
are there only while a join is decided; the bindings are the variables, which inputs, registers and
functions set. -/
structure Scope where
  caller : Option String
  entry : Entry
  blueprint : Blueprint
  currentSteps : List Step
  actionId : Option ActionId := none
  createdStep : Option Step := none
  branches : Option Branches := none
  bindings : Values := ∅
  deriving Inhabited

namespace Scope

/-- The names that stand for parts of the scope and never for variables. -/
def reservedNames : List String :=
  ["entry", "entryId", "workflowName", "actionId", "caller", "currentSteps", "createdStep"]

/-- The part of the scope that a reserved name stands for; some parts may be absent. -/
def reserved? (scope : Scope) : String → Option Json
  | "entry" => some scope.entry.toJson
  | "entryId" => some (.int scope.entry.id)
  | "workflowName" => some (.str scope.entry.workflow)
  | "actionId" => scope.actionId.map .ofInt32
  | "caller" => scope.caller.map .str
  | "currentSteps" => some (.arr (scope.currentSteps.map Step.toJson))
  | "createdStep" => scope.createdStep.map Step.toJson
  | _ => none

/-- The value of a name (`lookup`): a part of the scope for a reserved name, else the variable. -/
def lookup? (scope : Scope) (name : String) : Option Json :=
  if name ∈ reservedNames then scope.reserved? name else scope.bindings.get? name

/-- Sets a variable (`set`). -/
def assign (scope : Scope) (name : String) (value : Json) : Scope :=
  { scope with bindings := scope.bindings.insert name value }

end Scope

/-- What can be told apart from outside about the scope an extension was called with. -/
structure ScopeView where
  entry : EntryId
  state : EntryState
  actionId : Option ActionId
  steps : List StepDefId
  created : Option StepDefId
  branches : Option (List StepDefId)
  deriving DecidableEq, Inhabited

def Scope.view (scope : Scope) : ScopeView where
  entry := scope.entry.id
  state := scope.entry.state
  actionId := scope.actionId
  steps := scope.currentSteps.map (·.defId)
  created := scope.createdStep.map (·.defId)
  branches := scope.branches.map (·.map (·.defId))

end Caseflow
