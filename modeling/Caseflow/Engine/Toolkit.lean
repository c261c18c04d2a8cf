import Caseflow.Extension.Basic
import Caseflow.Interpolation
import Caseflow.Settings
/-! What an engine works with, and the evaluation of condition trees. Guards are called from left to
right, and no further than the answer needs; a guard that cannot be found or that fails makes the
evaluation fail. -/
namespace Caseflow

/-- The extensions, the resolver of templates and the settings of an engine, which its
`ConditionEvaluator` and its `StateMachine` share. -/
structure Toolkit where
  extensions : Extensions
  resolver : Resolver := Interpolation.resolve
  settings : Settings := {}

namespace Toolkit

/-- The argument by which a guard is told a step (`STEP_ID_ARG`). -/
def stepIdName : String := "stepId"

/-- Puts the step under evaluation for a step number of `-1`, unless there is none. -/
def withStepId (stepId : StepDefId) (args : Args) : Args :=
  match args.get? stepIdName with
  | some text =>
    if stepId ≠ -1 ∧ Text.trim text = "-1" then
      args.insert stepIdName (Text.integerText stepId.toInt)
    else args
  | none => args

/-- The arguments a guard is called with. -/
def guardArgs (kit : Toolkit) (scope : Scope) (properties : Values) (stepId : StepDefId)
    (args : Args) : Args :=
  withStepId stepId (kit.resolver.args scope properties args)

/-- Resolves a guard and calls it. -/
def callGuard (kit : Toolkit) (scope : Scope) (properties : Values) (type : String) (args : Args) :
    Run World Bool := do
  let guard ← Run.ofExcept (kit.extensions.guard type args)
  World.record (.extensionCalled .condition type args scope.view)
  Run.ofExcept (guard scope args properties)

/-- Resolves a validator and calls it. -/
def callValidator (kit : Toolkit) (scope : Scope) (properties : Values) (type : String)
    (args : Args) : Run World Unit := do
  let validator ← Run.ofExcept (kit.extensions.validator type args)
  World.record (.extensionCalled .validator type args scope.view)
  Run.ofExcept (validator scope args properties)

/-- Resolves a register and calls it. -/
def callRegister (kit : Toolkit) (scope : Scope) (properties : Values) (type : String)
    (args : Args) : Run World Json := do
  let register ← Run.ofExcept (kit.extensions.register type args)
  World.record (.extensionCalled .register type args scope.view)
  Run.ofExcept (register scope.caller scope.entry args properties)

/-- Whether a guard of a tree passes (`evaluate_leaf`). -/
def checkPasses (kit : Toolkit) (scope : Scope) (properties : Values) (stepId : StepDefId)
    (check : Check) : Run World Bool := do
  let args := kit.guardArgs scope properties stepId check.call.args
  let passed ← kit.callGuard scope properties check.call.type args
  return passed != check.negate

mutual

/-- Whether a condition passes. -/
def conditionPasses (kit : Toolkit) (scope : Scope) (properties : Values) (stepId : StepDefId) :
    Condition → Run World Bool
  | .leaf check => kit.checkPasses scope properties stepId check
  | .group _ [] => Run.done true
  | .group combinator children => kit.childrenPass scope properties stepId combinator children

/-- Whether the remaining children of a tree decide for it (`evaluate_tree`). -/
def childrenPass (kit : Toolkit) (scope : Scope) (properties : Values) (stepId : StepDefId)
    (combinator : Combinator) : List Condition → Run World Bool
  | [] => Run.done (combinator = .and)
  | child :: rest =>
    Run.andThen (kit.conditionPasses scope properties stepId child) fun passed =>
      match combinator, passed with
      | .and, false => Run.done false
      | .or, true => Run.done true
      | _, _ => kit.childrenPass scope properties stepId combinator rest

end

/-- Whether a tree passes (`evaluate`); one that is absent or empty does. -/
def treePasses (kit : Toolkit) (scope : Scope) (properties : Values) (stepId : StepDefId) :
    Option Conditions → Run World Bool
  | none => Run.done true
  | some tree => kit.conditionPasses scope properties stepId tree.nested

/-- Whether an action may fire: the conditions of the whole workflow and its own restriction
pass. -/
def mayFire (kit : Toolkit) (scope : Scope) (properties : Values) (stepId : StepDefId)
    (action : Action) : Run World Bool := do
  let allowed ← kit.treePasses scope properties stepId scope.blueprint.globalConditions
  if allowed then kit.treePasses scope properties stepId action.restriction
  else return false

/-- The scope of a call with the inputs as variables, then the value of each register in turn. -/
def buildScope (kit : Toolkit) (properties : Values) (scope : Scope) (inputs : Values) :
    Run World Scope :=
  addRegisters { scope with bindings := scope.bindings.insertMany inputs.pairs }
    scope.blueprint.registers
where
  addRegisters (scope : Scope) : List RegisterCall → Run World Scope
    | [] => Run.done scope
    | register :: rest =>
      let args := kit.resolver.args scope properties register.args
      Run.andThen (kit.callRegister scope properties register.type args) fun value =>
        addRegisters (scope.assign register.name value) rest

end Toolkit

end Caseflow
