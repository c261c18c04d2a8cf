import Caseflow.Blueprint.Validation
import Caseflow.Store.Basic
/-! Everything a call can fail with, the wording of each cause, and its two classifications: whether
work already done must be rolled back, and whether the caller asked for something impossible. -/
namespace Caseflow

/-- The kinds of extension that a blueprint refers to. -/
inductive ExtensionKind where
  | condition
  | validator
  | function
  | register
  deriving DecidableEq, Repr, Inhabited

def ExtensionKind.text : ExtensionKind → String
  | .condition => "condition"
  | .validator => "validator"
  | .function => "function"
  | .register => "register"

/-- What is wrong with the way a workflow or an engine is set up. -/
inductive Misconfiguration where
  | missingArgument (type argument : String)
  | stepIdNotANumber (type text : String)
  | noStepToStayIn (action : ActionId)
  | targetCreatesNoStep (target : Target)
  | invalidSettings
  | other (text : String)
  deriving DecidableEq, Repr, Inhabited

def Misconfiguration.message : Misconfiguration → String
  | .missingArgument type argument => type ++ " requires argument '" ++ argument ++ "'"
  | .stepIdNotANumber type text => type ++ ": stepId '" ++ text ++ "' is not a number"
  | .noStepToStayIn action =>
    "action " ++ Text.integerText action.toInt ++
      " stays in the same step but no step is being left"
  | .targetCreatesNoStep target => "result targeting " ++ target.text ++ " cannot create a step"
  | .invalidSettings => "invalid engine config"
  | .other text => text

/-- The cause of a failed call (`WorkflowError`). -/
inductive Failure where
  | notInitialAction (action : ActionId) (workflow : String)
  | entryNotActive (entry : EntryId) (state : EntryState)
  | actionNotAvailable (action : ActionId) (entry : EntryId)
  | invalidInput (text : String) (fields : SortedMap String String)
  | invalidEntryState (entry : EntryId) (source target : EntryState)
  | unauthorized (caller : Option String) (workflow : String) (action : ActionId)
  | extensionNotFound (kind : ExtensionKind) (type : String)
  | configuration (cause : Misconfiguration)
  | defective (defect : Defect)
  | entryNotFound (entry : EntryId)
  | workflowNotFound (workflow : String)
  | stepNotFound (step : StepDefId)
  | chainLimitExceeded (limit : Nat)
  | extension (text : String)
  | store (error : StoreError)
  deriving DecidableEq, Inhabited

namespace Failure

/-- The wording of a failure. -/
def message : Failure → String
  | .notInitialAction action workflow =>
    "Invalid action: " ++ Text.integerText action.toInt ++ " is not an initial action of '" ++
      workflow ++ "'"
  | .entryNotActive entry state =>
    "Invalid action: entry " ++ Text.integerText entry ++ " is " ++ state.text ++
      ", actions need an ACTIVATED entry"
  | .actionNotAvailable action entry =>
    "Invalid action: action " ++ Text.integerText action.toInt ++
      " is not available for entry " ++ Text.integerText entry
  | .invalidInput text _ => "Invalid input: " ++ text
  | .invalidEntryState entry source target =>
    "Entry " ++ Text.integerText entry ++ " cannot move from " ++ source.text ++ " to " ++
      target.text
  | .unauthorized caller workflow action =>
    "Unauthorized: caller '" ++ caller.getD "anonymous" ++ "' may not start '" ++ workflow ++
      "' with action " ++ Text.integerText action.toInt
  | .extensionNotFound kind type =>
    "Extension not found: no " ++ kind.text ++ " registered as '" ++ type ++ "'"
  | .configuration cause => "Configuration error: " ++ cause.message
  | .defective defect => "Invalid descriptor: " ++ defect.message
  | .entryNotFound entry => "Entry not found: " ++ Text.integerText entry
  | .workflowNotFound workflow => "Workflow not found: " ++ workflow
  | .stepNotFound step => "Step not found: " ++ Text.integerText step.toInt
  | .chainLimitExceeded limit =>
    "Auto-chain limit of " ++ Text.integerText limit ++ " actions exceeded"
  | .extension text => "Extension failed: " ++ text
  | .store error => "Store error: " ++ error.message

/-- Only refusals raised before any change need no rollback (`is_rollback_required`). -/
def requiresRollback : Failure → Bool
  | .notInitialAction _ _ => false
  | .entryNotActive _ _ => false
  | .actionNotAvailable _ _ => false
  | .invalidEntryState _ _ _ => false
  | .entryNotFound _ => false
  | .workflowNotFound _ => false
  | _ => true

/-- The caller asked for something that is refused (`is_caller_error`), rather than a set-up or a
store failing. -/
def isCallerError : Failure → Bool
  | .notInitialAction _ _ => true
  | .entryNotActive _ _ => true
  | .actionNotAvailable _ _ => true
  | .invalidInput _ _ => true
  | .invalidEntryState _ _ _ => true
  | .unauthorized _ _ _ => true
  | .entryNotFound _ => true
  | .workflowNotFound _ => true
  | _ => false

/-- A configuration failure for an argument that is absent or empty. -/
def missingArgument (type argument : String) : Failure :=
  .configuration (.missingArgument type argument)

end Failure

end Caseflow
