import Caseflow.Extension.Basic
import Caseflow.Json.Writer
import Caseflow.Text.Split
/-! The extensions every engine starts with. A step number of 0, or none, stands for any step. -/
namespace Caseflow.Builtin

/-! ### Arguments -/

/-- An argument that must be there and not be empty (`required_arg`). -/
def requiredArg (type name : String) (args : Args) : Except Failure String :=
  match args.get? name with
  | some value => if value.isEmpty then .error (.missingArgument type name) else .ok value
  | none => .error (.missingArgument type name)

/-- The step number of an extension, blanks around it aside; 0 where there is none
(`step_id_arg`). -/
def stepIdArg (type : String) (args : Args) : Except Failure StepDefId :=
  let text := Text.trim ((args.get? "stepId").getD "")
  if text.isEmpty then .ok 0
  else
    match Text.int32? text with
    | some id => .ok id
    | none => .error (.configuration (.stepIdNotANumber type text))

/-- The steps a step number stands for (`matching_steps`). -/
def matching (id : StepDefId) (steps : List Step) : List Step :=
  steps.filter fun step => id = 0 || step.defId = id

/-! ### Guards -/

def always : Guard := fun _ _ _ => .ok true

def never : Guard := fun _ _ _ => .ok false

/-- A current step has the status (`StatusCondition`). -/
def status : Guard := fun scope args _ => do
  let wanted ← requiredArg "status" "status" args
  let id ← stepIdArg "status" args
  return (matching id scope.currentSteps).any (·.status = wanted)

/-- The caller is the one named (`CallerCondition`). -/
def caller : Guard := fun scope args _ => do
  let wanted ← requiredArg "caller" "caller" args
  return scope.caller = some wanted

/-- The caller owns a current step (`AllowOwnerOnlyCondition`). Without a caller nobody looks at
the arguments. -/
def allowOwnerOnly : Guard := fun scope args _ =>
  match scope.caller with
  | none => .ok false
  | some caller => do
    let id ← stepIdArg "allow-owner-only" args
    return (matching id scope.currentSteps).any (·.owner = some caller)

/-- A branch of the join has arrived with the status (`JoinStatusCondition`); never outside of
joins. Of the branches of one step the first counts. -/
def joinStatus : Guard := fun scope args _ => do
  let wanted ← requiredArg "join-status" "status" args
  let id ← stepIdArg "join-status" args
  match scope.branches with
  | none => return false
  | some branches =>
    if id = 0 then return branches.any (·.status = wanted)
    else return (branches.step? id).any (·.status = wanted)

/-- A name of the scope has the value, compared as text (`InputCondition`). -/
def input : Guard := fun scope args _ => do
  let name ← requiredArg "input" "name" args
  let wanted := (args.get? "value").getD ""
  return (scope.lookup? name).any (·.comparisonText = wanted)

/-! ### Functions -/

/-- Sets the variable `caller` (`SetCallerFunction`). -/
def setCaller : Function := fun _ =>
  .look fun scope _ => .assign "caller" (.ofText? scope.caller) .done

/-- Sets a property to a text (`SetPropertyFunction`). -/
def setProperty : Function := fun args =>
  match requiredArg "set-property" "name" args with
  | .error failure => .fail failure
  | .ok name => .putProperty name (.str ((args.get? "value").getD "")) .done

/-- The owner of the latest of the steps that has one. -/
def latestOwner? (id : StepDefId) (history : List Step) : Option String :=
  (matching id history.reverse).findSome? (·.owner)

/-- Sets the variable `mostRecentOwner` (`MostRecentOwnerFunction`), if a step in the history has
an owner. -/
def mostRecentOwner : Function := fun args =>
  match stepIdArg "most-recent-owner" args with
  | .error failure => .fail failure
  | .ok id =>
    .look fun scope _ => .ask (.historySteps scope.entry.id) fun
      | .error error => .fail (.store error)
      | .ok history =>
        match latestOwner? id history with
        | some owner => .assign "mostRecentOwner" (.str owner) .done
        | none => .done

/-! ### Validators and registers -/

/-- The names between the commas, blanks around them aside. -/
def listedNames (text : String) : List String :=
  ((Text.splitAtEach ',' text.toList).map fun part => String.ofList (Text.trimmed part)).filter
    fun name => !name.isEmpty

/-- Whether a name of the scope stands for nothing or for null. -/
def isMissing (scope : Scope) (name : String) : Bool :=
  match scope.lookup? name with
  | none => true
  | some .null => true
  | some _ => false

/-- Every listed name stands for something other than null (`RequiredInputsValidator`). -/
def requiredInputs : Validator := fun scope args _ => do
  let text ← requiredArg "required-inputs" "names" args
  let missing : SortedMap String String :=
    SortedMap.ofList (((listedNames text).filter (isMissing scope)).map fun name => (name, "required"))
  if missing.isEmpty then return ()
  else throw (.invalidInput ("missing required inputs: " ++ Text.integerText missing.size) missing)

/-- The value of a property (`PropertyRegister`), or null. -/
def property : Register := fun _ _ args properties => do
  let name ← requiredArg "property" "name" args
  return (properties.get? name).getD .null

/-- The registry of the built-in extensions (`register_builtins`). -/
def extensions : Extensions :=
  ({} : Extensions)
    |>.addGuard "always" always
    |>.addGuard "never" never
    |>.addGuard "status" status
    |>.addGuard "caller" caller
    |>.addGuard "allow-owner-only" allowOwnerOnly
    |>.addGuard "join-status" joinStatus
    |>.addGuard "input" input
    |>.addFunction "set-caller" setCaller
    |>.addFunction "set-property" setProperty
    |>.addFunction "most-recent-owner" mostRecentOwner
    |>.addValidator "required-inputs" requiredInputs
    |>.addRegister "property" property

end Caseflow.Builtin
