import Caseflow.Blueprint.Basic
import Caseflow.Json.Decode
/-! The JSON documents of blueprints and of their parts. Members stand in ascending order of their
names. An absent optional value and empty metadata are left out; everything else is written. -/
namespace Caseflow

open Json (Document Members present)

namespace Json

def ofInt32 (value : Int32) : Json :=
  .int value.toInt

/-- Metadata, where there is any. -/
def presentTexts (name : String) (texts : SortedMap String String) : List (String × Json) :=
  present name (if texts.isEmpty then none else some (.ofTexts texts))

end Json

/-! ### Extension references and conditions -/

namespace Call

def members (call : Call) : List (String × Json) :=
  [("args", .ofTexts call.args)] ++ present "name" (call.label.map .str)

def toJson (call : Call) : Json :=
  .obj (call.members ++ [("type_name", .str call.type)])

def ofMembers? (members : Members) : Option Call := do
  let type ← members.required "type_name" Document.asText?
  let args ← members.defaulted "args" Document.asTexts? ∅
  let label ← members.optional "name" Document.asText?
  return { type, args, label }

def ofDocument? (document : Document) : Option Call :=
  document.asMembers?.bind ofMembers?

end Call

namespace Check

def toJson (check : Check) : Json :=
  .obj (check.call.members ++
    [("negate", .bool check.negate), ("type_name", .str check.call.type)])

def ofDocument? (document : Document) : Option Check := do
  let members ← document.asMembers?
  let call ← Call.ofMembers? members
  let negate ← members.defaulted "negate" Document.asBool? false
  return { call, negate }

end Check

namespace Combinator

def toJson : Combinator → Json
  | .and => .str "And"
  | .or => .str "Or"

def ofDocument? : Document → Option Combinator
  | .str "And" => some .and
  | .str "Or" => some .or
  | _ => none

end Combinator

namespace Condition

mutual

def toJson : Condition → Json
  | .leaf check => .obj [("Leaf", check.toJson)]
  | .group combinator children =>
    .obj [("Nested", .obj [("combinator", combinator.toJson),
      ("conditions", .arr (toJsonAll children))])]

def toJsonAll : List Condition → List Json
  | [] => []
  | child :: rest => child.toJson :: toJsonAll rest

end

/-- Reads a tree whose conditions are read by `read`. -/
def readTree? (read : Document → Option Condition) (document : Document) : Option Conditions := do
  let members ← document.asMembers?
  let combinator ← members.required "combinator" Combinator.ofDocument?
  let children ← members.defaulted "conditions" (Document.asList? read) []
  return { combinator, children }

/-- Reads a condition with at most `limit` groups inside one another. -/
def readWithin? : Nat → Document → Option Condition
  | limit, document =>
    match document.asTagged? with
    | some ("Leaf", check) => (Check.ofDocument? check).map .leaf
    | some ("Nested", tree) =>
      match limit with
      | 0 => none
      | limit + 1 => (readTree? (readWithin? limit) tree).map Conditions.nested
    | _ => none

/-- Reads a condition. A document never holds more groups than its depth. -/
def ofDocument? (document : Document) : Option Condition :=
  readWithin? document.depth document

end Condition

namespace Conditions

def toJson (tree : Conditions) : Json :=
  .obj [("combinator", tree.combinator.toJson),
    ("conditions", .arr (Condition.toJsonAll tree.children))]

def ofDocument? (document : Document) : Option Conditions :=
  Condition.readTree? (Condition.readWithin? document.depth) document

end Conditions

namespace RegisterCall

def toJson (register : RegisterCall) : Json :=
  .obj [("args", .ofTexts register.args), ("type_name", .str register.type),
    ("variable_name", .str register.name)]

def ofDocument? (document : Document) : Option RegisterCall := do
  let members ← document.asMembers?
  let name ← members.required "variable_name" Document.asText?
  let type ← members.required "type_name" Document.asText?
  let args ← members.defaulted "args" Document.asTexts? ∅
  return { name, type, args }

end RegisterCall

/-! ### Outcomes and actions -/

namespace Target

def toJson : Target → Json
  | .step id => .obj [("Step", .ofInt32 id)]
  | .split id => .obj [("Split", .ofInt32 id)]
  | .join id => .obj [("Join", .ofInt32 id)]

def ofDocument? (document : Document) : Option Target :=
  match document.asTagged? with
  | some ("Step", id) => id.asInt32?.map .step
  | some ("Split", id) => id.asInt32?.map .split
  | some ("Join", id) => id.asInt32?.map .join
  | _ => none

end Target

/-- A list of extension references. -/
def Call.listToJson (calls : List Call) : Json :=
  .arr (calls.map Call.toJson)

namespace Outcome

def toJson (outcome : Outcome) : Json :=
  .obj (present "display_name" (outcome.displayName.map .str) ++
    present "due_date" (outcome.dueDate.map .str) ++
    [("old_status", .str outcome.oldStatus)] ++
    present "owner" (outcome.owner.map .str) ++
    [("post_functions", Call.listToJson outcome.postFunctions),
      ("pre_functions", Call.listToJson outcome.preFunctions),
      ("status", .str outcome.status),
      ("target", outcome.target.toJson),
      ("validators", Call.listToJson outcome.validators)])

def ofDocument? (document : Document) : Option Outcome := do
  let members ← document.asMembers?
  let target ← members.required "target" Target.ofDocument?
  let status ← members.defaulted "status" Document.asText? ""
  let oldStatus ← members.defaulted "old_status" Document.asText? ""
  let owner ← members.optional "owner" Document.asText?
  let dueDate ← members.optional "due_date" Document.asText?
  let preFunctions ← members.defaulted "pre_functions" (Document.asList? Call.ofDocument?) []
  let postFunctions ← members.defaulted "post_functions" (Document.asList? Call.ofDocument?) []
  let validators ← members.defaulted "validators" (Document.asList? Call.ofDocument?) []
  let displayName ← members.optional "display_name" Document.asText?
  return ⟨target, status, oldStatus, owner, dueDate, preFunctions, postFunctions, validators,
    displayName⟩

end Outcome

namespace ConditionalOutcome

def toJson (conditional : ConditionalOutcome) : Json :=
  .obj [("conditions", conditional.conditions.toJson), ("result", conditional.outcome.toJson)]

def ofDocument? (document : Document) : Option ConditionalOutcome := do
  let members ← document.asMembers?
  let conditions ← members.required "conditions" Conditions.ofDocument?
  let outcome ← members.required "result" Outcome.ofDocument?
  return { conditions, outcome }

end ConditionalOutcome

namespace Action

def toJson (action : Action) : Json :=
  .obj ([("auto_execute", .bool action.autoExecute),
      ("conditional_results", .arr (action.conditionalOutcomes.map ConditionalOutcome.toJson)),
      ("finish", .bool action.finish),
      ("id", .ofInt32 action.id)] ++
    Json.presentTexts "metadata" action.metadata ++
    [("name", .str action.name),
      ("post_functions", Call.listToJson action.postFunctions),
      ("pre_functions", Call.listToJson action.preFunctions)] ++
    present "restriction" (action.restriction.map Conditions.toJson) ++
    present "unconditional_result" (action.unconditionalOutcome.map Outcome.toJson) ++
    [("validators", Call.listToJson action.validators)])

def ofDocument? (document : Document) : Option Action := do
  let members ← document.asMembers?
  let id ← members.required "id" Document.asInt32?
  let name ← members.defaulted "name" Document.asText? ""
  let autoExecute ← members.defaulted "auto_execute" Document.asBool? false
  let finish ← members.defaulted "finish" Document.asBool? false
  let restriction ← members.optional "restriction" Conditions.ofDocument?
  let validators ← members.defaulted "validators" (Document.asList? Call.ofDocument?) []
  let preFunctions ← members.defaulted "pre_functions" (Document.asList? Call.ofDocument?) []
  let postFunctions ← members.defaulted "post_functions" (Document.asList? Call.ofDocument?) []
  let conditionalOutcomes ←
    members.defaulted "conditional_results" (Document.asList? ConditionalOutcome.ofDocument?) []
  let unconditionalOutcome ← members.optional "unconditional_result" Outcome.ofDocument?
  let metadata ← members.defaulted "metadata" Document.asTexts? ∅
  return ⟨id, name, autoExecute, finish, restriction, validators, preFunctions, postFunctions,
    conditionalOutcomes, unconditionalOutcome, metadata⟩

end Action

namespace ActionScope

def toJson : ActionScope → Json
  | .initial => .str "Initial"
  | .global => .str "Global"
  | .common => .str "Common"
  | .step id => .obj [("Step", .ofInt32 id)]

def ofDocument? : Document → Option ActionScope
  | .str "Initial" => some .initial
  | .str "Global" => some .global
  | .str "Common" => some .common
  | .obj _ [("Step", id)] => id.asInt32?.map .step
  | _ => none

end ActionScope

namespace ActionKey

def toJson (key : ActionKey) : Json :=
  .obj [("action_id", .ofInt32 key.actionId), ("scope", key.scope.toJson)]

def ofDocument? (document : Document) : Option ActionKey := do
  let members ← document.asMembers?
  let scope ← members.required "scope" ActionScope.ofDocument?
  let actionId ← members.required "action_id" Document.asInt32?
  return { scope, actionId }

end ActionKey

/-! ### Steps, splits, joins and the whole -/

namespace StepDef

def toJson (step : StepDef) : Json :=
  .obj ([("actions", .arr (step.actions.map Action.toJson)),
      ("common_actions", .arr (step.commonActions.map Json.ofInt32)),
      ("id", .ofInt32 step.id)] ++
    Json.presentTexts "metadata" step.metadata ++
    [("name", .str step.name),
      ("post_functions", Call.listToJson step.postFunctions),
      ("pre_functions", Call.listToJson step.preFunctions)])

def ofDocument? (document : Document) : Option StepDef := do
  let members ← document.asMembers?
  let id ← members.required "id" Document.asInt32?
  let name ← members.defaulted "name" Document.asText? ""
  let actions ← members.defaulted "actions" (Document.asList? Action.ofDocument?) []
  let commonActions ← members.defaulted "common_actions" (Document.asList? Document.asInt32?) []
  let preFunctions ← members.defaulted "pre_functions" (Document.asList? Call.ofDocument?) []
  let postFunctions ← members.defaulted "post_functions" (Document.asList? Call.ofDocument?) []
  let metadata ← members.defaulted "metadata" Document.asTexts? ∅
  return { id, name, actions, commonActions, preFunctions, postFunctions, metadata }

end StepDef

namespace Split

def toJson (split : Split) : Json :=
  .obj [("id", .ofInt32 split.id), ("results", .arr (split.outcomes.map Outcome.toJson))]

def ofDocument? (document : Document) : Option Split := do
  let members ← document.asMembers?
  let id ← members.required "id" Document.asInt32?
  let outcomes ← members.defaulted "results" (Document.asList? Outcome.ofDocument?) []
  return { id, outcomes }

end Split

namespace Join

def toJson (join : Join) : Json :=
  .obj ([("conditions", join.conditions.toJson), ("id", .ofInt32 join.id)] ++
    present "result" (join.outcome.map Outcome.toJson))

def ofDocument? (document : Document) : Option Join := do
  let members ← document.asMembers?
  let id ← members.required "id" Document.asInt32?
  let conditions ← members.defaulted "conditions" Conditions.ofDocument? {}
  let outcome ← members.optional "result" Outcome.ofDocument?
  return { id, conditions, outcome }

end Join

namespace Blueprint

/-- The name of a member that stands for a number: its numeral and nothing else. -/
def idOfName? (name : String) : Option Int32 :=
  (Text.int32? name).filter fun id => Text.integerText id.toInt = name

/-- Common actions by number. The names of the members are the numerals of the numbers, which need
not be those of the actions, in the order of the texts. -/
def commonActionsToJson (actions : SortedMap ActionId Action) : Json :=
  .ofMap (SortedMap.ofList (actions.pairs.map fun pair =>
    (Text.integerText pair.1.toInt, pair.2.toJson)))

def readCommonActions? (document : Document) : Option (SortedMap ActionId Action) := do
  let members ← document.asPlainMembers?
  let pairs ← members.mapM fun (member : String × Document) => do
    let id ← idOfName? member.1
    let action ← Action.ofDocument? member.2
    return (id, action)
  return SortedMap.ofList pairs

def toJson (blueprint : Blueprint) : Json :=
  .obj ([("common_actions", commonActionsToJson blueprint.commonActions),
      ("global_actions", .arr (blueprint.globalActions.map Action.toJson))] ++
    present "global_conditions" (blueprint.globalConditions.map Conditions.toJson) ++
    [("initial_actions", .arr (blueprint.initialActions.map Action.toJson)),
      ("joins", .arr (blueprint.joins.map Join.toJson))] ++
    Json.presentTexts "metadata" blueprint.metadata ++
    [("name", .str blueprint.name),
      ("registers", .arr (blueprint.registers.map RegisterCall.toJson)),
      ("splits", .arr (blueprint.splits.map Split.toJson)),
      ("steps", .arr (blueprint.steps.map StepDef.toJson))])

def ofDocument? (document : Document) : Option Blueprint := do
  let members ← document.asMembers?
  let name ← members.required "name" Document.asText?
  let initialActions ←
    members.defaulted "initial_actions" (Document.asList? Action.ofDocument?) []
  let globalActions ← members.defaulted "global_actions" (Document.asList? Action.ofDocument?) []
  let commonActions ← members.defaulted "common_actions" readCommonActions? ∅
  let steps ← members.defaulted "steps" (Document.asList? StepDef.ofDocument?) []
  let splits ← members.defaulted "splits" (Document.asList? Split.ofDocument?) []
  let joins ← members.defaulted "joins" (Document.asList? Join.ofDocument?) []
  let globalConditions ← members.optional "global_conditions" Conditions.ofDocument?
  let registers ← members.defaulted "registers" (Document.asList? RegisterCall.ofDocument?) []
  let metadata ← members.defaulted "metadata" Document.asTexts? ∅
  return ⟨name, initialActions, globalActions, commonActions, steps, splits, joins,
    globalConditions, registers, metadata⟩

end Blueprint

end Caseflow
