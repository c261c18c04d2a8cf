import Caseflow.Entry.Codec
/-! Search expressions over entries. A condition on steps holds of an entry when some step of the
named partition meets it. -/
namespace Caseflow

open Json (Document)

/-- The steps an entry is in, or those it has left (`QueryContext`). -/
inductive Partition where
  | current
  | history
  deriving DecidableEq, Repr, Inhabited

/-- An equality test on one field of a step (`FieldCondition`). -/
inductive FieldTest where
  | defId (id : StepDefId)
  | actionId (id : ActionId)
  | owner (name : String)
  | caller (name : String)
  | status (text : String)
  deriving DecidableEq, Repr, Inhabited

def FieldTest.holds (test : FieldTest) (step : Step) : Bool :=
  match test with
  | .defId id => step.defId = id
  | .actionId id => step.actionId = id
  | .owner name => step.owner = some name
  | .caller name => step.caller = some name
  | .status text => step.status = text

/-- A search expression (`StepQuery`). -/
inductive Query where
  | someStep (partition : Partition) (test : FieldTest)
  | ofWorkflow (name : String)
  | inState (state : EntryState)
  | all (parts : List Query)
  | any (parts : List Query)
  | not (part : Query)
  deriving Inhabited

namespace Query

mutual

/-- Whether the expression holds of an entry with these current and history steps (`matches`). No
part at all satisfies `all` and fails `any`. -/
def holds (entry : Entry) (current history : List Step) : Query → Bool
  | .someStep .current test => current.any test.holds
  | .someStep .history test => history.any test.holds
  | .ofWorkflow name => entry.workflow = name
  | .inState state => entry.state = state
  | .all parts => allHold entry current history parts
  | .any parts => anyHolds entry current history parts
  | .not part => !part.holds entry current history

def allHold (entry : Entry) (current history : List Step) : List Query → Bool
  | [] => true
  | part :: rest => part.holds entry current history && allHold entry current history rest

def anyHolds (entry : Entry) (current history : List Step) : List Query → Bool
  | [] => false
  | part :: rest => part.holds entry current history || anyHolds entry current history rest

end

end Query

/-! ### Documents -/

namespace Partition

def toJson : Partition → Json
  | .current => .str "Current"
  | .history => .str "History"

def ofDocument? : Document → Option Partition
  | .str "Current" => some .current
  | .str "History" => some .history
  | _ => none

end Partition

namespace FieldTest

def toJson : FieldTest → Json
  | .defId id => .obj [("StepDefId", .ofInt32 id)]
  | .actionId id => .obj [("ActionId", .ofInt32 id)]
  | .owner name => .obj [("Owner", .str name)]
  | .caller name => .obj [("Caller", .str name)]
  | .status text => .obj [("Status", .str text)]

def ofDocument? (document : Document) : Option FieldTest :=
  match document.asTagged? with
  | some ("StepDefId", id) => id.asInt32?.map .defId
  | some ("ActionId", id) => id.asInt32?.map .actionId
  | some ("Owner", name) => name.asText?.map .owner
  | some ("Caller", name) => name.asText?.map .caller
  | some ("Status", text) => text.asText?.map .status
  | _ => none

end FieldTest

namespace Query

mutual

def toJson : Query → Json
  | .someStep partition test =>
    .obj [("Step", .obj [("condition", test.toJson), ("context", partition.toJson)])]
  | .ofWorkflow name => .obj [("WorkflowName", .str name)]
  | .inState state => .obj [("EntryState", state.toJson)]
  | .all parts => .obj [("And", .arr (toJsonAll parts))]
  | .any parts => .obj [("Or", .arr (toJsonAll parts))]
  | .not part => .obj [("Not", part.toJson)]

def toJsonAll : List Query → List Json
  | [] => []
  | part :: rest => part.toJson :: toJsonAll rest

end

/-- Reads an expression with at most `limit` connectives inside one another. -/
def readWithin? : Nat → Document → Option Query
  | limit, document =>
    match document.asTagged? with
    | some ("Step", test) => do
      let members ← test.asMembers?
      let partition ← members.required "context" Partition.ofDocument?
      let test ← members.required "condition" FieldTest.ofDocument?
      return .someStep partition test
    | some ("WorkflowName", name) => name.asText?.map .ofWorkflow
    | some ("EntryState", state) => (EntryState.ofDocument? state).map .inState
    | some (connective, parts) =>
      match limit with
      | 0 => none
      | limit + 1 =>
        match connective with
        | "And" => (parts.asList? (readWithin? limit)).map .all
        | "Or" => (parts.asList? (readWithin? limit)).map .any
        | "Not" => (readWithin? limit parts).map .not
        | _ => none
    | none => none

/-- Reads an expression. A document never holds more connectives than its depth. -/
def ofDocument? (document : Document) : Option Query :=
  readWithin? document.depth document

end Query

end Caseflow
