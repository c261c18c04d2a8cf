import Caseflow.Blueprint.Condition
import Caseflow.Calendar.Instant
/-! Entries, which are running instances of a workflow, and the steps they are in or were in. -/
namespace Caseflow

/-- The number of an entry, counted from one. -/
abbrev EntryId := Nat

/-- The number of a step, counted from one over all entries. -/
abbrev StepId := Nat

/-- The lifecycle state of an entry. -/
inductive EntryState where
  | created
  | activated
  | suspended
  | killed
  | completed
  | unknown
  deriving DecidableEq, Repr, Inhabited

namespace EntryState

/-- The edges of the lifecycle (`can_transition_to`). Staying in a state is not an edge. -/
def canMoveTo : EntryState → EntryState → Bool
  | .created, .activated => true
  | .activated, .suspended => true
  | .activated, .killed => true
  | .activated, .completed => true
  | .suspended, .activated => true
  | .suspended, .killed => true
  | _, _ => false

theorem apart_of_edge {state target : EntryState} (edge : state.canMoveTo target = true) :
    state ≠ target := by
  rintro rfl
  cases state <;> cases edge

/-- An entry in a terminal state has no current steps (`is_terminal`). -/
def isTerminal : EntryState → Bool
  | .killed => true
  | .completed => true
  | _ => false

def text : EntryState → String
  | .created => "CREATED"
  | .activated => "ACTIVATED"
  | .suspended => "SUSPENDED"
  | .killed => "KILLED"
  | .completed => "COMPLETED"
  | .unknown => "UNKNOWN"

end EntryState

/-- A running instance of the workflow of this name (`WorkflowEntry`). -/
structure Entry where
  id : EntryId
  workflow : String
  state : EntryState
  createdAt : Instant
  deriving DecidableEq, Repr, Inhabited

namespace Entry

/-- Actions need an active entry (`is_active`). -/
def isActive (entry : Entry) : Bool :=
  entry.state = .activated

end Entry

/-- A position of an entry: current while it is open, history once it was left. The action
and the caller are those that closed it; an open step has action 0 and no caller. -/
structure Step where
  id : StepId
  entryId : EntryId
  defId : StepDefId
  actionId : ActionId := 0
  owner : Option String := none
  caller : Option String := none
  status : String
  startDate : Instant
  dueDate : Option Instant := none
  finishDate : Option Instant := none
  previous : List StepId := []
  deriving DecidableEq, Inhabited

namespace Step

def isFinished (step : Step) : Bool :=
  step.finishDate.isSome

end Step

end Caseflow
