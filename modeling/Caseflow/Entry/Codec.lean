import Caseflow.Entry.Basic
import Caseflow.Calendar.Timestamp
import Caseflow.Blueprint.Codec
/-! The JSON documents of entries and steps. -/
namespace Caseflow

open Json (Document present)

namespace Instant

def toJson (instant : Instant) : Json :=
  .str instant.text

def ofDocument? (document : Document) : Option Instant :=
  document.asText?.bind ofText?

end Instant

namespace EntryState

def toJson : EntryState → Json
  | .created => .str "Created"
  | .activated => .str "Activated"
  | .suspended => .str "Suspended"
  | .killed => .str "Killed"
  | .completed => .str "Completed"
  | .unknown => .str "Unknown"

def ofName? : String → Option EntryState
  | "Created" => some .created
  | "Activated" => some .activated
  | "Suspended" => some .suspended
  | "Killed" => some .killed
  | "Completed" => some .completed
  | "Unknown" => some .unknown
  | _ => none

def ofDocument? (document : Document) : Option EntryState :=
  document.asText?.bind ofName?

end EntryState

namespace Entry

def toJson (entry : Entry) : Json :=
  .obj [("created_at", entry.createdAt.toJson), ("id", .int entry.id),
    ("state", entry.state.toJson), ("workflow_name", .str entry.workflow)]

def ofDocument? (document : Document) : Option Entry := do
  let members ← document.asMembers?
  let id ← members.required "id" Document.asNat?
  let workflow ← members.required "workflow_name" Document.asText?
  let state ← members.required "state" EntryState.ofDocument?
  let createdAt ← members.required "created_at" Instant.ofDocument?
  return ⟨id, workflow, state, createdAt⟩

end Entry

namespace Step

def toJson (step : Step) : Json :=
  .obj ([("action_id", .ofInt32 step.actionId)] ++
    present "caller" (step.caller.map .str) ++
    present "due_date" (step.dueDate.map Instant.toJson) ++
    [("entry_id", .int step.entryId)] ++
    present "finish_date" (step.finishDate.map Instant.toJson) ++
    [("id", .int step.id)] ++
    present "owner" (step.owner.map .str) ++
    [("previous_step_ids", .arr (step.previous.map fun (id : StepId) => Json.int id)),
      ("start_date", step.startDate.toJson), ("status", .str step.status),
      ("step_def_id", .ofInt32 step.defId)])

def ofDocument? (document : Document) : Option Step := do
  let members ← document.asMembers?
  let id ← members.required "id" Document.asNat?
  let entryId ← members.required "entry_id" Document.asNat?
  let defId ← members.required "step_def_id" Document.asInt32?
  let actionId ← members.required "action_id" Document.asInt32?
  let owner ← members.optional "owner" Document.asText?
  let caller ← members.optional "caller" Document.asText?
  let status ← members.required "status" Document.asText?
  let startDate ← members.required "start_date" Instant.ofDocument?
  let dueDate ← members.optional "due_date" Instant.ofDocument?
  let finishDate ← members.optional "finish_date" Instant.ofDocument?
  let previous ← members.defaulted "previous_step_ids" (Document.asList? Document.asNat?) []
  return ⟨id, entryId, defId, actionId, owner, caller, status, startDate, dueDate, finishDate,
    previous⟩

end Step

end Caseflow
