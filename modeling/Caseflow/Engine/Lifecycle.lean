import Caseflow.World.Basic
/-! The lifecycle of an entry. Its state changes along the edges only, and an entry that reaches a
terminal state has all its steps closed first. -/
namespace Caseflow.Lifecycle

/-- Closes the steps in turn: each is marked as finished and moved to the history. -/
def closeSteps (closing : Closing) : List Step → Run World Unit :=
  Run.each fun step => do
    let _ ← World.markFinished step closing
    World.moveToHistory step

/-- Closes whatever step of the entry is current (`close_current_steps`). -/
def closeAll (finishedStatus : String) (entryId : EntryId) (actionId : ActionId)
    (caller : Option String) : Run World Unit := do
  let world ← Run.read
  let steps ← World.currentSteps entryId
  closeSteps ⟨actionId, world.now, finishedStatus, caller⟩ steps

/-- Moves the entry to a state on behalf of an action (`transition`), and says whether it was in
another one before. A move that is no edge fails and changes nothing. -/
def move (finishedStatus : String) (entryId : EntryId) (target : EntryState) (actionId : ActionId)
    (caller : Option String) : Run World Bool := do
  let entry ← World.findEntry entryId
  if entry.state = target then return false
  else if !entry.state.canMoveTo target then
    Run.fail (.invalidEntryState entryId entry.state target)
  else
    if target.isTerminal then closeAll finishedStatus entryId actionId caller
    World.setEntryState entryId target
    return true

/-- Moves the entry to a state on request (`change_state`); steps closed on the way record no
action. -/
def changeState (finishedStatus : String) (entryId : EntryId) (target : EntryState)
    (caller : Option String) : Run World Bool :=
  move finishedStatus entryId target 0 caller

/-- Completes the entry on behalf of an action (`complete`). -/
def complete (finishedStatus : String) (entryId : EntryId) (actionId : ActionId)
    (caller : Option String) : Run World Bool :=
  move finishedStatus entryId .completed actionId caller

end Caseflow.Lifecycle
