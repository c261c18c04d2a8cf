import Caseflow.Store.Query
import Caseflow.Text.Blank
/-! The store: every entry with its current steps, its history and its properties. Each operation
is a function on the whole store, and one that fails leaves no new store behind. -/
namespace Caseflow

/-- Named values that belong to an entry (`PropertySet`), or variables of a call. -/
abbrev Values := SortedMap String Json

/-- Why the store refuses. -/
inductive StoreError where
  | notFound (text : String)
  | conflict (text : String)
  | invalidInput (text : String)
  | backend (text : String)
  deriving DecidableEq, Repr, Inhabited

namespace StoreError

def message : StoreError → String
  | .notFound text => "record not found: " ++ text
  | .conflict text => "conflict: " ++ text
  | .invalidInput text => "invalid input: " ++ text
  | .backend text => "backend error: " ++ text

def entryNotFound (id : EntryId) : StoreError :=
  .notFound ("entry " ++ Text.integerText id ++ " not found")

def currentStepNotFound (step : Step) : StoreError :=
  .notFound ("current step " ++ Text.integerText step.id ++ " of entry " ++
    Text.integerText step.entryId ++ " not found")

def blankWorkflow : StoreError :=
  .invalidInput "workflow name must not be empty"

end StoreError

/-- What a step is created with. -/
structure NewStep where
  entryId : EntryId
  defId : StepDefId
  owner : Option String := none
  startDate : Instant
  dueDate : Option Instant := none
  status : String
  previous : List StepId := []
  deriving DecidableEq, Inhabited

namespace NewStep

/-- The open step that is created under a number. -/
def toStep (new : NewStep) (id : StepId) : Step where
  id := id
  entryId := new.entryId
  defId := new.defId
  owner := new.owner
  status := new.status
  startDate := new.startDate
  dueDate := new.dueDate
  previous := new.previous

end NewStep

/-- How a step is closed. -/
structure Closing where
  actionId : ActionId
  finishDate : Instant
  status : String
  caller : Option String
  deriving DecidableEq, Inhabited

namespace Closing

/-- The step with the closing noted on it. -/
def mark (closing : Closing) (step : Step) : Step :=
  { step with
    actionId := closing.actionId
    finishDate := some closing.finishDate
    status := closing.status
    caller := closing.caller }

end Closing

/-- An entry and what belongs to it. -/
structure Record where
  entry : Entry
  current : List Step := []
  history : List Step := []
  properties : Values := ∅
  deriving Inhabited

/-- All records (`InMemoryWorkflowStore`), in the order of their creation, and how many steps were
ever created. -/
structure Store where
  records : List Record := []
  stepCount : Nat := 0
  deriving Inhabited

namespace Store

def record? (store : Store) (id : EntryId) : Option Record :=
  store.records.find? (·.entry.id = id)

/-- Changes the record of one entry. -/
def modifyRecord (store : Store) (id : EntryId) (change : Record → Record) : Store :=
  { store with
    records := store.records.map fun record =>
      if record.entry.id = id then change record else record }

/-- Adds an entry of a workflow (`create_entry`). -/
def createEntry (store : Store) (workflow : String) (now : Instant) :
    Except StoreError (Entry × Store) :=
  if Text.isAllBlank workflow then .error .blankWorkflow
  else
    let entry : Entry := ⟨store.records.length + 1, workflow, .created, now⟩
    .ok (entry, { store with records := store.records ++ [{ entry }] })

def findEntry? (store : Store) (id : EntryId) : Option Entry :=
  (store.record? id).map (·.entry)

def setEntryState (store : Store) (id : EntryId) (state : EntryState) : Except StoreError Store :=
  match store.record? id with
  | none => .error (.entryNotFound id)
  | some _ =>
    .ok (store.modifyRecord id fun record => { record with entry := { record.entry with state } })

/-- Adds an open step after the current ones of its entry (`create_current_step`). -/
def createStep (store : Store) (new : NewStep) : Except StoreError (Step × Store) :=
  match store.record? new.entryId with
  | none => .error (.entryNotFound new.entryId)
  | some _ =>
    let step := new.toStep (store.stepCount + 1)
    let extended := store.modifyRecord new.entryId fun record =>
      { record with current := record.current ++ [step] }
    .ok (step, { extended with stepCount := store.stepCount + 1 })

/-- The current steps of an entry (`find_current_steps`), none for an unknown one. -/
def currentSteps (store : Store) (id : EntryId) : List Step :=
  ((store.record? id).map (·.current)).getD []

/-- The steps an entry has left (`find_history_steps`), none for an unknown one. -/
def historySteps (store : Store) (id : EntryId) : List Step :=
  ((store.record? id).map (·.history)).getD []

/-- The stored current step that a handle names. -/
def currentStep? (store : Store) (handle : Step) : Option Step :=
  (store.currentSteps handle.entryId).find? (·.id = handle.id)

/-- Notes a closing on a current step (`mark_finished`), which stays current. -/
def markFinished (store : Store) (handle : Step) (closing : Closing) :
    Except StoreError (Step × Store) :=
  match store.currentStep? handle with
  | none => .error (.currentStepNotFound handle)
  | some step =>
    .ok (closing.mark step, store.modifyRecord handle.entryId fun record =>
      { record with
        current := record.current.map fun held =>
          if held.id = handle.id then closing.mark held else held })

/-- Moves a current step behind the history (`move_to_history`). -/
def moveToHistory (store : Store) (handle : Step) : Except StoreError Store :=
  match store.currentStep? handle with
  | none => .error (.currentStepNotFound handle)
  | some step =>
    .ok (store.modifyRecord handle.entryId fun record =>
      { record with
        current := record.current.eraseP (·.id = handle.id)
        history := record.history ++ [step] })

/-- The properties of an entry (`property_set`). -/
def properties (store : Store) (id : EntryId) : Except StoreError Values :=
  match store.record? id with
  | none => .error (.entryNotFound id)
  | some record => .ok record.properties

/-- The properties of an entry, none for an unknown one. -/
def propertiesOf (store : Store) (id : EntryId) : Values :=
  ((store.record? id).map (·.properties)).getD ∅

/-- Changes the properties of an entry. -/
def modifyProperties (store : Store) (id : EntryId) (change : Values → Values) : Store :=
  store.modifyRecord id fun record => { record with properties := change record.properties }

/-- The numbers of the entries that a search expression holds of. -/
def query (store : Store) (query : Query) : List EntryId :=
  (store.records.filter fun record => query.holds record.entry record.current record.history).map
    (·.entry.id)

end Store

end Caseflow
