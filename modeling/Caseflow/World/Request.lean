import Caseflow.Scope
import Caseflow.Failure
/-! Requests to the store. Whatever touches a store, the engine or an extension, does so by one of
these, so a run of a store is a list of requests. -/
namespace Caseflow

/-- The methods of a store. -/
inductive StoreMethod where
  | createEntry
  | findEntry
  | setEntryState
  | createStep
  | currentSteps
  | historySteps
  | markFinished
  | moveToHistory
  | properties
  | query
  deriving DecidableEq, Repr, Inhabited

/-- A call of a store method with its arguments. Steps are named by handles, which may be stale. -/
inductive StoreRequest where
  | createEntry (workflow : String)
  | findEntry (entry : EntryId)
  | setEntryState (entry : EntryId) (state : EntryState)
  | createStep (new : NewStep)
  | currentSteps (entry : EntryId)
  | historySteps (entry : EntryId)
  | markFinished (handle : Step) (closing : Closing)
  | moveToHistory (handle : Step)
  | properties (entry : EntryId)
  | query (query : Query)

/-- What has happened: changes of the store, calls of extensions, actions begun. -/
inductive Event where
  | entryCreated (entry : EntryId)
  | entryStateSet (entry : EntryId) (state : EntryState)
  | stepCreated (step : StepId) (definition : StepDefId)
  | stepFinished (step : StepId) (action : ActionId) (status : String) (caller : Option String)
  | stepMoved (step : StepId)
  | extensionCalled (kind : ExtensionKind) (type : String) (args : Args) (view : ScopeView)
  | actionBegun (entry : EntryId) (key : ActionKey)
  deriving DecidableEq, Inhabited

namespace StoreRequest

def method : StoreRequest → StoreMethod
  | .createEntry _ => .createEntry
  | .findEntry _ => .findEntry
  | .setEntryState _ _ => .setEntryState
  | .createStep _ => .createStep
  | .currentSteps _ => .currentSteps
  | .historySteps _ => .historySteps
  | .markFinished _ _ => .markFinished
  | .moveToHistory _ => .moveToHistory
  | .properties _ => .properties
  | .query _ => .query

/-- The type of the answer to a request. -/
def Answer : StoreRequest → Type
  | .createEntry _ => Entry
  | .findEntry _ => Option Entry
  | .setEntryState _ _ => Unit
  | .createStep _ => Step
  | .currentSteps _ => List Step
  | .historySteps _ => List Step
  | .markFinished _ _ => Step
  | .moveToHistory _ => Unit
  | .properties _ => Values
  | .query _ => List EntryId

/-- The answer of a store that has lost everything, where a method can give it. -/
def absence? : (request : StoreRequest) → Option request.Answer
  | .findEntry _ => some (none : Option Entry)
  | _ => none

/-- The change of the store that an answered request stands for. -/
def events : (request : StoreRequest) → request.Answer → List Event
  | .createEntry _, entry => [.entryCreated (Entry.id entry)]
  | .setEntryState entry state, _ => [.entryStateSet entry state]
  | .createStep _, step => [.stepCreated (Step.id step) (Step.defId step)]
  | .markFinished _ _, step =>
    [.stepFinished (Step.id step) (Step.actionId step) (Step.status step) (Step.caller step)]
  | .moveToHistory handle, _ => [.stepMoved handle.id]
  | _, _ => []

end StoreRequest

namespace Store

/-- Answers a request, with the store after it. -/
def answer (store : Store) (now : Instant) :
    (request : StoreRequest) → Except StoreError (request.Answer × Store)
  | .createEntry workflow => store.createEntry workflow now
  | .findEntry entry => .ok (store.findEntry? entry, store)
  | .setEntryState entry state => (store.setEntryState entry state).map fun after => ((), after)
  | .createStep new => store.createStep new
  | .currentSteps entry => .ok (store.currentSteps entry, store)
  | .historySteps entry => .ok (store.historySteps entry, store)
  | .markFinished handle closing => store.markFinished handle closing
  | .moveToHistory handle => (store.moveToHistory handle).map fun after => ((), after)
  | .properties entry => (store.properties entry).map fun properties => (properties, store)
  | .query query => .ok (store.query query, store)

end Store

end Caseflow
