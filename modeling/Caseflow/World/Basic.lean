import Caseflow.World.Request
import Caseflow.Run
/-! The world of a run: a store that may be out of order, the time, and the journal of what has
happened. Any method may fail at any of its calls; a call that fails leaves the store as it was. -/
namespace Caseflow

/-- What a call of a store method meets instead of an answer. -/
inductive Outage where
  | failure (error : StoreError)
  | absence
  deriving DecidableEq, Repr, Inhabited

/-- When the store is out of order: what the `n`-th call of each method meets, and how many calls of
each method there were. -/
structure Outages where
  verdict : StoreMethod → Nat → Option Outage := fun _ _ => none
  calls : StoreMethod → Nat := fun _ => 0

namespace Outages

instance : Inhabited Outages := ⟨{}⟩

/-- What the next call of the method meets. -/
def next (outages : Outages) (method : StoreMethod) : Option Outage :=
  outages.verdict method (outages.calls method)

/-- One more call of the method. -/
def count (outages : Outages) (method : StoreMethod) : Outages :=
  let calls := outages.calls method + 1
  { outages with calls := fun asked => if asked = method then calls else outages.calls asked }

/-- From now on the method passes this many calls and then meets the outage, until told
otherwise. -/
def plan (outages : Outages) (method : StoreMethod) (passing : Nat) (outage : Option Outage) :
    Outages where
  verdict := fun asked call =>
    if asked = method then (if call < passing then none else outage)
    else outages.verdict asked call
  calls := fun asked => if asked = method then 0 else outages.calls asked

end Outages

/-- The world of a run. The time stands still during a call. -/
structure World where
  store : Store := {}
  outages : Outages := {}
  now : Instant := ⟨0, 0⟩
  journal : List Event := []
  deriving Inhabited

namespace World

/-- Adds to the journal. -/
def note (world : World) (events : List Event) : World :=
  { world with journal := world.journal ++ events }

/-- Puts a request to the store as it is. -/
def serve (world : World) (request : StoreRequest) : Except StoreError request.Answer × World :=
  match world.store.answer world.now request with
  | .ok (answer, store) => (.ok answer, { world with store }.note (request.events answer))
  | .error error => (.error error, world)

/-- Puts a request to the store, which may meet an outage. -/
def ask (world : World) (request : StoreRequest) : Except StoreError request.Answer × World :=
  let counted := { world with outages := world.outages.count request.method }
  match world.outages.next request.method with
  | some (.failure error) => (.error error, counted)
  | some .absence =>
    match request.absence? with
    | some answer => (.ok answer, counted)
    | none => counted.serve request
  | none => counted.serve request

end World

/-- A request whose refusal is a failure of the run. -/
def Run.request (request : StoreRequest) : Run World request.Answer := fun world =>
  match world.ask request with
  | (.ok answer, after) => (.ok answer, after)
  | (.error error, after) => (.error (.store error), after)

namespace World

/-! ### Requests as computations -/

def createEntry (workflow : String) : Run World Entry :=
  Run.request (.createEntry workflow)

def findEntry? (entry : EntryId) : Run World (Option Entry) :=
  Run.request (.findEntry entry)

/-- The entry, whose absence is a failure. -/
def findEntry (entry : EntryId) : Run World Entry := do
  let found ← findEntry? entry
  Run.ofOption (.entryNotFound entry) found

def setEntryState (entry : EntryId) (state : EntryState) : Run World Unit :=
  Run.request (.setEntryState entry state)

def createStep (new : NewStep) : Run World Step :=
  Run.request (.createStep new)

def currentSteps (entry : EntryId) : Run World (List Step) :=
  Run.request (.currentSteps entry)

def historySteps (entry : EntryId) : Run World (List Step) :=
  Run.request (.historySteps entry)

def markFinished (handle : Step) (closing : Closing) : Run World Step :=
  Run.request (.markFinished handle closing)

def moveToHistory (handle : Step) : Run World Unit :=
  Run.request (.moveToHistory handle)

def properties (entry : EntryId) : Run World Values :=
  Run.request (.properties entry)

def query (query : Query) : Run World (List EntryId) :=
  Run.request (.query query)

/-- Adds an event to the journal. -/
def record (event : Event) : Run World Unit :=
  Run.change fun world => world.note [event]

end World

end Caseflow
