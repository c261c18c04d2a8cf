import Caseflow.Proofs.Requests
import Caseflow.Proofs.StoreViews
/-! Fitting requests. A request fits a store that can do what it asks for: the entries and steps it
names are there, and what is to be created is sound. A world proceeds from another one where every
request in between was fitting when it was put, whether or not an outage kept the store from
answering it; so a store in order has refused none of them. -/
namespace Caseflow

namespace Store

/-- The numbers of the current steps of an entry. -/
def currentIds (store : Store) (id : EntryId) : List StepId :=
  (store.currentSteps id).map (·.id)

/-- The numbers of the steps an entry has left. -/
def historyIds (store : Store) (id : EntryId) : List StepId :=
  (store.historySteps id).map (·.id)

@[simp] theorem currentIds_modifyProperties (store : Store) (id other : EntryId)
    (change : Values → Values) :
    (store.modifyProperties id change).currentIds other = store.currentIds other := by
  simp [currentIds]

@[simp] theorem historyIds_modifyProperties (store : Store) (id other : EntryId)
    (change : Values → Values) :
    (store.modifyProperties id change).historyIds other = store.historyIds other := by
  simp [historyIds]

/-- A step that is marked as finished stays current. -/
theorem currentIds_markFinished {store after : Store} {handle step : Step} {closing : Closing}
    (done : store.markFinished handle closing = .ok (step, after)) (id : EntryId) :
    after.currentIds id = store.currentIds id :=
  map_currentSteps_markFinished (fun _ => rfl) done id

theorem mem_currentIds_iff {store : Store} {handle : Step} :
    handle.id ∈ store.currentIds handle.entryId ↔ (store.currentStep? handle).isSome := by
  unfold currentIds currentStep?
  simp

end Store

/-- The store can do what is asked for. A new entry has a name; an entry that is named is there,
and a step that is named is current; and a new step follows steps that its entry has left, each of
them once. -/
def StoreRequest.Fits (store : Store) : StoreRequest → Prop
  | .createEntry workflow => Text.isAllBlank workflow = false
  | .setEntryState entry _ => (store.findEntry? entry).isSome
  | .createStep new => (store.findEntry? new.entryId).isSome ∧ new.previous.Nodup ∧
      ∀ step ∈ new.previous, step ∈ store.historyIds new.entryId
  | .markFinished handle _ => handle.id ∈ store.currentIds handle.entryId
  | .moveToHistory handle => handle.id ∈ store.currentIds handle.entryId
  | .properties entry => (store.findEntry? entry).isSome
  | .findEntry _ | .currentSteps _ | .historySteps _ | .query _ => True

/-- An entry that is found has a record. -/
private theorem record_of_found {store : Store} {id : EntryId}
    (found : (store.findEntry? id).isSome) : ∃ record, store.record? id = some record := by
  refine Option.isSome_iff_exists.mp ?_
  simpa [Store.findEntry?] using found

/-- The store answers a request that fits it. -/
theorem StoreRequest.Fits.answered {store : Store} {request : StoreRequest}
    (fits : request.Fits store) (now : Instant) (error : StoreError) :
    store.answer now request ≠ .error error := by
  cases request with
  | createEntry workflow =>
    have named : Text.isAllBlank workflow = false := fits
    simp [Store.answer, Store.createEntry, named]
    intro same
    cases same
  | setEntryState entry state =>
    obtain ⟨record, held⟩ := record_of_found fits
    simp [Store.answer, Store.setEntryState, held, Except.map]
  | createStep new =>
    obtain ⟨record, held⟩ := record_of_found fits.1
    simp [Store.answer, Store.createStep, held]
    intro same
    cases same
  | markFinished handle closing =>
    obtain ⟨step, held⟩ := Option.isSome_iff_exists.mp (Store.mem_currentIds_iff.mp fits)
    simp [Store.answer, Store.markFinished, held]
    intro same
    cases same
  | moveToHistory handle =>
    obtain ⟨step, held⟩ := Option.isSome_iff_exists.mp (Store.mem_currentIds_iff.mp fits)
    simp [Store.answer, Store.moveToHistory, held, Except.map]
  | properties entry =>
    obtain ⟨record, held⟩ := record_of_found fits
    simp [Store.answer, Store.properties, held, Except.map]
  | findEntry | currentSteps | historySteps | query => simp [Store.answer]

namespace World

/-- Since `start` the store was asked for nothing that did not fit it at that time. Properties may
have been changed, and events noted. -/
inductive Proceeds (start : World) : World → Prop where
  | here : Proceeds start start
  | asked {world after : World} {request : StoreRequest} {answer : Except StoreError request.Answer}
      (before : Proceeds start world) (fits : request.Fits world.store)
      (served : Served world request answer after) : Proceeds start after
  | properties {world : World} (before : Proceeds start world) (id : EntryId)
      (change : Values → Values) :
      Proceeds start { world with store := world.store.modifyProperties id change }
  | noted {world : World} (before : Proceeds start world) (events : List Event) :
      Proceeds start (world.note events)

/-- A failure for the store comes from an outage. -/
def Explains (start : World) (failure : Failure) : Prop :=
  ∀ error, failure = .store error →
    ∃ method call, start.outages.verdict method call = some (.failure error)

variable {start middle world after : World}

theorem Proceeds.trans (left : start.Proceeds middle) (right : middle.Proceeds world) :
    start.Proceeds world := by
  induction right with
  | here => exact left
  | asked before fits served ih => exact ih.asked fits served
  | properties before id change ih => exact ih.properties id change
  | noted before events ih => exact ih.noted events

/-- Nothing changes when the store will be out of order. -/
theorem Proceeds.verdict (proceeds : start.Proceeds world) :
    world.outages.verdict = start.outages.verdict := by
  induction proceeds with
  | here => rfl
  | asked before fits served ih => exact (verdict_of_served served).trans ih
  | properties before id change ih => exact ih
  | noted before events ih => exact ih

theorem Explains.trans (proceeds : start.Proceeds middle) {failure : Failure}
    (explains : middle.Explains failure) : start.Explains failure := by
  intro error same
  obtain ⟨method, call, met⟩ := explains error same
  exact ⟨method, call, proceeds.verdict ▸ met⟩

/-- A fitting request is refused by an outage only. -/
theorem Proceeds.explains (proceeds : start.Proceeds world) {request : StoreRequest}
    (fits : request.Fits world.store) {error : StoreError}
    (served : Served world request (.error error) after) : start.Explains (.store error) := by
  intro _ same
  cases same
  cases served with
  | refused error cause =>
    rcases cause with outage | refused
    · rw [Outages.next, proceeds.verdict] at outage
      exact ⟨_, _, outage⟩
    · exact absurd refused (fits.answered _ _)

/-- Run in this world, the computation puts fitting requests only, and the store refuses none of
them but in an outage. -/
def Suits {α : Type} (start : World) (computation : Run World α) : Prop :=
  Run.Meets (· = start) computation (fun _ => start.Proceeds)
    fun failure world => start.Proceeds world ∧ start.Explains failure

end World

namespace Run

variable {start : World} {before : World → Prop} {request : StoreRequest}

/-- The contract of a request that fits wherever it is put: what refuses it is an outage, which
leaves the store as it is. -/
theorem meets_fitting {answered : request.Answer → World → Prop} {failed : Failure → World → Prop}
    (fits : ∀ world, before world → start.Proceeds world ∧ request.Fits world.store)
    (answers : ∀ world value after, before world → start.Proceeds after →
      World.Served world request (.ok value) after → answered value after)
    (refusals : ∀ world error after, before world → start.Proceeds after →
      start.Explains (.store error) → after.store = world.store → failed (.store error) after) :
    Meets before (Run.request request) answered failed := by
  refine meets_request (fun world value after holds served => ?_)
    fun world error after holds served => ?_
  · obtain ⟨proceeds, fit⟩ := fits world holds
    exact answers world value after holds (proceeds.asked fit served) served
  · obtain ⟨proceeds, fit⟩ := fits world holds
    refine refusals world error after holds (proceeds.asked fit served)
      (proceeds.explains fit served) ?_
    cases served
    rfl

/-- What suits any world that it may be run in goes on from the beginning. -/
theorem meets_onwards {α : Type} {computation : Run World α}
    (onwards : ∀ middle, before middle → start.Proceeds middle ∧ middle.Suits computation) :
    Meets before computation (fun _ => start.Proceeds)
      (fun failure world => start.Proceeds world ∧ start.Explains failure) := by
  refine meets_from fun middle holds => ?_
  obtain ⟨proceeds, suits⟩ := onwards middle holds
  refine meets_mono suits (fun _ same => same) ?_ ?_
  · exact fun _ _ later => proceeds.trans later
  · exact fun _ _ ends => ⟨proceeds.trans ends.1, ends.2.trans proceeds⟩

theorem suits_of_keeps {α : Type} {computation : Run World α}
    (keeps : Keeps start.Proceeds start.Explains computation) : start.Suits computation :=
  meets_at keeps .here

theorem keeps_fitting (fits : ∀ world, start.Proceeds world → request.Fits world.store) :
    Keeps start.Proceeds start.Explains (Run.request request) :=
  meets_fitting (fun world proceeds => ⟨proceeds, fits world proceeds⟩)
    (fun _ _ _ _ proceeds _ => proceeds) fun _ _ _ _ proceeds explains _ => ⟨proceeds, explains⟩

end Run

end Caseflow
