import Caseflow.Proofs.Observation
import Caseflow.Proofs.Orderly
import Caseflow.Proofs.Transitions
/-! Changes of the state of an entry. A move closes the steps of an entry one by one before it
reaches a terminal state, so it may stop half way with some steps closed, but never with the state
changed and a step still open. The execution of an action changes the state last, by such moves. -/
namespace Caseflow

open Run

/-- What a stretch of a run is seen against: when the store is out of order, and what the journal
told before. -/
structure Surroundings where
  verdict : StoreMethod → Nat → Option Outage
  past : List Event

/-- The store never answers that an entry is missing when it is there. -/
def Surroundings.Candid (around : Surroundings) : Prop :=
  ∀ call, around.verdict .findEntry call ≠ some .absence

/-- The world is orderly, its store is out of order in the given ways only, and its journal goes on
from what it told before. -/
structure World.Tidy (around : Surroundings) (world : World) : Prop where
  orderly : Orderly world.store world.journal
  verdict : world.outages.verdict = around.verdict
  grown : around.past <+: world.journal

/-- A tidy world in which the entry is stored as it is. -/
structure World.Holds (entry : Entry) (around : Surroundings) (world : World) : Prop
    extends world.Tidy around where
  held : world.store.findEntry? entry.id = some entry

namespace World

variable {around : Surroundings} {entry : Entry} {world after : World}

/-- Calls of extensions tell of no states. -/
theorem silent_calls {calls : List Event} (areCalls : ∀ event ∈ calls, Event.isCall event = true) :
    ∀ event ∈ calls, ∀ id, Event.stateOf? id event = none := by
  intro event member id
  have isCall := areCalls event member
  cases event with
  | extensionCalled kind type args view => rfl
  | _ => cases isCall

theorem Tidy.observed (tidy : world.Tidy around) (observed : world.Observed after) :
    after.Tidy around where
  orderly := by
    obtain ⟨calls, areCalls, reached⟩ := observed.journal
    rw [observed.store, reached]
    exact tidy.orderly.note (silent_calls areCalls)
  verdict := observed.verdict.trans tidy.verdict
  grown := by
    obtain ⟨calls, -, reached⟩ := observed.journal
    rw [reached]
    exact tidy.grown.trans (List.prefix_append _ _)

/-- What is written and noted together leaves a tidy world if it is orderly. -/
theorem Tidy.written (tidy : world.Tidy around) {store : Store} {events : List Event}
    (orderly : Orderly store (world.journal ++ events)) (method : StoreMethod) :
    World.Tidy around
      { world with
        store
        outages := world.outages.count method
        journal := world.journal ++ events } where
  orderly := orderly
  verdict := tidy.verdict
  grown := tidy.grown.trans (List.prefix_append _ _)

/-- A refused request is counted and changes nothing else. -/
theorem Tidy.counted (tidy : world.Tidy around) (method : StoreMethod) :
    World.Tidy around { world with outages := world.outages.count method } :=
  ⟨tidy.orderly, tidy.verdict, tidy.grown⟩

theorem Holds.observed (holds : world.Holds entry around) (observed : world.Observed after) :
    after.Holds entry around where
  toTidy := holds.toTidy.observed observed
  held := by rw [observed.store]; exact holds.held

/-- Notes on other things than states leave the entry as it is stored. -/
theorem Holds.note (holds : world.Holds entry around) {events : List Event}
    (silent : ∀ event ∈ events, ∀ id, Event.stateOf? id event = none) :
    (world.note events).Holds entry around where
  orderly := holds.orderly.note silent
  verdict := holds.verdict
  grown := holds.grown.trans (List.prefix_append _ _)
  held := holds.held

/-- What a request about steps keeps, from what the store keeps where it answers. -/
private theorem Holds.aboutSteps (holds : world.Holds entry around) {request : StoreRequest}
    {answer : Except StoreError request.Answer} (served : world.Served request answer after)
    (silent : ∀ value, ∀ event ∈ request.events value, ∀ id, Event.stateOf? id event = none)
    (definite : request.absence? = none)
    (kept : ∀ value store, world.store.answer world.now request = .ok (value, store) →
      Orderly store world.journal ∧
        store.findEntry? entry.id = world.store.findEntry? entry.id) :
    after.Holds entry around := by
  cases served with
  | refused error => exact ⟨holds.toTidy.counted _, holds.held⟩
  | answered value store done =>
    obtain ⟨orderly, same⟩ := kept value store done
    exact ⟨holds.toTidy.written (orderly.note (silent value)) _, same.trans holds.held⟩
  | absent value lost =>
    rw [definite] at lost
    cases lost

theorem Holds.finished (holds : world.Holds entry around) {handle : Step} {closing : Closing}
    {answer : Except StoreError (StoreRequest.markFinished handle closing).Answer}
    (served : world.Served (.markFinished handle closing) answer after) :
    after.Holds entry around := by
  refine holds.aboutSteps served (by simp [StoreRequest.events, Event.stateOf?]) rfl ?_
  intro value store done
  exact ⟨holds.orderly.markFinished done, Store.findEntry?_markFinished done entry.id⟩

theorem Holds.moved (holds : world.Holds entry around) {handle : Step}
    {answer : Except StoreError (StoreRequest.moveToHistory handle).Answer}
    (served : world.Served (.moveToHistory handle) answer after) : after.Holds entry around := by
  refine holds.aboutSteps served (by simp [StoreRequest.events, Event.stateOf?]) rfl ?_
  intro value store done
  obtain ⟨_, moved, same⟩ := exists_of_map_eq_ok done
  cases same
  exact ⟨holds.orderly.moveToHistory moved, Store.findEntry?_moveToHistory moved entry.id⟩

/-- Steps are created for entries that are not at their end. -/
theorem Holds.created (holds : world.Holds entry around) (live : entry.state.isTerminal = false)
    {new : NewStep} (own : new.entryId = entry.id)
    {answer : Except StoreError (StoreRequest.createStep new).Answer}
    (served : world.Served (.createStep new) answer after) : after.Holds entry around := by
  refine holds.aboutSteps served (by simp [StoreRequest.events, Event.stateOf?]) rfl ?_
  intro value store done
  refine ⟨holds.orderly.createStep done fun found isFound => ?_,
    Store.findEntry?_createStep done entry.id⟩
  rw [own, holds.held] at isFound
  cases isFound
  exact live

/-- The state of an entry is set along edges, and to a terminal one only where no step is left. -/
theorem Holds.stateSet (holds : world.Holds entry around) {state : EntryState}
    (edge : entry.state.canMoveTo state = true)
    (rested : state.isTerminal = true → world.store.currentSteps entry.id = [])
    {value : (StoreRequest.setEntryState entry.id state).Answer}
    (served : world.Served (.setEntryState entry.id state) (.ok value) after) :
    after.Holds { entry with state } around := by
  cases served with
  | answered value store done =>
    obtain ⟨_, set, same⟩ := exists_of_map_eq_ok done
    cases same
    have orderly := holds.orderly.setEntryState set holds.held edge rested
    refine ⟨holds.toTidy.written orderly _, ?_⟩
    refine (Store.findEntry?_setEntryState set entry.id).trans ?_
    simp [holds.held]
  | absent value lost => cases lost

end World

namespace Lifecycle

variable {around : Surroundings} {entry : Entry}

/-- What a move of an entry to a state can fail with. -/
inductive Refusal (around : Surroundings) (entry : Entry) (target : EntryState) : Failure → Prop where
  | store (error : StoreError) : Refusal around entry target (.store error)
  | absent (lost : ¬ around.Candid) : Refusal around entry target (.entryNotFound entry.id)
  | noEdge (apart : entry.state ≠ target) (missing : entry.state.canMoveTo target = false) :
      Refusal around entry target (.invalidEntryState entry.id entry.state target)

/-- Just the steps of these handles are still open. -/
private structure StillOpen (entry : Entry) (around : Surroundings) (handles : List Step)
    (world : World) : Prop extends world.Holds entry around where
  own : ∀ handle ∈ handles, handle.entryId = entry.id
  ids : (world.store.currentSteps entry.id).map (·.id) = handles.map (·.id)

private theorem StillOpen.finished {handle : Step} {rest : List Step} {world after : World}
    {closing : Closing} (opened : StillOpen entry around (handle :: rest) world)
    {answer : Except StoreError (StoreRequest.markFinished handle closing).Answer}
    (served : world.Served (.markFinished handle closing) answer after) :
    StillOpen entry around (handle :: rest) after := by
  refine ⟨opened.toHolds.finished served, opened.own, ?_⟩
  cases served with
  | refused error => exact opened.ids
  | answered value store done =>
    rw [← opened.ids]
    exact Store.currentIds_markFinished done entry.id
  | absent value lost => cases lost

private theorem StillOpen.moved {handle : Step} {rest : List Step} {world after : World}
    (opened : StillOpen entry around (handle :: rest) world)
    {value : (StoreRequest.moveToHistory handle).Answer}
    (served : world.Served (.moveToHistory handle) (.ok value) after) :
    StillOpen entry around rest after := by
  refine ⟨opened.toHolds.moved served,
    fun later member => opened.own later (List.mem_cons_of_mem _ member), ?_⟩
  cases served with
  | answered value store done =>
    obtain ⟨_, moved, same⟩ := exists_of_map_eq_ok done
    cases same
    show (store.currentSteps entry.id).map (·.id) = _
    have own := opened.own handle (by simp)
    rw [Store.currentSteps_moveToHistory moved, if_pos own.symm]
    have same := opened.ids
    cases steps : world.store.currentSteps entry.id with
    | nil => simp [steps] at same
    | cons first others =>
      rw [steps] at same
      simp only [List.map_cons, List.cons.injEq] at same
      simpa [same.1] using same.2
  | absent value lost => cases lost

private theorem closeSteps_meets {target : EntryState} (closing : Closing) (handles : List Step) :
    Meets (StillOpen entry around handles) (closeSteps closing handles)
      (fun _ => StillOpen entry around [])
      (fun failure world => world.Holds entry around ∧ Refusal around entry target failure) := by
  unfold closeSteps
  refine meets_each (StillOpen entry around) fun handle rest => ?_
  refine meets_bind_via (fun _ => StillOpen entry around (handle :: rest)) ?_ fun _ => ?_
  · refine meets_request (fun world value after opened served => opened.finished served)
      fun world error after opened served => ?_
    exact ⟨opened.toHolds.finished served, .store error⟩
  · refine meets_request (fun world value after opened served => opened.moved served)
      fun world error after opened served => ?_
    exact ⟨opened.toHolds.moved served, .store error⟩

/-- Closing all steps of an entry leaves it without a current step, unless the store refuses. -/
theorem closeAll_meets {target : EntryState} (finishedStatus : String) (actionId : ActionId)
    (caller : Option String) :
    Meets (World.Holds entry around) (closeAll finishedStatus entry.id actionId caller)
      (fun _ world => world.Holds entry around ∧ world.store.currentSteps entry.id = [])
      (fun failure world => world.Holds entry around ∧ Refusal around entry target failure) := by
  unfold closeAll
  refine meets_from fun start holds => ?_
  refine meets_bind_via (fun _ => World.Observed start)
    (meets_read fun world same => same ▸ .refl start) fun _ => ?_
  refine meets_bind (meets_failures (World.currentSteps_observes start entry.id)
    fun failure world ends => ?_) fun handles => meets_given fun listed => ?_
  · obtain ⟨observed, error, rfl⟩ := ends
    exact ⟨holds.observed observed, .store error⟩
  · refine meets_mono (closeSteps_meets _ handles) (fun world observed => ?_)
      (fun _ world opened => ⟨opened.toHolds, by simpa using opened.ids⟩) fun _ _ ends => ends
    refine ⟨holds.observed observed, ?_, by rw [observed.store, listed]⟩
    rw [listed]
    exact holds.orderly.filed entry.id

/-- A stored entry is found, unless the store refuses or loses it. -/
theorem findEntry_meets {target : EntryState} :
    Meets (World.Holds entry around) (World.findEntry entry.id)
      (fun found world => found = entry ∧ world.Holds entry around)
      (fun failure world => world.Holds entry around ∧ Refusal around entry target failure) := by
  refine meets_from fun start holds => ?_
  refine meets_mono (meets_at (World.findEntry_observes start entry.id) (.refl start))
    (fun _ same => same) (fun found world ends => ?_) fun failure world ends => ?_
  · exact ⟨Option.some.inj (ends.1.symm.trans holds.held), holds.observed ends.2⟩
  · obtain ⟨observed, notFound⟩ := ends
    refine ⟨holds.observed observed, ?_⟩
    cases notFound with
    | store error => exact .store error
    | missing gone =>
      rw [holds.held] at gone
      cases gone
    | lost call met => exact .absent fun candid => candid call (holds.verdict ▸ met)

/-- A move that answers has brought the entry to its target; one that fails has left its state as it
was. -/
theorem move_meets (finishedStatus : String) (target : EntryState) (actionId : ActionId)
    (caller : Option String) :
    Meets (World.Holds entry around) (move finishedStatus entry.id target actionId caller)
      (fun _ => World.Holds { entry with state := target } around)
      (fun failure world => world.Holds entry around ∧ Refusal around entry target failure) := by
  unfold move
  refine meets_bind findEntry_meets fun found => meets_given fun isEntry => ?_
  rw [isEntry]
  split
  · rename_i already
    exact meets_pure fun world holds => by rw [← already]; exact holds
  · rename_i apart
    split
    · rename_i missing
      exact meets_fail fun world holds => ⟨holds, .noEdge apart (by simpa using missing)⟩
    · rename_i present
      have edge : entry.state.canMoveTo target = true := by simpa using present
      have setting : Meets
          (fun world => world.Holds entry around ∧
            (target.isTerminal = true → world.store.currentSteps entry.id = []))
          (do
            World.setEntryState entry.id target
            return true)
          (fun _ => World.Holds { entry with state := target } around)
          (fun failure world =>
            world.Holds entry around ∧ Refusal around entry target failure) := by
        refine meets_bind_via (fun _ => World.Holds { entry with state := target } around)
          ?_ fun _ => meets_pure fun _ holds => holds
        refine meets_request (fun world value after ready served => ?_)
          fun world error after ready served => ?_
        · exact ready.1.stateSet edge ready.2 served
        · cases served with
          | refused error => exact ⟨⟨ready.1.toTidy.counted _, ready.1.held⟩, .store error⟩
      dsimp only
      split
      · exact meets_bind (meets_answers (closeAll_meets finishedStatus actionId caller)
          fun _ _ rested => ⟨rested.1, fun _ => rested.2⟩) fun _ => setting
      · rename_i passing
        exact meets_mono setting (fun _ holds => ⟨holds, fun ends => absurd ends passing⟩)
          (fun _ _ holds => holds) fun _ _ ends => ends

end Lifecycle

end Caseflow
