import Mathlib.Data.List.Chain
import Caseflow.Proofs.Requests
import Caseflow.Proofs.StoreViews
/-! Orderly worlds: the journal tells of every entry a history of states that follows the lifecycle
and ends in the stored one, and an entry at its end has no current steps. Every request keeps a
world orderly, provided it creates no step for an entry at its end and sets no state but along an
edge of the lifecycle. -/
namespace Caseflow

/-- The state that the event gives to an entry. -/
def Event.stateOf? (id : EntryId) : Event → Option EntryState
  | .entryCreated entry => if entry = id then some .created else none
  | .entryStateSet entry state => if entry = id then some state else none
  | _ => none

/-- The states an entry was given, in the order in which the store was given them. -/
def statesTold (journal : List Event) (id : EntryId) : List EntryState :=
  journal.filterMap (Event.stateOf? id)

/-- The states begin with the first of the lifecycle and go along its edges. -/
structure FollowsLifecycle (states : List EntryState) : Prop where
  starts : ∀ first ∈ states.head?, first = .created
  steps : states.IsChain fun earlier later => earlier.canMoveTo later = true

namespace FollowsLifecycle

theorem nil : FollowsLifecycle [] where
  starts := by simp
  steps := .nil

theorem snoc {states : List EntryState} {last next : EntryState}
    (follows : FollowsLifecycle states) (ends : states.getLast? = some last)
    (edge : last.canMoveTo next = true) : FollowsLifecycle (states ++ [next]) where
  starts := by
    intro first starts
    apply follows.starts
    cases states with
    | nil => simp at ends
    | cons head rest => simpa using starts
  steps := by
    rw [List.isChain_append]
    refine ⟨follows.steps, .singleton next, fun earlier isLast later isNext => ?_⟩
    rw [ends] at isLast
    cases isLast
    cases isNext
    exact edge

end FollowsLifecycle

/-- What the store holds agrees with the journal, and entries at the end of their lifecycle are at
rest. -/
structure Orderly (store : Store) (journal : List Event) : Prop where
  numbered : store.Numbered
  filed : ∀ id, ∀ step ∈ store.currentSteps id, step.entryId = id
  rested : ∀ id entry, store.findEntry? id = some entry → entry.state.isTerminal = true →
    store.currentSteps id = []
  follows : ∀ id, FollowsLifecycle (statesTold journal id)
  told : ∀ id, (statesTold journal id).getLast? = (store.findEntry? id).map (·.state)

namespace Orderly

variable {store after : Store} {journal : List Event}

theorem new : Orderly {} [] where
  numbered := rfl
  filed := by simp [Store.currentSteps, Store.record?]
  rested := by simp [Store.findEntry?, Store.record?]
  follows _ := .nil
  told _ := rfl

/-- Other events tell of no states. -/
theorem note (orderly : Orderly store journal) {events : List Event}
    (silent : ∀ event ∈ events, ∀ id, Event.stateOf? id event = none) :
    Orderly store (journal ++ events) := by
  have same : ∀ id, statesTold (journal ++ events) id = statesTold journal id := by
    intro id
    have nothing : events.filterMap (Event.stateOf? id) = [] :=
      List.filterMap_eq_nil_iff.mpr fun event member => silent event member id
    simp [statesTold, nothing]
  exact {
    numbered := orderly.numbered
    filed := orderly.filed
    rested := orderly.rested
    follows := fun id => by rw [same]; exact orderly.follows id
    told := fun id => by rw [same]; exact orderly.told id }

/-- A store that differs in steps only stays orderly if they are filed, and none is added to an
entry at its end. -/
theorem of_steps (orderly : Orderly store journal) (numbered : after.Numbered)
    (entries : ∀ id, after.findEntry? id = store.findEntry? id)
    (filed : ∀ id, ∀ step ∈ after.currentSteps id, step.entryId = id)
    (rested : ∀ id entry, store.findEntry? id = some entry → entry.state.isTerminal = true →
      after.currentSteps id = []) : Orderly after journal where
  numbered := numbered
  filed := filed
  rested id entry found := rested id entry (entries id ▸ found)
  follows := orderly.follows
  told id := by rw [entries]; exact orderly.told id

theorem modifyProperties (orderly : Orderly store journal) (id : EntryId)
    (change : Values → Values) : Orderly (store.modifyProperties id change) journal :=
  orderly.of_steps (Store.numbered_modifyProperties id change orderly.numbered) (by simp)
    (by simpa using orderly.filed) (by simpa using orderly.rested)

theorem createStep (orderly : Orderly store journal) {new : NewStep} {step : Step}
    (done : store.createStep new = .ok (step, after))
    (live : ∀ entry, store.findEntry? new.entryId = some entry → entry.state.isTerminal = false) :
    Orderly after journal := by
  refine orderly.of_steps (Store.numbered_createStep orderly.numbered done)
    (Store.findEntry?_createStep done) (fun id held member => ?_) fun id entry found ended => ?_
  · rw [Store.currentSteps_createStep done] at member
    split at member
    · rename_i here
      rcases List.mem_append.mp member with old | created
      · exact orderly.filed id held old
      · obtain ⟨-, rfl, -⟩ := Store.createStep_eq done
        rw [List.mem_singleton.mp created, here]
        rfl
    · exact orderly.filed id held member
  · rw [Store.currentSteps_createStep done]
    split
    · rename_i here
      rw [live entry (here ▸ found)] at ended
      cases ended
    · exact orderly.rested id entry found ended

theorem markFinished (orderly : Orderly store journal) {handle step : Step} {closing : Closing}
    (done : store.markFinished handle closing = .ok (step, after)) : Orderly after journal := by
  refine orderly.of_steps (Store.numbered_markFinished orderly.numbered done)
    (Store.findEntry?_markFinished done) (fun id held member => ?_) fun id entry found ended => ?_
  · rw [Store.currentSteps_markFinished done] at member
    split at member
    · obtain ⟨old, isOld, rfl⟩ := List.mem_map.mp member
      rw [← orderly.filed id old isOld]
      split <;> rfl
    · exact orderly.filed id held member
  · rw [Store.currentSteps_markFinished done, orderly.rested id entry found ended]
    simp

theorem moveToHistory (orderly : Orderly store journal) {handle : Step}
    (done : store.moveToHistory handle = .ok after) : Orderly after journal := by
  refine orderly.of_steps (Store.numbered_moveToHistory orderly.numbered done)
    (Store.findEntry?_moveToHistory done) (fun id held member => ?_) fun id entry found ended => ?_
  · rw [Store.currentSteps_moveToHistory done] at member
    split at member
    · exact orderly.filed id held (List.mem_of_mem_eraseP member)
    · exact orderly.filed id held member
  · rw [Store.currentSteps_moveToHistory done, orderly.rested id entry found ended]
    simp

theorem createEntry (orderly : Orderly store journal) {workflow : String} {now : Instant}
    {entry : Entry} (done : store.createEntry workflow now = .ok (entry, after)) :
    Orderly after (journal ++ [.entryCreated entry.id]) := by
  have absent : statesTold journal entry.id = [] := by
    rw [← List.getLast?_eq_none_iff, orderly.told,
      Store.findEntry?_created_before orderly.numbered done]
    rfl
  have fresh : entry.state = .created := by rw [(Store.createEntry_eq done).1]
  have told : ∀ id, statesTold (journal ++ [.entryCreated entry.id]) id =
      if id = entry.id then [.created] else statesTold journal id := by
    intro id
    by_cases here : id = entry.id
    · subst here
      have appended := absent
      unfold statesTold at appended ⊢
      simp [appended, Event.stateOf?]
    · have apart : ¬ entry.id = id := fun same => here same.symm
      simp [statesTold, Event.stateOf?, here, apart]
  refine {
    numbered := Store.numbered_createEntry orderly.numbered done
    filed := fun id step member => ?_
    rested := fun id held found ended => ?_
    follows := fun id => ?_
    told := fun id => ?_ }
  · rw [Store.currentSteps_createEntry orderly.numbered done] at member
    split at member
    · cases member
    · exact orderly.filed id step member
  · rw [Store.currentSteps_createEntry orderly.numbered done]
    rw [Store.findEntry?_createEntry orderly.numbered done] at found
    split
    · rfl
    · rename_i elsewhere
      rw [if_neg elsewhere] at found
      exact orderly.rested id held found ended
  · rw [told]
    split
    · exact ⟨by simp, .singleton _⟩
    · exact orderly.follows id
  · rw [told, Store.findEntry?_createEntry orderly.numbered done]
    split
    · simp [fresh]
    · exact orderly.told id

theorem setEntryState (orderly : Orderly store journal) {id : EntryId} {state : EntryState}
    {entry : Entry} (done : store.setEntryState id state = .ok after)
    (found : store.findEntry? id = some entry) (edge : entry.state.canMoveTo state = true)
    (rested : state.isTerminal = true → store.currentSteps id = []) :
    Orderly after (journal ++ [.entryStateSet id state]) := by
  have told : ∀ other, statesTold (journal ++ [.entryStateSet id state]) other =
      if other = id then statesTold journal other ++ [state] else statesTold journal other := by
    intro other
    by_cases here : other = id
    · simp [statesTold, Event.stateOf?, here]
    · have apart : ¬ id = other := fun same => here same.symm
      simp [statesTold, Event.stateOf?, here, apart]
  refine {
    numbered := Store.numbered_setEntryState orderly.numbered done
    filed := fun other => ?_
    rested := fun other held foundAfter ended => ?_
    follows := fun other => ?_
    told := fun other => ?_ }
  · rw [Store.currentSteps_setEntryState done]
    exact orderly.filed other
  · rw [Store.currentSteps_setEntryState done]
    rw [Store.findEntry?_setEntryState done] at foundAfter
    obtain ⟨before, foundBefore, rfl⟩ := Option.map_eq_some_iff.mp foundAfter
    by_cases here : other = id
    · subst here
      exact rested (by simpa using ended)
    · exact orderly.rested other before foundBefore (by simpa [here] using ended)
  · rw [told]
    split
    · rename_i here
      subst here
      exact (orderly.follows other).snoc ((orderly.told other).trans (by rw [found]; rfl)) edge
    · exact orderly.follows other
  · rw [told, Store.findEntry?_setEntryState done]
    by_cases here : other = id
    · subst here
      simp [found]
    · simpa [here] using orderly.told other

end Orderly

end Caseflow
