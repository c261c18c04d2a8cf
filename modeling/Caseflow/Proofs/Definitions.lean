import Caseflow.Proofs.Shapes
/-! Steps and their definitions. As long as all engines that work on a store hold the same
blueprint under the name of a workflow, every step in the store, current or left, is of a
definition in the blueprint of its entry: an entry keeps its workflow, a step keeps its definition,
and a step is created of a definition in the blueprint only. -/
namespace Caseflow

variable {shared : String → Option Blueprint}

namespace Store

/-- The blueprint that is shared under the name of an entry's workflow. -/
def blueprintOf? (shared : String → Option Blueprint) (store : Store) (id : EntryId) :
    Option Blueprint :=
  (store.findEntry? id).bind fun entry => shared entry.workflow

/-- Every step, current or left, is of a definition in the blueprint of its entry. -/
structure Defined (shared : String → Option Blueprint) (store : Store) : Prop where
  numbered : store.Numbered
  steps : ∀ id blueprint, store.blueprintOf? shared id = some blueprint →
    ∀ step ∈ store.steps id, (blueprint.step? step.defId).isSome

/-- A request that creates a step creates it of a definition in the blueprint of its entry. -/
def Creates (shared : String → Option Blueprint) (store : Store) (request : StoreRequest) : Prop :=
  ∀ new, request = .createStep new →
    ∀ blueprint, store.blueprintOf? shared new.entryId = some blueprint →
      (blueprint.step? new.defId).isSome

/-- Steps are still defined, and entries keep their blueprints. -/
structure DefinedAfter (shared : String → Option Blueprint) (store after : Store) : Prop where
  defined : after.Defined shared
  governed : ∀ id blueprint, store.blueprintOf? shared id = some blueprint →
    after.blueprintOf? shared id = some blueprint

variable {store after : Store}

theorem creates_nothing {request : StoreRequest} (nothing : ∀ new, request ≠ .createStep new) :
    store.Creates shared request :=
  fun new same => absurd same (nothing new)

theorem Defined.new : Defined shared {} where
  numbered := rfl
  steps := by simp [Store.steps, currentSteps, historySteps, record?]

/-- Where entries keep their workflows and no step is of a new definition, steps stay defined. -/
theorem Defined.rearranged (defined : store.Defined shared) (numbered : after.Numbered)
    (same : ∀ id, after.blueprintOf? shared id = store.blueprintOf? shared id)
    (kept : ∀ id, ∀ step ∈ after.steps id, ∃ held ∈ store.steps id, held.defId = step.defId) :
    store.DefinedAfter shared after := by
  refine ⟨⟨numbered, fun id blueprint governs step member => ?_⟩, fun id blueprint governs => ?_⟩
  · obtain ⟨held, wasThere, sameDefinition⟩ := kept id step member
    rw [← sameDefinition]
    exact defined.steps id blueprint (same id ▸ governs) held wasThere
  · rw [same]
    exact governs

theorem Defined.modifyProperties (defined : store.Defined shared) (id : EntryId)
    (change : Values → Values) :
    store.DefinedAfter shared (store.modifyProperties id change) := by
  refine defined.rearranged (numbered_modifyProperties id change defined.numbered) ?_ ?_
  · intro other
    simp [blueprintOf?]
  · intro other step member
    exact ⟨step, by simpa [Store.steps] using member, rfl⟩

theorem Defined.createEntry {workflow : String} {now : Instant} {entry : Entry}
    (defined : store.Defined shared)
    (done : store.createEntry workflow now = .ok (entry, after)) :
    store.DefinedAfter shared after := by
  have found := findEntry?_createEntry defined.numbered done
  have fresh := findEntry?_created_before defined.numbered done
  refine ⟨⟨numbered_createEntry defined.numbered done, fun id blueprint governs step member => ?_⟩,
    fun id blueprint governs => ?_⟩
  · rw [Store.steps, currentSteps_createEntry defined.numbered done,
      historySteps_createEntry defined.numbered done] at member
    by_cases isNew : id = entry.id
    · -- a new entry has no steps, and had none before it was there
      have unknown : store.record? id = none := findEntry?_eq_none_iff.mp (isNew ▸ fresh)
      simp [isNew, historySteps, isNew ▸ unknown] at member
    · rw [if_neg isNew] at member
      rw [blueprintOf?, found, if_neg isNew] at governs
      exact defined.steps id blueprint governs step member
  · have old : id ≠ entry.id := by
      rintro rfl
      rw [blueprintOf?, fresh] at governs
      cases governs
    rw [blueprintOf?, found, if_neg old]
    exact governs

theorem Defined.createStep {new : NewStep} {step : Step} (defined : store.Defined shared)
    (creates : store.Creates shared (.createStep new))
    (done : store.createStep new = .ok (step, after)) :
    store.DefinedAfter shared after := by
  have same (id : EntryId) : after.blueprintOf? shared id = store.blueprintOf? shared id := by
    rw [blueprintOf?, findEntry?_createStep done]
    rfl
  refine ⟨⟨numbered_createStep defined.numbered done, fun id blueprint governs held member => ?_⟩,
    fun id blueprint governs => by rw [same]; exact governs⟩
  rw [same] at governs
  rw [(steps_createStep done id).mem_iff] at member
  split at member
  · rename_i here
    rcases List.mem_cons.mp member with rfl | old
    · obtain ⟨-, rfl, -⟩ := createStep_eq done
      exact creates new rfl blueprint (here ▸ governs)
    · exact defined.steps id blueprint governs held old
  · exact defined.steps id blueprint governs held member

theorem Defined.setEntryState {id : EntryId} {state : EntryState} (defined : store.Defined shared)
    (done : store.setEntryState id state = .ok after) :
    store.DefinedAfter shared after := by
  refine defined.rearranged (numbered_setEntryState defined.numbered done) ?_ ?_
  · intro other
    rw [blueprintOf?, findEntry?_setEntryState done, blueprintOf?]
    cases store.findEntry? other with
    | none => rfl
    | some entry => by_cases here : other = id <;> simp [here]
  · intro other step member
    rw [Store.steps, currentSteps_setEntryState done, historySteps_setEntryState done] at member
    exact ⟨step, member, rfl⟩

theorem Defined.markFinished {handle step : Step} {closing : Closing}
    (defined : store.Defined shared)
    (done : store.markFinished handle closing = .ok (step, after)) :
    store.DefinedAfter shared after := by
  refine defined.rearranged (numbered_markFinished defined.numbered done) ?_ ?_
  · intro id
    rw [blueprintOf?, findEntry?_markFinished done]
    rfl
  · intro id held member
    rw [Store.steps, currentSteps_markFinished done, historySteps_markFinished done] at member
    rcases List.mem_append.mp member with current | past
    · split at current
      · obtain ⟨unmarked, wasCurrent, rfl⟩ := List.mem_map.mp current
        refine ⟨unmarked, List.mem_append_left _ wasCurrent, ?_⟩
        split <;> rfl
      · exact ⟨held, List.mem_append_left _ current, rfl⟩
    · exact ⟨held, List.mem_append_right _ past, rfl⟩

theorem Defined.moveToHistory {handle : Step} (defined : store.Defined shared)
    (done : store.moveToHistory handle = .ok after) :
    store.DefinedAfter shared after := by
  obtain ⟨moved, found, history⟩ := historySteps_moveToHistory done
  refine defined.rearranged (numbered_moveToHistory defined.numbered done) ?_ ?_
  · intro id
    rw [blueprintOf?, findEntry?_moveToHistory done]
    rfl
  · intro id held member
    refine ⟨held, ?_, rfl⟩
    rw [Store.steps, currentSteps_moveToHistory done, history] at member
    split at member
    · rename_i here
      rcases List.mem_append.mp member with current | past
      · exact List.mem_append_left _ (List.mem_of_mem_eraseP current)
      · rcases List.mem_append.mp past with old | isMoved
        · exact List.mem_append_right _ old
        · obtain rfl := List.mem_singleton.mp isMoved
          exact List.mem_append_left _ (here ▸ List.mem_of_find?_eq_some found)
    · exact member

/-- What the store answers keeps its steps defined, as long as what it creates is, and its entries
keep their blueprints. -/
theorem Defined.answered {now : Instant} {request : StoreRequest} {value : request.Answer}
    (defined : store.Defined shared) (creates : store.Creates shared request)
    (done : store.answer now request = .ok (value, after)) :
    store.DefinedAfter shared after := by
  cases request with
  | createEntry workflow => exact defined.createEntry done
  | createStep new => exact defined.createStep creates done
  | markFinished handle closing => exact defined.markFinished done
  | setEntryState entry state =>
    obtain ⟨_, set, same⟩ := exists_of_map_eq_ok done
    cases same
    exact defined.setEntryState set
  | moveToHistory handle =>
    obtain ⟨_, moved, same⟩ := exists_of_map_eq_ok done
    cases same
    exact defined.moveToHistory moved
  | properties entry =>
    obtain ⟨_, -, same⟩ := exists_of_map_eq_ok done
    cases same
    exact ⟨defined, fun _ _ governs => governs⟩
  | findEntry | currentSteps | historySteps | query =>
    cases done
    exact ⟨defined, fun _ _ governs => governs⟩

/-- So does a request that may meet an outage. -/
theorem Defined.served {world later : World} {request : StoreRequest}
    {answer : Except StoreError request.Answer} (defined : world.store.Defined shared)
    (creates : world.store.Creates shared request)
    (served : World.Served world request answer later) :
    world.store.DefinedAfter shared later.store := by
  cases served with
  | refused error => exact ⟨defined, fun _ _ governs => governs⟩
  | answered value store done => exact defined.answered creates done
  | absent value lost => exact ⟨defined, fun _ _ governs => governs⟩

/-- Steps stay defined where none is created. -/
theorem defined_lasts : Lasts (Defined shared) := by
  intro world request answer after defined nothing served
  exact (defined.served (creates_nothing nothing) served).defined

end Store

end Caseflow
