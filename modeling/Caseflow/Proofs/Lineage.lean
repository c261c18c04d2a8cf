import Caseflow.Proofs.Fitting
/-! The lineage of steps. A step is created with a number of its own that is larger than all before,
and with the steps it follows, which its entry has left already. No request changes that later, and
what an entry has left it never enters again: its history is added to and nothing else. -/
namespace Caseflow

/-- What a step never loses from its creation on: its number, its entry and the steps it follows. -/
structure Origin where
  id : StepId
  entryId : EntryId
  previous : List StepId

def Step.origin (step : Step) : Origin :=
  ⟨step.id, step.entryId, step.previous⟩

/-- The step follows earlier steps out of the given ones, each of them once. -/
structure Step.Descends (past : List StepId) (step : Step) : Prop where
  once : step.previous.Nodup
  earlier : ∀ id ∈ step.previous, id < step.id ∧ id ∈ past

theorem Step.Descends.of_origin {past later : List StepId} {step held : Step}
    (descends : held.Descends past) (same : held.origin = step.origin) (kept : past ⊆ later) :
    step.Descends later := by
  obtain ⟨sameId, -, samePrevious⟩ : held.id = step.id ∧ held.entryId = step.entryId ∧
      held.previous = step.previous := by simpa [Step.origin] using same
  constructor
  · rw [← samePrevious]
    exact descends.once
  · intro id member
    rw [← samePrevious] at member
    obtain ⟨less, isPast⟩ := descends.earlier id member
    exact ⟨sameId ▸ less, kept isPast⟩

namespace Store

/-- All steps of an entry, the current ones and those it has left. -/
def steps (store : Store) (id : EntryId) : List Step :=
  store.currentSteps id ++ store.historySteps id

/-- Where they come from. -/
def origins (store : Store) (id : EntryId) : List Origin :=
  (store.steps id).map Step.origin

/-- Steps are filed under their entries and have numbers of their own out of those given out so far,
and each follows earlier steps that its entry has left. -/
structure Lineal (store : Store) : Prop where
  numbered : store.Numbered
  filed : ∀ id, ∀ step ∈ store.steps id, step.entryId = id
  bounded : ∀ id, ∀ step ∈ store.steps id, step.id ≤ store.stepCount
  distinct : ∀ id, ((store.steps id).map (·.id)).Nodup
  descent : ∀ id, ∀ step ∈ store.steps id, step.Descends (store.historyIds id)

/-- Entries stay, and so do their steps, the steps they have left and what was counted. -/
structure Grows (store after : Store) : Prop where
  known : ∀ id, (store.findEntry? id).isSome → (after.findEntry? id).isSome
  kept : ∀ id, store.origins id ⊆ after.origins id
  history : ∀ id, store.historySteps id <+: after.historySteps id
  count : store.stepCount ≤ after.stepCount

variable {store middle after : Store}

theorem Grows.refl (store : Store) : store.Grows store where
  known _ found := found
  kept _ := List.Subset.refl _
  history _ := List.prefix_rfl
  count := Nat.le_refl _

theorem Grows.trans (left : store.Grows middle) (right : middle.Grows after) :
    store.Grows after where
  known id found := right.known id (left.known id found)
  kept id := List.Subset.trans (left.kept id) (right.kept id)
  history id := (left.history id).trans (right.history id)
  count := Nat.le_trans left.count right.count

theorem Grows.historyIds (grows : store.Grows after) (id : EntryId) :
    store.historyIds id ⊆ after.historyIds id :=
  List.map_subset _ (grows.history id).subset

/-! ### What the requests make of the steps -/

@[simp]
theorem origins_modifyProperties (id other : EntryId) (change : Values → Values) :
    (store.modifyProperties id change).origins other = store.origins other := by
  simp [origins, steps]

theorem steps_createEntry {workflow : String} {now : Instant} {entry : Entry}
    (numbered : store.Numbered) (done : store.createEntry workflow now = .ok (entry, after))
    (id : EntryId) : after.steps id = store.steps id := by
  rw [steps, currentSteps_createEntry numbered done, historySteps_createEntry numbered done]
  split
  · rename_i fresh
    have nothing : store.currentSteps id = [] := by
      obtain ⟨rfl, -⟩ := createEntry_eq done
      rw [fresh, currentSteps, record?_fresh numbered]
      rfl
    rw [steps, nothing]
  · rfl

theorem origins_createEntry {workflow : String} {now : Instant} {entry : Entry}
    (numbered : store.Numbered) (done : store.createEntry workflow now = .ok (entry, after))
    (id : EntryId) : after.origins id = store.origins id := by
  rw [origins, steps_createEntry numbered done, origins]

theorem steps_setEntryState {entry : EntryId} {state : EntryState}
    (done : store.setEntryState entry state = .ok after) (id : EntryId) :
    after.steps id = store.steps id := by
  rw [steps, currentSteps_setEntryState done, historySteps_setEntryState done, steps]

theorem origins_setEntryState {entry : EntryId} {state : EntryState}
    (done : store.setEntryState entry state = .ok after) (id : EntryId) :
    after.origins id = store.origins id := by
  rw [origins, steps_setEntryState done, origins]

theorem origins_markFinished {handle step : Step} {closing : Closing}
    (done : store.markFinished handle closing = .ok (step, after)) (id : EntryId) :
    after.origins id = store.origins id := by
  have marked : (after.currentSteps id).map Step.origin = (store.currentSteps id).map Step.origin :=
    map_currentSteps_markFinished (fun _ => rfl) done id
  rw [origins, origins, steps, steps, List.map_append, List.map_append, marked,
    historySteps_markFinished done]

/-- A step that is moved from one list to the other stays among all of them. -/
private theorem perm_of_moved {current history : List Step} {moved : Step} {wanted : StepId}
    (found : current.find? (·.id = wanted) = some moved) :
    (current.eraseP (·.id = wanted) ++ (history ++ [moved])).Perm (current ++ history) := by
  obtain ⟨isWanted, before, rest, rfl, others⟩ := List.find?_eq_some_iff_append.mp found
  have erased : (before ++ moved :: rest).eraseP (·.id = wanted) = before ++ rest := by
    rw [List.eraseP_append_right]
    · simp [isWanted]
    · intro step member
      simpa using others step member
  rw [erased, List.append_assoc, List.append_assoc]
  refine List.Perm.append_left before ?_
  rw [← List.append_assoc]
  exact List.perm_append_comm

theorem steps_moveToHistory {handle : Step} (done : store.moveToHistory handle = .ok after)
    (id : EntryId) : (after.steps id).Perm (store.steps id) := by
  obtain ⟨moved, found, history⟩ := historySteps_moveToHistory done
  rw [steps, steps, currentSteps_moveToHistory done, history]
  split
  · rename_i here
    rw [here]
    exact perm_of_moved found
  · rfl

theorem origins_moveToHistory {handle : Step} (done : store.moveToHistory handle = .ok after)
    (id : EntryId) : (after.origins id).Perm (store.origins id) :=
  (steps_moveToHistory done id).map _

theorem steps_createStep {new : NewStep} {step : Step}
    (done : store.createStep new = .ok (step, after)) (id : EntryId) :
    (after.steps id).Perm
      (if id = new.entryId then step :: store.steps id else store.steps id) := by
  rw [steps, currentSteps_createStep done, historySteps_createStep done]
  split
  · rw [List.append_assoc]
    exact List.perm_middle
  · rfl

namespace Lineal

theorem new : Lineal {} where
  numbered := rfl
  filed := by simp [Store.steps, currentSteps, historySteps, record?]
  bounded := by simp [Store.steps, currentSteps, historySteps, record?]
  distinct := by simp [Store.steps, currentSteps, historySteps, record?]
  descent := by simp [Store.steps, currentSteps, historySteps, record?]

/-- No step that an entry has left is current. -/
theorem apart (lineal : store.Lineal) {id : EntryId} {step : StepId}
    (current : step ∈ store.currentIds id) : step ∉ store.historyIds id := by
  have distinct := lineal.distinct id
  rw [Store.steps, List.map_append, List.nodup_append] at distinct
  intro past
  exact distinct.2.2 step current step past rfl

/-- Where the same steps are there, moved to the history at most, the lineage stays. -/
theorem rearranged (lineal : store.Lineal) (numbered : after.Numbered)
    (counted : after.stepCount = store.stepCount)
    (same : ∀ id, (after.origins id).Perm (store.origins id))
    (kept : ∀ id, store.historyIds id ⊆ after.historyIds id) : after.Lineal := by
  have known : ∀ id, ∀ step ∈ after.steps id, ∃ held ∈ store.steps id,
      held.origin = step.origin := by
    intro id step member
    exact List.mem_map.mp ((same id).subset (List.mem_map_of_mem member))
  refine ⟨numbered, ?_, ?_, ?_, ?_⟩
  · intro id step member
    obtain ⟨held, wasThere, origin⟩ := known id step member
    exact (congrArg Origin.entryId origin).symm.trans (lineal.filed id held wasThere)
  · intro id step member
    obtain ⟨held, wasThere, origin⟩ := known id step member
    have sameId : held.id = step.id := congrArg Origin.id origin
    rw [counted, ← sameId]
    exact lineal.bounded id held wasThere
  · intro id
    have ids := (same id).map Origin.id
    rw [origins, origins, List.map_map, List.map_map] at ids
    exact ids.nodup_iff.mpr (lineal.distinct id)
  · intro id step member
    obtain ⟨held, wasThere, origin⟩ := known id step member
    exact (lineal.descent id held wasThere).of_origin origin (kept id)

theorem modifyProperties (lineal : store.Lineal) (id : EntryId) (change : Values → Values) :
    (store.modifyProperties id change).Lineal := by
  refine lineal.rearranged (numbered_modifyProperties id change lineal.numbered) rfl ?_ ?_
  · intro other
    rw [origins_modifyProperties]
  · intro other
    simp

theorem createEntry {workflow : String} {now : Instant} {entry : Entry} (lineal : store.Lineal)
    (done : store.createEntry workflow now = .ok (entry, after)) : after.Lineal := by
  refine lineal.rearranged (numbered_createEntry lineal.numbered done) ?_ ?_ ?_
  · obtain ⟨-, rfl⟩ := createEntry_eq done
    rfl
  · intro id
    rw [origins_createEntry lineal.numbered done]
  · intro id
    rw [historyIds, historyIds, historySteps_createEntry lineal.numbered done]
    exact List.Subset.refl _

theorem setEntryState {id : EntryId} {state : EntryState} (lineal : store.Lineal)
    (done : store.setEntryState id state = .ok after) : after.Lineal := by
  refine lineal.rearranged (numbered_setEntryState lineal.numbered done) ?_ ?_ ?_
  · obtain ⟨-, rfl⟩ := setEntryState_eq done
    rfl
  · intro other
    rw [origins_setEntryState done]
  · intro other
    rw [historyIds, historyIds, historySteps_setEntryState done]
    exact List.Subset.refl _

theorem markFinished {handle step : Step} {closing : Closing} (lineal : store.Lineal)
    (done : store.markFinished handle closing = .ok (step, after)) : after.Lineal := by
  refine lineal.rearranged (numbered_markFinished lineal.numbered done) ?_ ?_ ?_
  · obtain ⟨_, -, -, rfl⟩ := markFinished_eq done
    rfl
  · intro id
    rw [origins_markFinished done]
  · intro id
    rw [historyIds, historyIds, historySteps_markFinished done]
    exact List.Subset.refl _

theorem moveToHistory {handle : Step} (lineal : store.Lineal)
    (done : store.moveToHistory handle = .ok after) : after.Lineal := by
  obtain ⟨moved, found, history⟩ := historySteps_moveToHistory done
  refine lineal.rearranged (numbered_moveToHistory lineal.numbered done) ?_
    (origins_moveToHistory done) ?_
  · obtain ⟨_, -, rfl⟩ := moveToHistory_eq done
    rfl
  · intro id
    rw [historyIds, historyIds, history]
    split
    · simp
    · exact List.Subset.refl _

theorem createStep {new : NewStep} {step : Step} (lineal : store.Lineal)
    (once : new.previous.Nodup) (left : ∀ id ∈ new.previous, id ∈ store.historyIds new.entryId)
    (done : store.createStep new = .ok (step, after)) : after.Lineal := by
  obtain ⟨-, isNew, -⟩ := createStep_eq done
  have counted : after.stepCount = store.stepCount + 1 := by
    obtain ⟨-, -, rfl⟩ := createStep_eq done
    rfl
  have history (id : EntryId) : after.historyIds id = store.historyIds id := by
    rw [historyIds, historyIds, historySteps_createStep done]
  have member_iff (id : EntryId) (held : Step) : held ∈ after.steps id ↔
      id = new.entryId ∧ held = step ∨ held ∈ store.steps id := by
    rw [(steps_createStep done id).mem_iff]
    split <;> simp_all
  refine ⟨numbered_createStep lineal.numbered done, ?_, ?_, ?_, ?_⟩
  · intro id held member
    rcases (member_iff id held).mp member with ⟨rfl, rfl⟩ | old
    · rw [isNew]
      rfl
    · exact lineal.filed id held old
  · intro id held member
    rw [counted]
    rcases (member_iff id held).mp member with ⟨rfl, rfl⟩ | old
    · rw [isNew]
      exact Nat.le_refl _
    · exact Nat.le_succ_of_le (lineal.bounded id held old)
  · intro id
    refine ((steps_createStep done id).map _).nodup_iff.mpr ?_
    split
    · refine List.nodup_cons.mpr ⟨?_, lineal.distinct id⟩
      intro known
      obtain ⟨held, old, same⟩ := List.mem_map.mp known
      have bound := lineal.bounded id held old
      rw [same, isNew] at bound
      exact absurd bound (Nat.not_succ_le_self _)
    · exact lineal.distinct id
  · intro id held member
    rw [history]
    rcases (member_iff id held).mp member with ⟨rfl, rfl⟩ | old
    · rw [isNew]
      refine ⟨once, fun earlier among => ⟨?_, left earlier among⟩⟩
      obtain ⟨past, isPast, rfl⟩ := List.mem_map.mp (left earlier among)
      exact Nat.lt_succ_of_le (lineal.bounded _ past (List.mem_append_right _ isPast))
    · exact lineal.descent id held old

end Lineal

theorem Grows.createEntry {workflow : String} {now : Instant} {entry : Entry}
    (numbered : store.Numbered) (done : store.createEntry workflow now = .ok (entry, after)) :
    store.Grows after where
  known id found := by
    rw [findEntry?_createEntry numbered done]
    split
    · rfl
    · exact found
  kept id origin member := by
    rw [origins_createEntry numbered done]
    exact member
  history id := by simp only [historySteps_createEntry numbered done, List.prefix_rfl]
  count := by
    obtain ⟨-, rfl⟩ := createEntry_eq done
    exact Nat.le_refl _

theorem Grows.setEntryState {entry : EntryId} {state : EntryState}
    (done : store.setEntryState entry state = .ok after) : store.Grows after where
  known id found := by
    rw [findEntry?_setEntryState done, Option.isSome_map]
    exact found
  kept id origin member := by
    rw [origins_setEntryState done]
    exact member
  history id := by simp only [historySteps_setEntryState done, List.prefix_rfl]
  count := by
    obtain ⟨-, rfl⟩ := setEntryState_eq done
    exact Nat.le_refl _

theorem Grows.createStep {new : NewStep} {step : Step}
    (done : store.createStep new = .ok (step, after)) : store.Grows after where
  known id found := by
    rw [findEntry?_createStep done]
    exact found
  kept id origin member := by
    refine ((steps_createStep done id).map Step.origin).mem_iff.mpr ?_
    split
    · exact List.mem_cons_of_mem _ member
    · exact member
  history id := by simp only [historySteps_createStep done, List.prefix_rfl]
  count := by
    obtain ⟨-, -, rfl⟩ := createStep_eq done
    exact Nat.le_succ _

theorem Grows.markFinished {handle step : Step} {closing : Closing}
    (done : store.markFinished handle closing = .ok (step, after)) : store.Grows after where
  known id found := by
    rw [findEntry?_markFinished done]
    exact found
  kept id origin member := by
    rw [origins_markFinished done]
    exact member
  history id := by simp only [historySteps_markFinished done, List.prefix_rfl]
  count := by
    obtain ⟨_, -, -, rfl⟩ := markFinished_eq done
    exact Nat.le_refl _

theorem Grows.moveToHistory {handle : Step} (done : store.moveToHistory handle = .ok after) :
    store.Grows after where
  known id found := by
    rw [findEntry?_moveToHistory done]
    exact found
  kept id := (origins_moveToHistory done id).symm.subset
  history id := by
    obtain ⟨_, -, history⟩ := historySteps_moveToHistory done
    rw [history]
    split
    · exact List.prefix_append _ _
    · exact List.prefix_rfl
  count := by
    obtain ⟨_, -, rfl⟩ := moveToHistory_eq done
    exact Nat.le_refl _

/-- Whatever the store answers, its entries and their steps stay, and so does what they have
left. -/
theorem Grows.answered {now : Instant} {request : StoreRequest} {value : request.Answer}
    (numbered : store.Numbered) (done : store.answer now request = .ok (value, after)) :
    store.Grows after := by
  cases request with
  | createEntry workflow => exact .createEntry numbered done
  | createStep new => exact .createStep done
  | markFinished handle closing => exact .markFinished done
  | setEntryState entry state =>
    obtain ⟨_, set, same⟩ := exists_of_map_eq_ok done
    cases same
    exact .setEntryState set
  | moveToHistory handle =>
    obtain ⟨_, moved, same⟩ := exists_of_map_eq_ok done
    cases same
    exact .moveToHistory moved
  | properties entry =>
    obtain ⟨_, -, same⟩ := exists_of_map_eq_ok done
    cases same
    exact .refl store
  | findEntry | currentSteps | historySteps | query =>
    cases done
    exact .refl store

/-- What a fitting request makes of the store keeps the lineage of steps. -/
theorem Lineal.answered {now : Instant} {request : StoreRequest} {value : request.Answer}
    (lineal : store.Lineal) (fits : request.Fits store)
    (done : store.answer now request = .ok (value, after)) : after.Lineal := by
  cases request with
  | createEntry workflow => exact lineal.createEntry done
  | createStep new => exact lineal.createStep fits.2.1 fits.2.2 done
  | markFinished handle closing => exact lineal.markFinished done
  | setEntryState entry state =>
    obtain ⟨_, set, same⟩ := exists_of_map_eq_ok done
    cases same
    exact lineal.setEntryState set
  | moveToHistory handle =>
    obtain ⟨_, moved, same⟩ := exists_of_map_eq_ok done
    cases same
    exact lineal.moveToHistory moved
  | properties entry =>
    obtain ⟨_, -, same⟩ := exists_of_map_eq_ok done
    cases same
    exact lineal
  | findEntry | currentSteps | historySteps | query =>
    cases done
    exact lineal

end Store

namespace World

variable {start world : World}

/-- Fitting requests keep the lineage of steps. -/
theorem Proceeds.lineal (proceeds : start.Proceeds world) (lineal : start.store.Lineal) :
    world.store.Lineal := by
  induction proceeds with
  | here => exact lineal
  | asked before fits served ih =>
    cases served with
    | refused error => exact ih
    | answered value store done => exact ih.answered fits done
    | absent value lost => exact ih
  | properties before id change ih => exact ih.modifyProperties id change
  | noted before events ih => exact ih

/-- Fitting requests only add to what is there. -/
theorem Proceeds.grows (proceeds : start.Proceeds world) (lineal : start.store.Lineal) :
    start.store.Grows world.store := by
  induction proceeds with
  | here => exact .refl _
  | asked before fits served ih =>
    cases served with
    | refused error => exact ih
    | answered value store done => exact ih.trans (.answered (before.lineal lineal).numbered done)
    | absent value lost => exact ih
  | properties before id change ih => exact ih.trans (by constructor <;> simp)
  | noted before events ih => exact ih

end World

end Caseflow
