import Caseflow.World.Request
/-! What every operation of the store does to the views of an entry: the entry itself, its current
steps and its history. An operation touches the views of one entry and leaves those of all others,
whether or not their steps were filed correctly. -/
namespace Caseflow.Store

variable {store after : Store}

/-- The numbers of the entries count up from one. -/
def Numbered (store : Store) : Prop :=
  store.records.map (·.entry.id) = List.range' 1 store.records.length

/-! ### Changes of one record -/

theorem record?_modifyRecord {id : EntryId} {change : Record → Record}
    (stable : ∀ record, (change record).entry.id = record.entry.id) (other : EntryId) :
    (store.modifyRecord id change).record? other =
      (store.record? other).map fun record => if other = id then change record else record := by
  unfold record? modifyRecord
  induction store.records with
  | nil => rfl
  | cons head rest ih =>
    have sameId : (if head.entry.id = id then change head else head).entry.id = head.entry.id := by
      split <;> simp [stable]
    simp only [List.map_cons, List.find?_cons, sameId]
    by_cases here : head.entry.id = other
    · simp only [here, decide_true, Option.map_some]
    · simpa only [here, decide_false] using ih

theorem numbered_modifyRecord {id : EntryId} {change : Record → Record}
    (stable : ∀ record, (change record).entry.id = record.entry.id) (numbered : store.Numbered) :
    (store.modifyRecord id change).Numbered := by
  have kept : (store.modifyRecord id change).records.map (·.entry.id) =
      store.records.map (·.entry.id) := by
    simp only [modifyRecord, List.map_map]
    apply List.map_congr_left
    intro record _
    by_cases changed : record.entry.id = id
    · simp [changed, stable]
    · simp [changed]
  rw [Numbered, kept, numbered]
  simp [modifyRecord]

/-- An entry has one of the numbers given out so far. -/
theorem id_le_of_findEntry? {id : EntryId} {entry : Entry} (numbered : store.Numbered)
    (found : store.findEntry? id = some entry) : 1 ≤ id ∧ id ≤ store.records.length := by
  obtain ⟨record, held, -⟩ := Option.map_eq_some_iff.mp found
  have member : id ∈ store.records.map (·.entry.id) :=
    List.mem_map.mpr ⟨record, List.mem_of_find?_eq_some held, by simpa using List.find?_some held⟩
  rw [numbered, List.mem_range'_1] at member
  exact ⟨member.1, Nat.lt_one_add_iff.mp member.2⟩

theorem id_of_findEntry? {id : EntryId} {entry : Entry} (found : store.findEntry? id = some entry) :
    entry.id = id := by
  obtain ⟨record, held, rfl⟩ := Option.map_eq_some_iff.mp found
  simpa using List.find?_some held

theorem findEntry?_eq_none_iff {id : EntryId} : store.findEntry? id = none ↔ store.record? id = none :=
  Option.map_eq_none_iff

section OneView

variable {id : EntryId} (change : Record → Record)

theorem findEntry?_modifyRecord (same : ∀ record, (change record).entry = record.entry)
    (other : EntryId) :
    Store.findEntry? (store.modifyRecord id change) other = store.findEntry? other := by
  rw [Store.findEntry?, record?_modifyRecord (fun record => by rw [same]), Option.map_map]
  congr 1
  funext record
  by_cases here : other = id <;> simp [here, same]

theorem currentSteps_modifyRecord (stable : ∀ record, (change record).entry.id = record.entry.id)
    (same : ∀ record, (change record).current = record.current) (other : EntryId) :
    (store.modifyRecord id change).currentSteps other = store.currentSteps other := by
  rw [currentSteps, record?_modifyRecord stable, Option.map_map, currentSteps]
  congr 2
  funext record
  by_cases here : other = id <;> simp [here, same]

theorem historySteps_modifyRecord (stable : ∀ record, (change record).entry.id = record.entry.id)
    (same : ∀ record, (change record).history = record.history) (other : EntryId) :
    (store.modifyRecord id change).historySteps other = store.historySteps other := by
  rw [historySteps, record?_modifyRecord stable, Option.map_map, historySteps]
  congr 2
  funext record
  by_cases here : other = id <;> simp [here, same]

theorem propertiesOf_modifyRecord (stable : ∀ record, (change record).entry.id = record.entry.id)
    (same : ∀ record, (change record).properties = record.properties) (other : EntryId) :
    (store.modifyRecord id change).propertiesOf other = store.propertiesOf other := by
  rw [propertiesOf, record?_modifyRecord stable, Option.map_map, propertiesOf]
  congr 2
  funext record
  by_cases here : other = id <;> simp [here, same]

end OneView

/-! ### Properties -/

section Properties

variable (id other : EntryId) (change : Values → Values)

@[simp] theorem findEntry?_modifyProperties :
    Store.findEntry? (store.modifyProperties id change) other = store.findEntry? other :=
  findEntry?_modifyRecord (fun record =>
    { record with properties := change record.properties }) (fun _ => rfl) other

@[simp] theorem currentSteps_modifyProperties :
    (store.modifyProperties id change).currentSteps other = store.currentSteps other :=
  currentSteps_modifyRecord (fun record =>
    { record with properties := change record.properties }) (fun _ => rfl) (fun _ => rfl) other

@[simp] theorem historySteps_modifyProperties :
    (store.modifyProperties id change).historySteps other = store.historySteps other :=
  historySteps_modifyRecord (fun record =>
    { record with properties := change record.properties }) (fun _ => rfl) (fun _ => rfl) other

@[simp] theorem stepCount_modifyProperties :
    (store.modifyProperties id change).stepCount = store.stepCount := rfl

theorem numbered_modifyProperties (numbered : store.Numbered) :
    (store.modifyProperties id change).Numbered :=
  numbered_modifyRecord (fun _ => rfl) numbered

theorem modifyProperties_modifyProperties (next : Values → Values) :
    (store.modifyProperties id change).modifyProperties id next =
      store.modifyProperties id (next ∘ change) := by
  simp only [modifyProperties, modifyRecord, List.map_map, Store.mk.injEq, and_true]
  apply List.map_congr_left
  intro record _
  by_cases here : record.entry.id = id <;> simp [here]

theorem modifyProperties_id : store.modifyProperties id (fun properties => properties) = store := by
  simp [modifyProperties, modifyRecord]

end Properties

/-! ### Requests -/

/-- An operation of one entry found that entry, and changed its record. -/
theorem setEntryState_eq {id : EntryId} {state : EntryState}
    (done : store.setEntryState id state = .ok after) :
    (store.record? id).isSome ∧ after = store.modifyRecord id fun record =>
      { record with entry := { record.entry with state } } := by
  unfold setEntryState at done
  split at done
  · cases done
  · rename_i found
    cases done
    exact ⟨by simp [found], rfl⟩

theorem createStep_eq {new : NewStep} {step : Step} (done : store.createStep new = .ok (step, after)) :
    (store.record? new.entryId).isSome ∧ step = new.toStep (store.stepCount + 1) ∧
      after = { store.modifyRecord new.entryId fun record =>
        { record with current := record.current ++ [step] } with
          stepCount := store.stepCount + 1 } := by
  unfold createStep at done
  split at done
  · cases done
  · rename_i found
    cases done
    exact ⟨by simp [found], rfl, rfl⟩

theorem markFinished_eq {handle step : Step} {closing : Closing}
    (done : store.markFinished handle closing = .ok (step, after)) :
    ∃ held, store.currentStep? handle = some held ∧ step = closing.mark held ∧
      after = store.modifyRecord handle.entryId fun record =>
        { record with
          current := record.current.map fun held =>
            if held.id = handle.id then closing.mark held else held } := by
  unfold markFinished at done
  split at done
  · cases done
  · rename_i held found
    cases done
    exact ⟨held, found, rfl, rfl⟩

theorem moveToHistory_eq {handle : Step} (done : store.moveToHistory handle = .ok after) :
    ∃ held, store.currentStep? handle = some held ∧
      after = store.modifyRecord handle.entryId fun record =>
        { record with
          current := record.current.eraseP (·.id = handle.id)
          history := record.history ++ [held] } := by
  unfold moveToHistory at done
  split at done
  · cases done
  · rename_i held found
    cases done
    exact ⟨held, found, rfl⟩

theorem createEntry_eq {workflow : String} {now : Instant} {entry : Entry}
    (done : store.createEntry workflow now = .ok (entry, after)) :
    entry = ⟨store.records.length + 1, workflow, .created, now⟩ ∧
      after = { store with records := store.records ++ [{ entry }] } := by
  unfold createEntry at done
  split at done
  · cases done
  · cases done
    exact ⟨rfl, rfl⟩

/-- The next number has not been given out. -/
theorem record?_fresh (numbered : store.Numbered) :
    store.record? (store.records.length + 1) = none := by
  cases found : store.record? (store.records.length + 1) with
  | none => rfl
  | some record =>
    have within := (Store.id_le_of_findEntry? numbered
      (show store.findEntry? _ = some record.entry by rw [Store.findEntry?, found]; rfl)).2
    exact absurd within (Nat.not_succ_le_self _)

section CreateEntry

variable {workflow : String} {now : Instant} {entry : Entry}

theorem record?_createEntry (numbered : store.Numbered)
    (done : store.createEntry workflow now = .ok (entry, after)) (id : EntryId) :
    after.record? id = if id = entry.id then some { entry } else store.record? id := by
  obtain ⟨rfl, rfl⟩ := createEntry_eq done
  simp only [record?, List.find?_append, List.find?_singleton]
  by_cases fresh : id = store.records.length + 1
  · subst fresh
    have none := record?_fresh numbered
    rw [record?] at none
    simp [none]
  · have apart : ¬ store.records.length + 1 = id := fun same => fresh same.symm
    simp [fresh, apart]

theorem numbered_createEntry (numbered : store.Numbered)
    (done : store.createEntry workflow now = .ok (entry, after)) : after.Numbered := by
  obtain ⟨rfl, rfl⟩ := createEntry_eq done
  unfold Numbered at numbered ⊢
  simp [numbered, List.range'_concat, Nat.add_comm]

theorem findEntry?_created_before (numbered : store.Numbered)
    (done : store.createEntry workflow now = .ok (entry, after)) :
    store.findEntry? entry.id = none := by
  obtain ⟨rfl, -⟩ := createEntry_eq done
  exact findEntry?_eq_none_iff.mpr (record?_fresh numbered)

theorem findEntry?_createEntry (numbered : store.Numbered)
    (done : store.createEntry workflow now = .ok (entry, after)) (id : EntryId) :
    after.findEntry? id = if id = entry.id then some entry else store.findEntry? id := by
  rw [Store.findEntry?, record?_createEntry numbered done]
  split <;> rfl

theorem currentSteps_createEntry (numbered : store.Numbered)
    (done : store.createEntry workflow now = .ok (entry, after)) (id : EntryId) :
    after.currentSteps id = if id = entry.id then [] else store.currentSteps id := by
  rw [currentSteps, record?_createEntry numbered done]
  split <;> rfl

theorem historySteps_createEntry (numbered : store.Numbered)
    (done : store.createEntry workflow now = .ok (entry, after)) (id : EntryId) :
    after.historySteps id = store.historySteps id := by
  rw [historySteps, record?_createEntry numbered done]
  split
  · rename_i fresh
    obtain ⟨rfl, -⟩ := createEntry_eq done
    rw [fresh, historySteps, record?_fresh numbered]
    rfl
  · rfl

end CreateEntry

section SetEntryState

variable {id : EntryId} {state : EntryState}

theorem findEntry?_setEntryState (done : store.setEntryState id state = .ok after)
    (other : EntryId) :
    after.findEntry? other =
      (store.findEntry? other).map fun entry => if other = id then { entry with state } else entry := by
  obtain ⟨-, rfl⟩ := setEntryState_eq done
  rw [Store.findEntry?, Store.findEntry?, record?_modifyRecord]
  · rw [Option.map_map, Option.map_map]
    congr 1
    funext record
    by_cases here : other = id <;> simp [here]
  · exact fun _ => rfl

theorem currentSteps_setEntryState (done : store.setEntryState id state = .ok after)
    (other : EntryId) : after.currentSteps other = store.currentSteps other := by
  obtain ⟨-, rfl⟩ := setEntryState_eq done
  refine currentSteps_modifyRecord _ ?_ ?_ other <;> exact fun _ => rfl

theorem historySteps_setEntryState (done : store.setEntryState id state = .ok after)
    (other : EntryId) : after.historySteps other = store.historySteps other := by
  obtain ⟨-, rfl⟩ := setEntryState_eq done
  refine historySteps_modifyRecord _ ?_ ?_ other <;> exact fun _ => rfl

theorem numbered_setEntryState (numbered : store.Numbered)
    (done : store.setEntryState id state = .ok after) : after.Numbered := by
  obtain ⟨-, rfl⟩ := setEntryState_eq done
  exact numbered_modifyRecord (fun _ => rfl) numbered

end SetEntryState

section CreateStep

variable {new : NewStep} {step : Step}

theorem findEntry?_createStep (done : store.createStep new = .ok (step, after)) (id : EntryId) :
    after.findEntry? id = store.findEntry? id := by
  obtain ⟨-, -, rfl⟩ := createStep_eq done
  refine findEntry?_modifyRecord _ ?_ id
  exact fun _ => rfl

theorem currentSteps_createStep (done : store.createStep new = .ok (step, after)) (id : EntryId) :
    after.currentSteps id =
      if id = new.entryId then store.currentSteps id ++ [step] else store.currentSteps id := by
  obtain ⟨known, -, rfl⟩ := createStep_eq done
  show ((Store.record? (store.modifyRecord new.entryId _) id).map (·.current)).getD [] = _
  rw [record?_modifyRecord, currentSteps]
  · by_cases here : id = new.entryId
    · obtain ⟨record, found⟩ := Option.isSome_iff_exists.mp known
      simp [here, found]
    · simp [here]
  · exact fun _ => rfl

theorem historySteps_createStep (done : store.createStep new = .ok (step, after)) (id : EntryId) :
    after.historySteps id = store.historySteps id := by
  obtain ⟨-, -, rfl⟩ := createStep_eq done
  refine historySteps_modifyRecord _ ?_ ?_ id <;> exact fun _ => rfl

theorem numbered_createStep (numbered : store.Numbered)
    (done : store.createStep new = .ok (step, after)) : after.Numbered := by
  obtain ⟨-, -, rfl⟩ := createStep_eq done
  exact numbered_modifyRecord (fun _ => rfl) numbered

end CreateStep

section MarkFinished

variable {handle step : Step} {closing : Closing}

theorem findEntry?_markFinished (done : store.markFinished handle closing = .ok (step, after))
    (id : EntryId) : after.findEntry? id = store.findEntry? id := by
  obtain ⟨_, -, -, rfl⟩ := markFinished_eq done
  refine findEntry?_modifyRecord _ ?_ id
  exact fun _ => rfl

theorem currentSteps_markFinished (done : store.markFinished handle closing = .ok (step, after))
    (id : EntryId) :
    after.currentSteps id =
      if id = handle.entryId then
        (store.currentSteps id).map fun held =>
          if held.id = handle.id then closing.mark held else held
      else store.currentSteps id := by
  obtain ⟨_, -, -, rfl⟩ := markFinished_eq done
  rw [currentSteps, record?_modifyRecord, currentSteps]
  · by_cases here : id = handle.entryId
    · cases found : store.record? id <;> simp [here]
    · simp [here]
  · exact fun _ => rfl

/-- What a closing does not change, it leaves as it is of all current steps. -/
theorem map_currentSteps_markFinished {α : Type} {view : Step → α}
    (kept : ∀ held, view (closing.mark held) = view held)
    (done : store.markFinished handle closing = .ok (step, after)) (id : EntryId) :
    (after.currentSteps id).map view = (store.currentSteps id).map view := by
  rw [currentSteps_markFinished done]
  split
  · rw [List.map_map]
    refine List.map_congr_left fun held _ => ?_
    simp only [Function.comp_apply]
    split
    · exact kept held
    · rfl
  · rfl

theorem historySteps_markFinished (done : store.markFinished handle closing = .ok (step, after))
    (id : EntryId) : after.historySteps id = store.historySteps id := by
  obtain ⟨_, -, -, rfl⟩ := markFinished_eq done
  refine historySteps_modifyRecord _ ?_ ?_ id <;> exact fun _ => rfl

theorem propertiesOf_markFinished (done : store.markFinished handle closing = .ok (step, after))
    (id : EntryId) : after.propertiesOf id = store.propertiesOf id := by
  obtain ⟨_, -, -, rfl⟩ := markFinished_eq done
  refine propertiesOf_modifyRecord _ ?_ ?_ id <;> exact fun _ => rfl

theorem numbered_markFinished (numbered : store.Numbered)
    (done : store.markFinished handle closing = .ok (step, after)) : after.Numbered := by
  obtain ⟨_, -, -, rfl⟩ := markFinished_eq done
  exact numbered_modifyRecord (fun _ => rfl) numbered

end MarkFinished

section MoveToHistory

variable {handle : Step}

theorem findEntry?_moveToHistory (done : store.moveToHistory handle = .ok after) (id : EntryId) :
    after.findEntry? id = store.findEntry? id := by
  obtain ⟨_, -, rfl⟩ := moveToHistory_eq done
  refine findEntry?_modifyRecord _ ?_ id
  exact fun _ => rfl

theorem currentSteps_moveToHistory (done : store.moveToHistory handle = .ok after) (id : EntryId) :
    after.currentSteps id =
      if id = handle.entryId then (store.currentSteps id).eraseP (·.id = handle.id)
      else store.currentSteps id := by
  obtain ⟨_, -, rfl⟩ := moveToHistory_eq done
  rw [currentSteps, record?_modifyRecord, currentSteps]
  · by_cases here : id = handle.entryId
    · cases found : store.record? id <;> simp [here]
    · simp [here]
  · exact fun _ => rfl

theorem historySteps_moveToHistory (done : store.moveToHistory handle = .ok after) :
    ∃ held, store.currentStep? handle = some held ∧ ∀ id, after.historySteps id =
      if id = handle.entryId then store.historySteps id ++ [held] else store.historySteps id := by
  obtain ⟨held, found, rfl⟩ := moveToHistory_eq done
  refine ⟨held, found, fun id => ?_⟩
  rw [historySteps, record?_modifyRecord, historySteps]
  · by_cases here : id = handle.entryId
    · cases isHeld : store.record? id with
      | some record => simp [here]
      | none =>
        rw [here] at isHeld
        simp [currentStep?, currentSteps, isHeld] at found
    · simp [here]
  · exact fun _ => rfl

theorem propertiesOf_moveToHistory (done : store.moveToHistory handle = .ok after) (id : EntryId) :
    after.propertiesOf id = store.propertiesOf id := by
  obtain ⟨_, -, rfl⟩ := moveToHistory_eq done
  refine propertiesOf_modifyRecord _ ?_ ?_ id <;> exact fun _ => rfl

theorem numbered_moveToHistory (numbered : store.Numbered)
    (done : store.moveToHistory handle = .ok after) : after.Numbered := by
  obtain ⟨_, -, rfl⟩ := moveToHistory_eq done
  exact numbered_modifyRecord (fun _ => rfl) numbered

end MoveToHistory

end Caseflow.Store
