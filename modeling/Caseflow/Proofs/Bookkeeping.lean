import Mathlib.Data.List.Nodup
import Mathlib.Data.List.Pairwise
import Mathlib.Data.List.Perm.Basic
import Caseflow.Proofs.Lineage
/-! The books of a store. Whatever is asked of a new store, in any order and by any handles,
entries and steps are numbered from one without gaps as they are created, every step is in one list
of one entry for good, and the current steps of an entry stand in the order of their creation. A
refused request leaves no trace. -/
namespace Caseflow

/-- What may happen to a world: a request is put to the store; the properties of an entry are
written through the hold that somebody has on them; or time passes, in which the store falls out of
order or recovers, and events are noted. -/
inductive Happening where
  | asked (request : StoreRequest)
  | written (entry : EntryId) (change : Values → Values)
  | meanwhile (outages : Outages) (now : Instant) (events : List Event)

namespace World

/-- The world after one happening. -/
def meet (world : World) : Happening → World
  | .asked request => (world.ask request).2
  | .written entry change => { world with store := world.store.modifyProperties entry change }
  | .meanwhile outages now events => { world.note events with outages, now }

/-- The world after all that happens. -/
def through (world : World) (happenings : List Happening) : World :=
  happenings.foldl meet world

/-- The request that is put, if it is answered. -/
def answeredAt (world : World) : Happening → List StoreRequest
  | .asked request => if (world.ask request).1.isOk then [request] else []
  | .written _ _ | .meanwhile _ _ _ => []

/-- All requests that are answered, in order. -/
def answered (world : World) : List Happening → List StoreRequest
  | [] => []
  | happening :: rest => world.answeredAt happening ++ (world.meet happening).answered rest

theorem through_append (world : World) (first rest : List Happening) :
    world.through (first ++ rest) = (world.through first).through rest :=
  List.foldl_append

end World

namespace StoreRequest

def createsEntry : StoreRequest → Bool
  | .createEntry _ => true
  | _ => false

def createsStep : StoreRequest → Bool
  | .createStep _ => true
  | _ => false

end StoreRequest

namespace Store

variable {store after : Store} {entries steps : Nat}

/-- The books are right: there are entries with the numbers from one to `entries` and steps with
the numbers from one to `steps`, each of them once over all entries, filed under its entry, and the
current ones in the order of their numbers. -/
structure Booked (entries steps : Nat) (store : Store) : Prop where
  numbered : store.Numbered
  length : store.records.length = entries
  counted : store.stepCount = steps
  once : ((List.range' 1 entries).flatMap fun id => (store.steps id).map (·.id)).Perm
    (List.range' 1 steps)
  filed : ∀ id, ∀ step ∈ store.steps id, step.entryId = id
  ascending : ∀ id, (store.currentSteps id).Pairwise (·.id < ·.id)

theorem steps_of_unknown {id : EntryId} (unknown : store.record? id = none) : store.steps id = [] := by
  simp [steps, currentSteps, historySteps, unknown]

theorem map_origins (store : Store) (id : EntryId) :
    (store.origins id).map Origin.id = (store.steps id).map (·.id) := by
  rw [origins, List.map_map]
  rfl

/-- Where one of several lists gets one more element, so does the whole. -/
private theorem perm_of_one_grown {ids : List EntryId} {grown : EntryId} {number : StepId}
    {numbers : EntryId → List StepId} (distinct : ids.Nodup) (member : grown ∈ ids) :
    (ids.flatMap fun id => if id = grown then number :: numbers id else numbers id).Perm
      (number :: ids.flatMap numbers) := by
  obtain ⟨before, rest, rfl⟩ := List.append_of_mem member
  have apart := List.nodup_append.mp distinct
  have same (part : List EntryId) (others : grown ∉ part) :
      (part.flatMap fun id => if id = grown then number :: numbers id else numbers id) =
        part.flatMap numbers :=
    List.flatMap_congr fun id among => if_neg fun (here : id = grown) => others (here ▸ among)
  rw [List.flatMap_append, List.flatMap_cons, List.flatMap_append, List.flatMap_cons,
    same before fun among => apart.2.2 grown among grown (List.mem_cons_self ..) rfl,
    same rest (List.nodup_cons.mp apart.2.1).1, if_pos rfl]
  exact List.perm_middle

namespace Booked

variable (booked : store.Booked entries steps)

theorem new : Booked 0 0 {} where
  numbered := rfl
  length := rfl
  counted := rfl
  once := .refl _
  filed := by simp [Store.steps, currentSteps, historySteps, record?]
  ascending := by simp [currentSteps, record?]

include booked

/-- Entries have the numbers that were given out, and no others. -/
theorem known_iff {id : EntryId} : (store.record? id).isSome ↔ id ∈ List.range' 1 entries := by
  have numbered := booked.numbered
  rw [Numbered, booked.length] at numbered
  rw [← numbered]
  simp [record?, List.find?_isSome]

theorem entry_of_mem {id : EntryId} {step : Step} (member : step ∈ store.steps id) :
    id ∈ List.range' 1 entries := by
  refine booked.known_iff.mp (Option.isSome_iff_ne_none.mpr fun unknown => ?_)
  rw [steps_of_unknown unknown] at member
  cases member

/-- A step bears a number that was given out. -/
theorem id_of_mem {id : EntryId} {step : Step} (member : step ∈ store.steps id) :
    step.id ∈ List.range' 1 steps :=
  booked.once.subset
    (List.mem_flatMap.mpr ⟨id, booked.entry_of_mem member, List.mem_map_of_mem member⟩)

/-- The steps of an entry have different numbers. -/
theorem distinct (id : EntryId) : ((store.steps id).map (·.id)).Nodup := by
  cases known : store.record? id with
  | none => simp [steps_of_unknown known]
  | some record =>
    have member := booked.known_iff.mp (Option.isSome_iff_exists.mpr ⟨record, known⟩)
    exact (List.nodup_flatMap.mp (booked.once.nodup_iff.mpr List.nodup_range')).1 id member

/-- A number tells the step and its entry. -/
theorem same_of_id {id other : EntryId} {step held : Step} (member : step ∈ store.steps id)
    (memberToo : held ∈ store.steps other) (same : step.id = held.id) : id = other ∧ step = held := by
  have sameEntry : id = other := by
    by_contra apart
    have : Std.Symm (Function.onFun List.Disjoint fun id => (store.steps id).map (·.id)) :=
      ⟨fun _ _ disjoint _ isLeft isRight => disjoint isRight isLeft⟩
    have disjoint := (List.nodup_flatMap.mp (booked.once.nodup_iff.mpr List.nodup_range')).2.forall
      (booked.entry_of_mem member) (booked.entry_of_mem memberToo) apart
    exact disjoint (List.mem_map_of_mem member) (List.mem_map.mpr ⟨held, memberToo, same.symm⟩)
  subst sameEntry
  exact ⟨rfl, List.inj_on_of_nodup_map (booked.distinct id) member memberToo same⟩

/-- The books stay right where there may be more entries, but the same steps as before, and the
current ones among them stand in the same order. -/
theorem rearranged (more : Nat) (numbered : after.Numbered)
    (length : after.records.length = store.records.length + more)
    (counted : after.stepCount = store.stepCount)
    (same : ∀ id, (after.origins id).Perm (store.origins id))
    (current : ∀ id, (after.currentIds id).Sublist (store.currentIds id)) :
    after.Booked (entries + more) steps where
  numbered := numbered
  length := by rw [length, booked.length]
  counted := counted.trans booked.counted
  once := by
    have ids (id : EntryId) : ((after.steps id).map (·.id)).Perm ((store.steps id).map (·.id)) := by
      rw [← map_origins, ← map_origins]
      exact (same id).map _
    have none : (List.range' (1 + entries) more).flatMap
        (fun id => (store.steps id).map (·.id)) = [] := by
      refine List.flatMap_eq_nil_iff.mpr fun id fresh => List.map_eq_nil_iff.mpr ?_
      refine List.eq_nil_iff_forall_not_mem.mpr fun step member => ?_
      have old := List.mem_range'_1.mp (booked.entry_of_mem member)
      exact absurd old.2 (Nat.not_lt.mpr (List.mem_range'_1.mp fresh).1)
    refine List.Perm.trans (List.Perm.flatMap_left _ fun id _ => ids id) ?_
    rw [← List.range'_append_1, List.flatMap_append, none, List.append_nil]
    exact booked.once
  filed id step member := by
    obtain ⟨held, wasThere, origin⟩ :=
      List.mem_map.mp ((same id).subset (List.mem_map_of_mem member))
    exact (congrArg Origin.entryId origin).symm.trans (booked.filed id held wasThere)
  ascending id :=
    List.pairwise_map.mp ((List.pairwise_map.mpr (booked.ascending id)).sublist (current id))

theorem modifyProperties (id : EntryId) (change : Values → Values) :
    (store.modifyProperties id change).Booked entries steps := by
  refine booked.rearranged 0 (numbered_modifyProperties id change booked.numbered)
    (by simp [Store.modifyProperties, modifyRecord]) rfl (fun other => ?_) fun other => ?_
  · rw [origins_modifyProperties]
  · rw [currentIds_modifyProperties]

theorem createEntry {workflow : String} {now : Instant} {entry : Entry}
    (done : store.createEntry workflow now = .ok (entry, after)) : after.Booked (entries + 1) steps := by
  refine booked.rearranged 1 (numbered_createEntry booked.numbered done) ?_ ?_ (fun id => ?_) fun id => ?_
  · obtain ⟨-, rfl⟩ := createEntry_eq done
    simp
  · obtain ⟨-, rfl⟩ := createEntry_eq done
    rfl
  · rw [origins_createEntry booked.numbered done]
  · rw [currentIds, currentSteps_createEntry booked.numbered done]
    split
    · exact List.nil_sublist _
    · exact List.Sublist.refl _

theorem setEntryState {id : EntryId} {state : EntryState}
    (done : store.setEntryState id state = .ok after) : after.Booked entries steps := by
  refine booked.rearranged 0 (numbered_setEntryState booked.numbered done) ?_ ?_
    (fun other => ?_) fun other => ?_
  · obtain ⟨-, rfl⟩ := setEntryState_eq done
    exact List.length_map _
  · obtain ⟨-, rfl⟩ := setEntryState_eq done
    rfl
  · rw [origins_setEntryState done]
  · rw [currentIds, currentSteps_setEntryState done]
    rfl

theorem markFinished {handle step : Step} {closing : Closing}
    (done : store.markFinished handle closing = .ok (step, after)) : after.Booked entries steps := by
  refine booked.rearranged 0 (numbered_markFinished booked.numbered done) ?_ ?_
    (fun id => ?_) fun id => ?_
  · obtain ⟨_, -, -, rfl⟩ := markFinished_eq done
    exact List.length_map _
  · obtain ⟨_, -, -, rfl⟩ := markFinished_eq done
    rfl
  · rw [origins_markFinished done]
  · rw [currentIds_markFinished done]

theorem moveToHistory {handle : Step} (done : store.moveToHistory handle = .ok after) :
    after.Booked entries steps := by
  refine booked.rearranged 0 (numbered_moveToHistory booked.numbered done) ?_ ?_
    (origins_moveToHistory done) fun id => ?_
  · obtain ⟨_, -, rfl⟩ := moveToHistory_eq done
    exact List.length_map _
  · obtain ⟨_, -, rfl⟩ := moveToHistory_eq done
    rfl
  · rw [currentIds, currentSteps_moveToHistory done]
    split
    · exact (List.eraseP_sublist).map _
    · exact List.Sublist.refl _

theorem createStep {new : NewStep} {step : Step}
    (done : store.createStep new = .ok (step, after)) : after.Booked entries (steps + 1) := by
  obtain ⟨known, isNew, stored⟩ := createStep_eq done
  have number : step.id = steps + 1 := by
    rw [isNew, ← booked.counted]
    rfl
  have known := booked.known_iff.mp known
  refine ⟨numbered_createStep booked.numbered done, ?_, ?_, ?_, ?_, ?_⟩
  · rw [stored, ← booked.length]
    exact List.length_map _
  · rw [stored, ← booked.counted]
  · refine (List.Perm.flatMap_left _ fun id _ => (steps_createStep done id).map _).trans ?_
    have grown : (List.range' 1 entries).flatMap (fun id =>
          (if id = new.entryId then step :: store.steps id else store.steps id).map (·.id)) =
        (List.range' 1 entries).flatMap fun id =>
          if id = new.entryId then step.id :: (store.steps id).map (·.id)
          else (store.steps id).map (·.id) := by
      refine List.flatMap_congr fun id _ => ?_
      split <;> rfl
    rw [grown, List.range'_1_concat, Nat.add_comm 1, ← number]
    refine (perm_of_one_grown List.nodup_range' known).trans ?_
    exact ((booked.once).cons _).trans (List.perm_append_singleton _ _).symm
  · intro id held member
    have among := (steps_createStep done id).subset member
    split at among
    · rename_i here
      rcases List.mem_cons.mp among with rfl | old
      · rw [isNew, here]
        rfl
      · exact booked.filed id held old
    · exact booked.filed id held among
  · intro id
    rw [currentSteps_createStep done]
    split
    · refine List.pairwise_append.mpr ⟨booked.ascending id, List.pairwise_singleton _ _, ?_⟩
      intro earlier isCurrent later isLater
      have old := List.mem_range'_1.mp (booked.id_of_mem (List.mem_append_left _ isCurrent))
      rw [List.mem_singleton.mp isLater, number, Nat.add_comm]
      exact old.2
    · exact booked.ascending id

/-- What an answered request makes of the store, the books tell. -/
theorem answered {now : Instant} {request : StoreRequest} {value : request.Answer}
    (done : store.answer now request = .ok (value, after)) :
    after.Booked (entries + [request].countP (·.createsEntry))
      (steps + [request].countP (·.createsStep)) := by
  cases request with
  | createEntry workflow => exact booked.createEntry done
  | createStep new => exact booked.createStep done
  | markFinished handle closing => exact booked.markFinished done
  | setEntryState entry state =>
    obtain ⟨_, set, same⟩ := exists_of_map_eq_ok done
    cases same
    exact booked.setEntryState set
  | moveToHistory handle =>
    obtain ⟨_, moved, same⟩ := exists_of_map_eq_ok done
    cases same
    exact booked.moveToHistory moved
  | properties entry =>
    obtain ⟨_, -, same⟩ := exists_of_map_eq_ok done
    cases same
    exact booked
  | findEntry | currentSteps | historySteps | query =>
    cases done
    exact booked

end Booked

end Store

namespace World

variable {world : World} {entries steps : Nat}

/-- So do the books after any happening. -/
theorem booked_meet (booked : world.store.Booked entries steps) (happening : Happening) :
    (world.meet happening).store.Booked
      (entries + (world.answeredAt happening).countP (·.createsEntry))
      (steps + (world.answeredAt happening).countP (·.createsStep)) := by
  cases happening with
  | asked request =>
    have served := world.ask_served request
    simp only [meet, answeredAt]
    generalize world.ask request = reached at served ⊢
    obtain ⟨answer, after⟩ := reached
    cases served with
    | refused error => exact booked
    | answered value store done => exact booked.answered done
    | absent value lost =>
      cases request <;> first | exact booked | cases lost
  | written entry change => exact booked.modifyProperties entry change
  | meanwhile outages now events => exact booked

theorem booked_through (booked : world.store.Booked entries steps) (happenings : List Happening) :
    (world.through happenings).store.Booked
      (entries + (world.answered happenings).countP (·.createsEntry))
      (steps + (world.answered happenings).countP (·.createsStep)) := by
  induction happenings generalizing world entries steps with
  | nil => exact booked
  | cons happening rest ih =>
    have later := ih (booked_meet booked happening)
    rw [Nat.add_assoc, Nat.add_assoc, ← List.countP_append, ← List.countP_append] at later
    exact later

/-- A refused request leaves the store as it was. -/
theorem store_of_refused {request : StoreRequest} {error : StoreError}
    (refused : (world.ask request).1 = .error error) : (world.ask request).2.store = world.store := by
  have served := world.ask_served request
  generalize world.ask request = reached at refused served ⊢
  obtain ⟨answer, after⟩ := reached
  subst refused
  cases served
  rfl

/-- Whatever happens to a new store, entries that are unknown and handles that are stale or made up
included: there are just the entries that were created, numbered from one, and each has properties;
there are just the steps that were created, numbered from one, each of them once over all entries
and both lists and with the entry it names; current steps stand in the order of their numbers. And
whatever is refused next leaves the store as it is. -/
theorem books_of_new_store (outages : Outages) (now : Instant) (happenings : List Happening) :
    let start : World := { outages, now }
    let world := start.through happenings
    let entries := (start.answered happenings).countP (·.createsEntry)
    let steps := (start.answered happenings).countP (·.createsStep)
    world.store.records.map (·.entry.id) = List.range' 1 entries ∧
      (∀ id, (∃ values, world.store.properties id = .ok values) ↔ 1 ≤ id ∧ id ≤ entries) ∧
      ((List.range' 1 entries).flatMap fun id =>
        (world.store.currentSteps id ++ world.store.historySteps id).map (·.id)).Perm
          (List.range' 1 steps) ∧
      (∀ id, ∀ step ∈ world.store.currentSteps id ++ world.store.historySteps id,
        step.entryId = id ∧ 1 ≤ id ∧ id ≤ entries) ∧
      (∀ id, (world.store.currentSteps id).Pairwise (·.id < ·.id)) ∧
      ∀ request error, (world.ask request).1 = .error error →
        (world.ask request).2.store = world.store := by
  intro start world entries steps
  have booked : world.store.Booked entries steps := by
    have new : start.store.Booked 0 0 := .new
    have later := booked_through new happenings
    rw [Nat.zero_add, Nat.zero_add] at later
    exact later
  have among {id : EntryId} : id ∈ List.range' 1 entries ↔ 1 ≤ id ∧ id ≤ entries := by
    rw [List.mem_range'_1, Nat.lt_one_add_iff]
  refine ⟨?_, fun id => ?_, booked.once, fun id step member => ?_, booked.ascending, ?_⟩
  · rw [← booked.length]
    exact booked.numbered
  · rw [← among, ← booked.known_iff]
    cases known : world.store.record? id <;> simp [Store.properties, known]
  · exact ⟨booked.filed id step member, among.mp (booked.entry_of_mem member)⟩
  · exact fun request error refused => store_of_refused refused

/-- A handle to a step of the first entry that claims to be of the second. -/
def forgedHandle : Step :=
  { id := 1, entryId := 2, defId := 7, status := "Forged", startDate := ⟨0, 0⟩ }

/-- Two entries, two steps, and much that is refused: an entry without a name, a step for an entry
that is not there, and the forged handle. -/
def forgery : List Happening :=
  [.asked (.createEntry "first"), .asked (.createEntry " "), .asked (.createEntry "second"),
    .asked (.createStep { entryId := 1, defId := 7, startDate := ⟨0, 0⟩, status := "Open" }),
    .asked (.createStep { entryId := 3, defId := 7, startDate := ⟨0, 0⟩, status := "Open" }),
    .asked (.moveToHistory forgedHandle),
    .asked (.createStep { entryId := 2, defId := 8, startDate := ⟨0, 0⟩, status := "Open" }),
    .asked (.markFinished forgedHandle ⟨5, ⟨0, 0⟩, "Forged", none⟩)]

/-- Both steps are current, each with its own entry, and the forged handle is refused again. -/
theorem books_of_forgery :
    let world := World.through {} forgery
    world.store.records.map (·.entry.id) = [1, 2] ∧
      ([1, 2].flatMap fun id =>
        (world.store.currentSteps id ++ world.store.historySteps id).map (·.id)).Perm [1, 2] ∧
      (world.ask (.moveToHistory forgedHandle)).1 = .error (.currentStepNotFound forgedHandle) ∧
      (world.ask (.moveToHistory forgedHandle)).2.store = world.store := by
  have counted : (World.answered {} forgery).countP (·.createsEntry) = 2 ∧
      (World.answered {} forgery).countP (·.createsStep) = 2 := by
    decide +kernel
  have refused : ((World.through {} forgery).ask (.moveToHistory forgedHandle)).1 =
      .error (.currentStepNotFound forgedHandle) := rfl
  obtain ⟨numbered, -, once, -, -, spared⟩ := books_of_new_store {} ⟨0, 0⟩ forgery
  rw [counted.1] at numbered once
  rw [counted.2] at once
  exact ⟨numbered, once, refused, spared _ _ refused⟩

end World

end Caseflow
