import Caseflow.Proofs.FailedStarts
import Caseflow.Proofs.FittingCalls
/-! Rest. A call that succeeds goes on until there is nothing left that it could do on its own:
however many actions have followed one another, and wherever their chain ends, the entry is
completed or waits for somebody to act. What the store holds of other entries has no part in it:
the call comes to the same as where all of them have only been created, and there the world is
orderly. -/
namespace Caseflow

open Run

/-! ### Entries that have only been created -/

/-- What is told of a record whose entry is new or active, if nothing else has happened to it. -/
def Record.told (record : Record) : List Event :=
  .entryCreated record.entry.id ::
    if record.entry.state = .activated then [.entryStateSet record.entry.id .activated] else []

/-- The entry is new or active. -/
def Entry.IsLive (entry : Entry) : Prop :=
  entry.state = .created ∨ entry.state = .activated

/-- Of an entry just its own record tells. -/
theorem statesTold_records {records : List Record} (distinct : (records.map (·.entry.id)).Nodup)
    (id : EntryId) :
    statesTold (records.flatMap Record.told) id =
      ((records.find? (·.entry.id = id)).map fun record => statesTold record.told id).getD [] := by
  have foreign {record : Record} (apart : record.entry.id ≠ id) : statesTold record.told id = [] := by
    unfold statesTold Record.told
    split <;> simp [Event.stateOf?, apart]
  induction records with
  | nil => rfl
  | cons record rest ih =>
    obtain ⟨isNew, distinctRest⟩ := List.nodup_cons.mp distinct
    have later := ih distinctRest
    unfold statesTold at later foreign ⊢
    rw [List.flatMap_cons, List.filterMap_append, later]
    by_cases here : record.entry.id = id
    · have none : rest.find? (·.entry.id = id) = none := by
        rw [List.find?_eq_none]
        intro other member
        have apart : other.entry.id ≠ id := fun same =>
          isNew (List.mem_map.mpr ⟨other, member, same.trans here.symm⟩)
        simpa using apart
      simp [here, none]
    · simp [here, foreign here]

namespace Store

variable {store : Store}

/-- A store whose entries are new or active is orderly, if that is what was told. -/
theorem orderly_of_live (numbered : store.Numbered) (filed : ∀ id, store.Filed id)
    (live : ∀ id entry, store.findEntry? id = some entry → entry.IsLive) :
    Orderly store (store.records.flatMap Record.told) := by
  have distinct : (store.records.map (·.entry.id)).Nodup := by
    rw [numbered]
    exact List.nodup_range'
  have told (id : EntryId) : statesTold (store.records.flatMap Record.told) id =
      match store.findEntry? id with
      | none => []
      | some entry => if entry.state = .activated then [.created, .activated] else [.created] := by
    rw [statesTold_records distinct, Store.findEntry?]
    show ((store.record? id).map _).getD [] = _
    cases found : store.record? id with
    | none => rfl
    | some record =>
      have here : record.entry.id = id := by simpa using List.find?_some found
      show statesTold record.told id = if record.entry.state = .activated then _ else _
      unfold statesTold Record.told
      split <;> simp [Event.stateOf?, here]
  have created : FollowsLifecycle [.created] := ⟨by simp, .singleton _⟩
  refine {
    numbered := numbered
    filed := filed
    rested := fun id entry found terminal => ?_
    follows := fun id => ?_
    told := fun id => ?_ }
  · rcases live id entry found with isNew | active
    · rw [isNew] at terminal
      cases terminal
    · rw [active] at terminal
      cases terminal
  · rw [told]
    split
    · exact .nil
    · split
      · exact created.snoc rfl rfl
      · exact created
  · rw [told]
    cases found : store.findEntry? id with
    | none => rfl
    | some entry =>
      rcases live id entry found with isNew | active
      · simp [isNew]
      · simp [active]

/-- The store in which all entries but this one are in the state they were created in. -/
def calmed (id : EntryId) (store : Store) : Store :=
  { store with
    records := store.records.map fun record =>
      if record.entry.id = id then record
      else { record with entry := { record.entry with state := .created } } }

theorem record?_calmed (store : Store) (id other : EntryId) :
    (store.calmed id).record? other = (store.record? other).map fun record =>
      if record.entry.id = id then record
      else { record with entry := { record.entry with state := .created } } := by
  unfold record? calmed
  rw [List.find?_map]
  congr 2
  funext record
  simp only [Function.comp_apply]
  split <;> rfl

/-- Of the entry it shows the same. -/
theorem calmed_agrees (store : Store) (id : EntryId) : Agree id (store.calmed id) store := by
  refine ⟨?_, rfl⟩
  rw [record?_calmed]
  cases found : store.record? id with
  | none => rfl
  | some record =>
    have here : record.entry.id = id := by simpa using List.find?_some found
    simp [here]

/-- All its entries are new, if this one is new or active. -/
theorem calmed_orderly {id : EntryId} {entry : Entry} (numbered : store.Numbered)
    (filed : ∀ id, store.Filed id) (found : store.findEntry? id = some entry) (live : entry.IsLive) :
    Orderly (store.calmed id) ((store.calmed id).records.flatMap Record.told) := by
  refine orderly_of_live ?_ (fun other => ?_) fun other held isHeld => ?_
  · have ids : (store.calmed id).records.map (·.entry.id) = store.records.map (·.entry.id) := by
      simp only [calmed, List.map_map]
      refine List.map_congr_left fun record _ => ?_
      simp only [Function.comp_apply]
      split <;> rfl
    rw [Numbered, ids, numbered]
    simp [calmed]
  · intro step member
    refine filed other step ?_
    rw [currentSteps, record?_calmed, Option.map_map] at member
    rw [currentSteps]
    convert member using 3
    funext record
    simp only [Function.comp_apply]
    split <;> rfl
  · by_cases here : other = id
    · subst here
      have agree := store.calmed_agrees other
      rw [agree.findEntry?, found] at isHeld
      cases isHeld
      exact live
    · rw [Store.findEntry?, record?_calmed, Option.map_map] at isHeld
      obtain ⟨record, known, rfl⟩ := Option.map_eq_some_iff.mp isHeld
      have own : record.entry.id = other := by simpa using List.find?_some known
      refine .inl ?_
      simp [own, here]

end Store

/-! ### Rest is about one entry -/

namespace Engine

variable {engine : Engine} {id : EntryId} {inputs : Values}

theorem Sees.agreed {left right : Store} (agree : Store.Agree id left right) {scope : Scope}
    (sees : engine.Sees id inputs left scope) : engine.Sees id inputs right scope where
  found := agree.findEntry? ▸ sees.found
  active := sees.active
  known := sees.known
  steps := sees.steps.trans agree.currentSteps
  built := by
    have properties : right.propertiesOf id = left.propertiesOf id := by
      rw [Store.propertiesOf, ← agree.record, Store.propertiesOf]
    rw [properties]
    exact sees.built

/-- An entry is at rest in a store, if it is in one that shows the same of it. -/
theorem AtRest.agreed {left right : Store} (agree : Store.Agree id left right) (filed : left.Filed id)
    (rests : engine.AtRest id inputs left) : engine.AtRest id inputs right := by
  cases rests with
  | completed entry found state done =>
    exact .completed entry (agree.findEntry? ▸ found) state (agree.currentSteps ▸ done)
  | waiting scope sees nothing remains =>
    refine .waiting scope (sees.agreed agree) (fun world stored => ?_) (agree.currentSteps ▸ remains)
    subst stored
    have worlds : World.Parallel id { world with store := left } world
        { world with store := left } world :=
      World.Agree.parallel ⟨agree, fun _ _ => rfl, rfl⟩ filed
    have searches : Alike (World.Parallel id { world with store := left } world)
        (turn scope id (engine.kit.findAutomatic scope.blueprint scope.currentSteps)) fun _ => True :=
      turn_alike (Store.id_of_findEntry? sees.found) (sees.steps ▸ filed)
        (Toolkit.firstAvailable_alike _)
    obtain ⟨same, -, -⟩ := searches _ _ worlds
    exact same.symm.trans (nothing _ rfl)

/-- What is about one entry only, and leaves it at rest wherever the world is orderly, does so
wherever steps are with the entries they name. -/
theorem atRest_of_alike {α : Type} {computation : Run World α} {entry : Entry} {world after : World}
    {value : α} (numbered : world.store.Numbered) (filed : ∀ id, world.store.Filed id)
    (found : world.store.findEntry? id = some entry) (live : entry.IsLive)
    (alike : ∀ start other, Alike (World.Parallel id start other) computation fun _ => True)
    (settles : ∀ around, Meets (World.Holds entry around) computation
      (fun _ world => world.Tidy around ∧ engine.AtRest id inputs world.store)
      (fun _ world => world.Tidy around ∧ True))
    (answered : computation world = (.ok value, after)) : engine.AtRest id inputs after.store := by
  have orderly := Store.calmed_orderly numbered filed found live
  have agree := world.store.calmed_agrees id
  let calm : World :=
    { world with
      store := world.store.calmed id
      journal := (world.store.calmed id).records.flatMap Record.told }
  have holds : calm.Holds entry ⟨calm.outages.verdict, []⟩ := by
    refine ⟨⟨orderly, rfl, List.nil_prefix⟩, ?_⟩
    rw [Store.id_of_findEntry? found]
    exact agree.findEntry?.trans found
  have parallel : World.Parallel id calm world calm world :=
    World.Agree.parallel ⟨agree, fun _ _ => rfl, rfl⟩ (orderly.filed id)
  obtain ⟨same, worlds, -⟩ := alike calm world calm world parallel
  rw [answered] at same worlds
  have reached : computation calm = (.ok value, (computation calm).2) := Prod.ext same rfl
  exact ((settles _).answer holds reached).2.agreed worlds.store worlds.filed

/-- A new entry that is started is left at rest. -/
theorem startEntry_rests (standard : engine.Standard) {world : World}
    (numbered : world.store.Numbered) (filed : ∀ id, world.store.Filed id) {workflow : String}
    {actionId : ActionId}
    (answered : (engine.startEntry workflow actionId inputs world).result = .ok id) :
    engine.AtRest id inputs (engine.startEntry workflow actionId inputs world).world.store := by
  cases found : engine.initialAction workflow actionId with
  | error failure =>
    unfold startEntry at answered
    rw [found] at answered
    cases answered
  | ok held =>
    obtain ⟨blueprint, action⟩ := held
    cases creates : World.createEntry workflow world with
    | mk result created =>
      cases result with
      | error failure =>
        rw [startEntry_refused found creates] at answered
        cases answered
      | ok entry =>
        rw [startEntry_result found creates] at answered
        obtain ⟨_, ran, rfl⟩ := exists_of_map_eq_ok answered
        have done := (World.createEntry_creates world workflow).answer rfl creates
        have isNew : entry.state = .created := by rw [(Store.createEntry_eq done).1]
        have held : created.store.findEntry? entry.id = some entry := by
          rw [Store.findEntry?_createEntry numbered done, if_pos rfl]
        have own (other : EntryId) : created.store.Filed other := by
          unfold Store.Filed
          rw [Store.currentSteps_createEntry numbered done]
          split
          · exact List.forall_mem_nil _
          · exact filed other
        rw [startEntry_world found creates]
        refine atRest_of_alike (Store.numbered_createEntry numbered done) own held (.inl isNew)
          (fun start other => ?_) (fun around => ?_) (Prod.ext ran rfl)
        · exact alike_andThen (runInitial_alike standard rfl blueprint action) fun next _ =>
            chain_alike standard _ next
        · have open' : entry.state.isTerminal = false := by rw [isNew]; rfl
          exact entering_meets standard.modest open' blueprint action inputs

/-- So is an entry that an action is executed on. -/
theorem doAction_rests (standard : engine.Standard) {world : World}
    (numbered : world.store.Numbered) (filed : ∀ id, world.store.Filed id) {actionId : ActionId}
    (answered : (engine.doAction id actionId inputs world).result = .ok ()) :
    engine.AtRest id inputs (engine.doAction id actionId inputs world).world.store := by
  have reached := Reply.of_answered answered
  obtain ⟨next, middle, acted, -⟩ := of_andThen_ok reached
  rw [act_eq] at acted
  obtain ⟨selected, _, selects, -⟩ := of_andThen_ok acted
  have observes : Meets (World.Observed world) (engine.select id inputs actionId) _ _ :=
    select_observes engine.kit.extensions.refuses_any world
  have sees := (observes.answer (.refl world) selects).2.sees
  refine atRest_of_alike numbered filed sees.found (.inr sees.active) (fun start other => ?_)
    (fun around => ?_) reached
  · exact alike_andThen (act_alike standard actionId) fun next _ => chain_alike standard _ next
  · exact meets_mono (acting_meets standard.modest id actionId inputs) (fun _ holds => holds.toTidy)
      (fun _ _ ends => ends) fun _ _ ends => ends

end Engine

/-- A call on whatever has become of a new store. If it starts an entry or executes an action on
it, and succeeds, it leaves the entry at rest. -/
theorem at_rest_after_success (happenings : List Happening) {engine : Engine}
    (standard : engine.Standard) (inputs : Values) :
    let world := World.through {} happenings
    (∀ workflow actionId entryId,
      (engine.startEntry workflow actionId inputs world).result = .ok entryId →
        engine.AtRest entryId inputs (engine.startEntry workflow actionId inputs world).world.store) ∧
    (∀ entryId actionId,
      (engine.doAction entryId actionId inputs world).result = .ok () →
        engine.AtRest entryId inputs (engine.doAction entryId actionId inputs world).world.store) := by
  intro world
  have new : ({} : World).store.Booked 0 0 := .new
  have booked := World.booked_through new happenings
  have filed (id : EntryId) : world.store.Filed id := fun step member =>
    booked.filed id step (List.mem_append_left _ member)
  constructor
  · intro workflow actionId entryId answered
    exact Engine.startEntry_rests standard booked.numbered filed answered
  · intro entryId actionId answered
    exact Engine.doAction_rests standard booked.numbered filed answered

/-- Two rings that no engine has made: the second one is completed, and yet it has a current
step. -/
def meddled : List Happening :=
  [.asked (.createEntry "ring"), .asked (.createEntry "ring"),
   .asked (.setEntryState 1 .activated), .asked (.setEntryState 2 .completed),
   .asked (.createStep { entryId := 1, defId := 1, startDate := ⟨0, 0⟩, status := "Open" }),
   .asked (.createStep { entryId := 2, defId := 1, startDate := ⟨0, 0⟩, status := "Open" })]

/-- Next to them a third one is at rest when it is started, and the first one when it goes on. -/
theorem ring_rests :
    (Store.findEntry? (World.through {} meddled).store 2).map (·.state) = some .completed ∧
      (World.through {} meddled).store.currentIds 2 = [2] ∧
      (ringEngine.startEntry "ring" 1 ∅ (World.through {} meddled)).result = .ok 3 ∧
      ringEngine.AtRest 3 ∅ (ringEngine.startEntry "ring" 1 ∅ (World.through {} meddled)).world.store ∧
      (ringEngine.doAction 1 10 ∅ (World.through {} meddled)).result = .ok () ∧
      ringEngine.AtRest 1 ∅ (ringEngine.doAction 1 10 ∅ (World.through {} meddled)).world.store := by
  have standard : ringEngine.Standard := rfl
  have starts : (ringEngine.startEntry "ring" 1 ∅ (World.through {} meddled)).result = .ok 3 :=
    ok_of_eval (by decide +kernel)
  have gathers : (ringEngine.doAction 1 10 ∅ (World.through {} meddled)).result = .ok () :=
    ok_of_eval (by decide +kernel)
  obtain ⟨startRests, actRests⟩ := at_rest_after_success meddled standard ∅
  refine ⟨by decide +kernel, by decide +kernel, starts, ?_, gathers, ?_⟩
  · exact startRests "ring" 1 3 starts
  · exact actRests 1 10 gathers

end Caseflow
