import Caseflow.Proofs.Requests
import Caseflow.Proofs.StoreViews
import Caseflow.Proofs.Looking
import Caseflow.Engine.Transition
/-! Pictures of an entry. While the store is in order every request about an entry it holds is
answered, so a computation that starts from a known picture of the entry succeeds and ends in
another known picture. -/
namespace Caseflow

open Run

/-- Started where `before` holds, the computation succeeds and ends where `answered` holds of its
answer. -/
def Run.Succeeds {σ α : Type} (before : σ → Prop) (computation : Run σ α)
    (answered : α → σ → Prop) : Prop :=
  Meets before computation answered fun _ _ => False

/-- All there is to see of an entry but its properties, with the number of steps ever created and
the time. -/
structure Picture where
  entry : Entry
  current : List Step := []
  history : List Step := []
  count : Nat
  now : Instant

namespace Picture

/-- The picture is of this record. -/
def Of (picture : Picture) (record : Record) : Prop :=
  record.entry = picture.entry ∧ record.current = picture.current ∧
    record.history = picture.history

/-- The next entry of the workflow in this world, as it is created. -/
def first (world : World) (workflow : String) : Picture where
  entry := ⟨world.store.records.length + 1, workflow, .created, world.now⟩
  count := world.store.stepCount
  now := world.now

end Picture

/-- The store is in order and holds the entry as in the picture. -/
structure World.Shows (picture : Picture) (world : World) : Prop where
  sound : ∀ method call, world.outages.verdict method call = none
  record : ∃ record, world.store.record? picture.entry.id = some record ∧ picture.Of record
  count : world.store.stepCount = picture.count
  now : world.now = picture.now

variable {picture after : Picture}

namespace World.Shows

variable {world : World} (shows : world.Shows picture)

include shows

theorem findEntry? : Store.findEntry? world.store picture.entry.id = some picture.entry := by
  obtain ⟨record, found, entry, -, -⟩ := shows.record
  rw [Store.findEntry?, found, Option.map_some, entry]

theorem currentSteps : world.store.currentSteps picture.entry.id = picture.current := by
  obtain ⟨record, found, -, current, -⟩ := shows.record
  rw [Store.currentSteps, found, Option.map_some, Option.getD_some, current]

theorem historySteps : world.store.historySteps picture.entry.id = picture.history := by
  obtain ⟨record, found, -, -, history⟩ := shows.record
  rw [Store.historySteps, found, Option.map_some, Option.getD_some, history]

theorem note (events : List Event) : (world.note events).Shows picture :=
  ⟨shows.sound, shows.record, shows.count, shows.now⟩

/-- A change of the record of the entry changes the picture alike. -/
theorem modified {change : Record → Record}
    (stable : ∀ record, (change record).entry.id = record.entry.id)
    (becomes : ∀ record, picture.Of record → after.Of (change record))
    (same : after.entry.id = picture.entry.id) :
    ∃ record, (world.store.modifyRecord picture.entry.id change).record? after.entry.id =
      some record ∧ after.Of record := by
  obtain ⟨record, found, fits⟩ := shows.record
  refine ⟨change record, ?_, becomes record fits⟩
  rw [Store.record?_modifyRecord stable, same, found]
  simp

end World.Shows

/-! ### Looks -/

namespace Run

/-- The computation only looks, and answers the value. -/
def Answers {α : Type} (value : α) (computation : Run World α) : Prop :=
  ∃ calls, (∀ event ∈ calls, Event.isCall event = true) ∧
    ∀ world, computation world = (.ok value, world.note calls)

variable {α β : Type} {value other : α}

theorem answers_unique {computation : Run World α} (left : Answers value computation)
    (right : Answers other computation) : value = other := by
  obtain ⟨_, -, reached⟩ := left
  obtain ⟨_, -, reachedAgain⟩ := right
  have same := (reached default).symm.trans (reachedAgain default)
  injection (congrArg Prod.fst same)

theorem answers_done (value : α) : Answers value (done value) :=
  ⟨[], by simp, fun world => by simp [done, World.note]⟩

theorem answers_andThen {answer : β} {first : Run World α} {next : α → Run World β}
    (start : Answers value first) (rest : Answers answer (next value)) :
    Answers answer (andThen first next) := by
  obtain ⟨calls, areCalls, reached⟩ := start
  obtain ⟨more, areMore, reachedMore⟩ := rest
  refine ⟨calls ++ more, fun event member => ?_, fun world => ?_⟩
  · exact (List.mem_append.mp member).elim (areCalls event) (areMore event)
  · rw [andThen_ok (reached world), reachedMore]
    simp [World.note]

theorem answers_succeed {computation : Run World α} (answers : Answers value computation) :
    Succeeds (World.Shows picture) computation
      (fun answer world => answer = value ∧ world.Shows picture) := by
  intro world shows
  obtain ⟨calls, -, reached⟩ := answers
  rw [reached]
  exact ⟨rfl, shows.note calls⟩

end Run

/-! ### Requests -/

namespace Run

/-- A store in order answers as it is. -/
theorem request_succeeds (request : StoreRequest) (after : Picture)
    (answered : request.Answer → Prop)
    (serves : ∀ world : World, world.Shows picture → ∃ value store,
      world.store.answer world.now request = .ok (value, store) ∧ answered value ∧
        (∃ record, store.record? after.entry.id = some record ∧ after.Of record) ∧
        store.stepCount = after.count)
    (same : after.now = picture.now) :
    Succeeds (World.Shows picture) (Run.request request)
      (fun value world => answered value ∧ world.Shows after) := by
  intro world shows
  obtain ⟨value, store, answer, fits, record, count⟩ := serves world shows
  have calm : world.outages.next request.method = none := shows.sound _ _
  have asked : Run.request request world = (.ok value,
      { world with
        store
        outages := world.outages.count request.method
        journal := world.journal ++ request.events value }) := by
    unfold Run.request World.ask
    rw [calm]
    simp only [World.serve, answer]
    rfl
  rw [asked]
  exact ⟨fits, shows.sound, record, count, shows.now.trans same.symm⟩

end Run

namespace World

/-- A store in order creates entries. -/
theorem createEntry_succeeds {workflow : String} {world : World}
    (named : Text.isAllBlank workflow = false) (numbered : world.store.Numbered)
    (sound : ∀ method call, world.outages.verdict method call = none) :
    Succeeds (· = world) (createEntry workflow)
      (fun entry after => entry = (Picture.first world workflow).entry ∧
        after.Shows (Picture.first world workflow)) := by
  intro start same
  subst same
  have calm : start.outages.next .createEntry = none := sound _ _
  have created : start.store.createEntry workflow start.now =
      .ok ((Picture.first start workflow).entry, { start.store with
        records := start.store.records ++ [{ entry := (Picture.first start workflow).entry }] }) := by
    unfold Store.createEntry
    rw [if_neg (by simp [named])]
    rfl
  unfold createEntry Run.request World.ask World.serve
  simp only [StoreRequest.method, calm, Store.answer, created]
  refine ⟨trivial, sound, ⟨{ entry := (Picture.first start workflow).entry }, ?_, rfl, rfl, rfl⟩, rfl,
    rfl⟩
  exact (Store.record?_createEntry numbered created _).trans (if_pos rfl)

theorem findEntry_succeeds :
    Succeeds (Shows picture) (findEntry picture.entry.id)
      (fun entry world => entry = picture.entry ∧ world.Shows picture) := by
  have asks : Succeeds (Shows picture) (World.findEntry? picture.entry.id)
      (fun found world => found = some picture.entry ∧ world.Shows picture) :=
    request_succeeds (.findEntry picture.entry.id) picture (fun found => found = some picture.entry)
      (fun _ shows => ⟨_, _, rfl, shows.findEntry?, shows.record, shows.count⟩) rfl
  unfold findEntry
  refine meets_bind asks fun found => meets_given fun same => ?_
  subst same
  exact meets_done fun world shows => ⟨rfl, shows⟩

theorem currentSteps_succeeds :
    Succeeds (Shows picture) (World.currentSteps picture.entry.id)
      (fun steps world => steps = picture.current ∧ world.Shows picture) :=
  request_succeeds (.currentSteps picture.entry.id) picture (fun steps => steps = picture.current)
    (fun _ shows => ⟨_, _, rfl, shows.currentSteps, shows.record, shows.count⟩) rfl

theorem historySteps_succeeds :
    Succeeds (Shows picture) (World.historySteps picture.entry.id)
      (fun steps world => steps = picture.history ∧ world.Shows picture) :=
  request_succeeds (.historySteps picture.entry.id) picture (fun steps => steps = picture.history)
    (fun _ shows => ⟨_, _, rfl, shows.historySteps, shows.record, shows.count⟩) rfl

theorem properties_succeeds :
    Succeeds (Shows picture) (World.properties picture.entry.id)
      (fun _ world => True ∧ world.Shows picture) := by
  refine request_succeeds (.properties picture.entry.id) picture (fun _ => True)
    (fun world shows => ?_) rfl
  obtain ⟨record, found, fits⟩ := shows.record
  refine ⟨record.properties, world.store, ?_, trivial, ⟨record, found, fits⟩, shows.count⟩
  simp [Store.answer, Store.properties, found, Except.map]

theorem setEntryState_succeeds (state : EntryState) :
    Succeeds (Shows picture) (World.setEntryState picture.entry.id state)
      (fun _ world => True ∧ world.Shows { picture with entry := { picture.entry with state } }) := by
  refine request_succeeds (.setEntryState picture.entry.id state)
    { picture with entry := { picture.entry with state } } (fun _ => True)
    (fun world shows => ?_) rfl
  obtain ⟨record, found, fits⟩ := shows.record
  let change (record : Record) : Record := { record with entry := { record.entry with state } }
  refine ⟨(), world.store.modifyRecord picture.entry.id change, ?_, trivial,
    shows.modified (fun _ => rfl) ?_ rfl, shows.count⟩
  · simp [Store.answer, Store.setEntryState, found, Except.map, change]
  · rintro record ⟨entry, current, history⟩
    exact ⟨by simp only [change, entry], current, history⟩

/-- A step created for the entry comes after its current ones, under the next number. -/
theorem createStep_succeeds {new : NewStep} (own : new.entryId = picture.entry.id) :
    Succeeds (Shows picture) (World.createStep new)
      (fun step world => step = new.toStep (picture.count + 1) ∧ world.Shows
        { picture with
          current := picture.current ++ [new.toStep (picture.count + 1)]
          count := picture.count + 1 }) := by
  refine request_succeeds (.createStep new)
    { picture with
      current := picture.current ++ [new.toStep (picture.count + 1)]
      count := picture.count + 1 }
    (fun step => step = new.toStep (picture.count + 1)) (fun world shows => ?_) rfl
  obtain ⟨record, found, fits⟩ := shows.record
  let step := new.toStep (picture.count + 1)
  let change (record : Record) : Record := { record with current := record.current ++ [step] }
  refine ⟨step, { world.store.modifyRecord picture.entry.id change with
    stepCount := picture.count + 1 }, ?_, rfl, shows.modified (fun _ => rfl) ?_ rfl, rfl⟩
  · simp only [Store.answer, Store.createStep, own, found, shows.count]
    rfl
  · rintro record ⟨entry, current, history⟩
    exact ⟨entry, by simp only [change, current, step], history⟩

/-- A handle of a current step marks that step as finished. -/
theorem markFinished_succeeds {handle held : Step} (closing : Closing)
    (own : handle.entryId = picture.entry.id)
    (named : picture.current.find? (·.id = handle.id) = some held) :
    Succeeds (Shows picture) (World.markFinished handle closing)
      (fun closed world => closed = closing.mark held ∧ world.Shows
        { picture with
          current := picture.current.map fun other =>
            if other.id = handle.id then closing.mark other else other }) := by
  refine request_succeeds (.markFinished handle closing)
    { picture with
      current := picture.current.map fun other =>
        if other.id = handle.id then closing.mark other else other }
    (fun closed => closed = closing.mark held) (fun world shows => ?_) rfl
  let change (record : Record) : Record :=
    { record with
      current := record.current.map fun other =>
        if other.id = handle.id then closing.mark other else other }
  have current : world.store.currentStep? handle = some held := by
    rw [Store.currentStep?, own, shows.currentSteps, named]
  refine ⟨closing.mark held, world.store.modifyRecord picture.entry.id change, ?_, rfl,
    shows.modified (fun _ => rfl) ?_ rfl, shows.count⟩
  · simp only [Store.answer, Store.markFinished, current, own]
    rfl
  · rintro record ⟨entry, current, history⟩
    exact ⟨entry, by simp only [change, current], history⟩

/-- A handle of a current step moves that step behind the history. -/
theorem moveToHistory_succeeds {handle held : Step} (own : handle.entryId = picture.entry.id)
    (named : picture.current.find? (·.id = handle.id) = some held) :
    Succeeds (Shows picture) (World.moveToHistory handle)
      (fun _ world => True ∧ world.Shows
        { picture with
          current := picture.current.eraseP (·.id = handle.id)
          history := picture.history ++ [held] }) := by
  refine request_succeeds (.moveToHistory handle)
    { picture with
      current := picture.current.eraseP (·.id = handle.id)
      history := picture.history ++ [held] }
    (fun _ => True) (fun world shows => ?_) rfl
  let change (record : Record) : Record :=
    { record with
      current := record.current.eraseP (·.id = handle.id)
      history := record.history ++ [held] }
  have current : world.store.currentStep? handle = some held := by
    rw [Store.currentStep?, own, shows.currentSteps, named]
  refine ⟨(), world.store.modifyRecord picture.entry.id change, ?_, trivial,
    shows.modified (fun _ => rfl) ?_ rfl, shows.count⟩
  · simp only [Store.answer, Store.moveToHistory, current, own]
    rfl
  · rintro record ⟨entry, current, history⟩
    exact ⟨entry, by simp only [change, current], by simp only [change, history]⟩

/-- The entry moves along an edge to a state that is not terminal. -/
theorem move_succeeds (finishedStatus : String) {target : EntryState} (actionId : ActionId)
    (caller : Option String) (edge : picture.entry.state.canMoveTo target = true)
    (live : target.isTerminal = false) :
    Succeeds (Shows picture) (Lifecycle.move finishedStatus picture.entry.id target actionId caller)
      (fun _ world => True ∧ world.Shows
        { picture with entry := { picture.entry with state := target } }) := by
  unfold Lifecycle.move
  refine meets_bind findEntry_succeeds fun entry => meets_given fun same => ?_
  subst same
  rw [if_neg (EntryState.apart_of_edge edge), if_neg (by simp [edge])]
  dsimp only
  rw [if_neg (by simp [live])]
  exact meets_bind (setEntryState_succeeds target) fun _ => meets_pure fun _ ends => ends

end World

/-! ### Turns -/

/-- The turn is in a known scope, and its world shows the picture. -/
structure Turn.Shows (scope : Scope) (picture : Picture) (turn : Turn) : Prop where
  scope : turn.scope = scope
  world : turn.world.Shows picture

namespace Turn

variable {scope : Scope} {α : Type}

theorem onWorld_succeeds {computation : Run World α} {fact : α → Prop}
    (succeeds : Succeeds (World.Shows picture) computation
      (fun value world => fact value ∧ world.Shows after)) :
    Succeeds (Shows scope picture) (onWorld computation)
      (fun value turn => fact value ∧ turn.Shows scope after) := by
  refine meets_within fun turn shows => ?_
  exact meets_answers (meets_at succeeds shows.world) fun _ _ ends => ⟨ends.1, shows.scope, ends.2⟩

theorem amendScope_succeeds (amend : Scope → Scope) :
    Succeeds (Shows scope picture) (amendScope amend) (fun _ => Shows (amend scope) picture) :=
  meets_change fun _ shows => ⟨congrArg amend shows.scope, shows.world⟩

/-- What follows a look at the turn may rely on what it shows. -/
theorem read_succeeds {next : Turn → Run Turn α} {answered : α → Turn → Prop}
    (rest : ∀ turn, turn.Shows scope picture →
      Succeeds (Shows scope picture) (next turn) answered) :
    Succeeds (Shows scope picture) (Run.read >>= next) answered :=
  fun turn shows => rest turn shows turn shows

theorem scopeNow_succeeds {next : Scope → Run Turn α} {answered : α → Turn → Prop}
    (rest : Succeeds (Shows scope picture) (next scope) answered) :
    Succeeds (Shows scope picture) (scopeNow >>= next) answered := by
  intro turn shows
  have ends := rest turn shows
  rw [← shows.scope] at ends
  exact ends

end Turn

end Caseflow
