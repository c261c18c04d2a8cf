import Caseflow.Engine.Lifecycle
import Caseflow.Proofs.Lineage
/-! Ledgers. The steps of an entry are worked on by handles that were read a while before. A ledger
says which of them are still current, which have been left since, and how many steps the store has
numbered; as long as it is kept, every request that names a handle fits, and closing a handle moves
it from one side of the ledger to the other. -/
namespace Caseflow

/-- Some steps that are current, some that were left, and how many steps there are. -/
structure Ledger where
  opened : List StepId
  closed : List StepId
  count : Nat

namespace Ledger

variable (ledger : Ledger)

/-- The ledger once a step is closed. -/
def close (step : StepId) : Ledger :=
  { ledger with opened := ledger.opened.filter (· ≠ step), closed := step :: ledger.closed }

/-- The ledger once these steps are closed. -/
def closeAll (steps : List StepId) : Ledger :=
  steps.foldl close ledger

/-- The ledger once a step is created. -/
def grow : Ledger :=
  { ledger with count := ledger.count + 1 }

/-- The ledger once these steps are known to be left. -/
def remember (steps : List StepId) : Ledger :=
  { ledger with closed := steps ++ ledger.closed }

theorem mem_opened_close {step other : StepId} :
    other ∈ (ledger.close step).opened ↔ other ∈ ledger.opened ∧ other ≠ step := by
  simp [close]

theorem mem_closed_close {step other : StepId} :
    other ∈ (ledger.close step).closed ↔ other = step ∨ other ∈ ledger.closed :=
  List.mem_cons

@[simp] theorem count_closeAll (steps : List StepId) :
    (ledger.closeAll steps).count = ledger.count := by
  induction steps generalizing ledger with
  | nil => rfl
  | cons step rest ih => exact ih (ledger.close step)

theorem mem_closed_closeAll {steps : List StepId} {other : StepId} :
    other ∈ (ledger.closeAll steps).closed ↔ other ∈ steps ∨ other ∈ ledger.closed := by
  induction steps generalizing ledger with
  | nil => simp [closeAll]
  | cons step rest ih =>
    have later := ih (ledger.close step)
    rw [mem_closed_close] at later
    rw [List.mem_cons, or_assoc, or_left_comm]
    exact later

end Ledger

/-- Different steps of one entry. -/
structure Handles (id : EntryId) (steps : List Step) : Prop where
  own : ∀ step ∈ steps, step.entryId = id
  distinct : (steps.map (·.id)).Nodup

theorem Store.Lineal.handles {store : Store} (lineal : store.Lineal) (id : EntryId) :
    Handles id (store.currentSteps id) where
  own step member := lineal.filed id step (List.mem_append_left _ member)
  distinct := by
    have distinct := lineal.distinct id
    rw [Store.steps, List.map_append] at distinct
    exact (List.nodup_append.mp distinct).1

theorem Handles.sublist {id : EntryId} {steps some : List Step} (handles : Handles id steps)
    (within : some.Sublist steps) : Handles id some where
  own step member := handles.own step (within.subset member)
  distinct := handles.distinct.sublist (within.map _)

open Run

section Each

variable {σ : Type} {tracks : Ledger → σ → Prop} {failed : Failure → σ → Prop}
  {perform : Step → Run σ Unit} {id : EntryId} {count : Nat}

/-- What closes one open step of an entry closes several of them one after another. -/
theorem meets_closeAll
    (closes : ∀ ledger step, Ledger.count ledger = count → step.entryId = id →
      step.id ∈ Ledger.opened ledger →
      Meets (tracks ledger) (perform step) (fun _ => tracks (ledger.close step.id)) failed)
    {steps : List Step} (handles : Handles id steps) {ledger : Ledger}
    (counted : ledger.count = count) (opened : ∀ step ∈ steps, step.id ∈ ledger.opened) :
    Meets (tracks ledger) (each perform steps)
      (fun _ => tracks (ledger.closeAll (steps.map (·.id)))) failed := by
  induction steps generalizing ledger with
  | nil => exact meets_done fun _ holds => holds
  | cons step rest ih =>
    have own := handles.own step (List.mem_cons_self ..)
    have distinct := List.nodup_cons.mp handles.distinct
    refine meets_andThen (closes ledger step counted own (opened step (by simp))) fun _ => ?_
    refine ih (handles.sublist (List.sublist_cons_self ..)) counted fun later member => ?_
    rw [Ledger.mem_opened_close]
    constructor
    · exact opened later (List.mem_cons_of_mem _ member)
    · intro same
      exact distinct.1 (List.mem_map.mpr ⟨later, member, same⟩)

end Each

/-- There are this many steps. -/
def Store.Counts (count : Nat) (store : Store) : Prop :=
  store.stepCount = count

/-- No request but the one for a new step counts any. -/
theorem Store.stepCount_answered {store after : Store} {now : Instant} {request : StoreRequest}
    {value : request.Answer} (quiet : ∀ new, request ≠ .createStep new)
    (done : store.answer now request = .ok (value, after)) : after.stepCount = store.stepCount := by
  cases request with
  | createStep new => exact absurd rfl (quiet new)
  | createEntry workflow =>
    obtain ⟨-, rfl⟩ := Store.createEntry_eq done
    rfl
  | markFinished handle closing =>
    obtain ⟨_, -, -, rfl⟩ := Store.markFinished_eq done
    rfl
  | setEntryState entry state =>
    obtain ⟨_, set, same⟩ := exists_of_map_eq_ok done
    cases same
    obtain ⟨-, rfl⟩ := Store.setEntryState_eq set
    rfl
  | moveToHistory handle =>
    obtain ⟨_, moved, same⟩ := exists_of_map_eq_ok done
    cases same
    obtain ⟨_, -, rfl⟩ := Store.moveToHistory_eq moved
    rfl
  | properties entry =>
    obtain ⟨_, -, same⟩ := exists_of_map_eq_ok done
    cases same
    rfl
  | findEntry | currentSteps | historySteps | query =>
    cases done
    rfl

theorem World.request_counts {count : Nat} {request : StoreRequest}
    (quiet : ∀ new, request ≠ .createStep new) :
    Keeps (fun world : World => world.store.Counts count) (fun _ => True)
      (Run.request request) := by
  refine keeps_request (fun _ => trivial) fun world answer after counts served => ?_
  cases served with
  | refused error => exact counts
  | absent value lost => exact counts
  | answered value store done =>
    exact (Store.stepCount_answered quiet done).trans counts

/-- Since there were this many steps one was created at most, which is current and fits. -/
def Store.Enters (id : EntryId) (count : Nat) (fit : Step → Prop) (store : Store) : Prop :=
  store.Counts count ∨
    store.Counts (count + 1) ∧ ∃ step ∈ store.currentSteps id, step.id = count + 1 ∧ fit step

theorem Store.Enters.mono {store : Store} {id : EntryId} {count : Nat} {fit wider : Step → Prop}
    (enters : store.Enters id count fit) (enough : ∀ step, fit step → wider step) :
    store.Enters id count wider := by
  rcases enters with same | ⟨grown, step, current, numbered, fits⟩
  · exact .inl same
  · exact .inr ⟨grown, step, current, numbered, enough step fits⟩

namespace World

/-- Since `start` only fitting requests were put, and the ledger of the entry is right. -/
structure Tracks (start : World) (id : EntryId) (ledger : Ledger) (world : World) : Prop where
  proceeds : start.Proceeds world
  opened : ∀ step ∈ ledger.opened, step ∈ world.store.currentIds id
  closed : ∀ step ∈ ledger.closed, step ∈ world.store.historyIds id
  counted : world.store.stepCount = ledger.count

/-- A failure stopped the work: only fitting requests were put, the store refused none of them but
in an outage, and it was left as told. -/
structure Breaks (start : World) (left : Store → Prop) (failure : Failure) (world : World) :
    Prop where
  proceeds : start.Proceeds world
  explains : start.Explains failure
  left : left world.store

variable {start : World} {id : EntryId} {ledger : Ledger}

/-- A closing on a step that is still current changes no ledger. -/
theorem markFinished_tracks {handle : Step} {closing : Closing} (own : handle.entryId = id)
    (opened : handle.id ∈ ledger.opened) :
    Meets (start.Tracks id ledger) (World.markFinished handle closing)
      (fun step world => step.id = handle.id ∧ start.Tracks id ledger world)
      (start.Breaks (Store.Counts ledger.count)) := by
  subst own
  refine meets_fitting (fun world tracks => ⟨tracks.proceeds, tracks.opened _ opened⟩) ?_ ?_
  · intro world step after tracks proceeds served
    cases served with
    | answered step store done =>
      obtain ⟨held, found, rfl, changed⟩ := Store.markFinished_eq done
      constructor
      · have named : held.id = handle.id := by simpa using List.find?_some found
        exact named
      · refine ⟨proceeds, fun other member => ?_, fun other member => ?_, ?_⟩
        · show other ∈ store.currentIds handle.entryId
          rw [Store.currentIds_markFinished done]
          exact tracks.opened other member
        · show other ∈ store.historyIds handle.entryId
          rw [Store.historyIds, Store.historySteps_markFinished done]
          exact tracks.closed other member
        · rw [changed]
          exact tracks.counted
    | absent value lost => cases lost
  · intro world error after tracks proceeds explains same
    exact ⟨proceeds, explains, same ▸ tracks.counted⟩

/-- A step that is moved to the history goes from one side of the ledger to the other. -/
theorem moveToHistory_tracks {handle : Step} (own : handle.entryId = id)
    (opened : handle.id ∈ ledger.opened) :
    Meets (start.Tracks id ledger) (World.moveToHistory handle)
      (fun _ => start.Tracks id (ledger.close handle.id)) (start.Breaks (Store.Counts ledger.count)) := by
  subst own
  refine meets_fitting (fun world tracks => ⟨tracks.proceeds, tracks.opened _ opened⟩) ?_ ?_
  · intro world value after tracks proceeds served
    cases served with
    | answered value store done =>
      obtain ⟨_, moved, same⟩ := exists_of_map_eq_ok done
      cases same
      obtain ⟨held, found, history⟩ := Store.historySteps_moveToHistory moved
      refine ⟨proceeds, fun other member => ?_, fun other member => ?_, ?_⟩
      · obtain ⟨isOpen, apart⟩ := (ledger.mem_opened_close).mp member
        obtain ⟨step, current, rfl⟩ := List.mem_map.mp (tracks.opened other isOpen)
        show step.id ∈ store.currentIds handle.entryId
        rw [Store.currentIds, Store.currentSteps_moveToHistory moved, if_pos rfl]
        refine List.mem_map_of_mem ((List.mem_eraseP_of_neg ?_).mpr current)
        simpa using apart
      · show other ∈ store.historyIds handle.entryId
        rw [Store.historyIds, history, if_pos rfl, List.map_append, List.mem_append]
        rcases ledger.mem_closed_close.mp member with rfl | before
        · have named : held.id = handle.id := by simpa using List.find?_some found
          exact .inr (by simp [named])
        · exact .inl (tracks.closed other before)
      · obtain ⟨_, -, changed⟩ := Store.moveToHistory_eq moved
        rw [changed]
        exact tracks.counted
    | absent value lost => cases lost
  · intro world error after tracks proceeds explains same
    exact ⟨proceeds, explains, same ▸ tracks.counted⟩

/-- A step may be created after steps that the ledger knows to be left. -/
theorem createStep_tracks (lineal : start.store.Lineal)
    (known : (start.store.findEntry? id).isSome) {new : NewStep} (own : new.entryId = id)
    (once : new.previous.Nodup) (left : ∀ step ∈ new.previous, step ∈ ledger.closed) :
    Meets (start.Tracks id ledger) (World.createStep new)
      (fun step world => start.Tracks id ledger.grow world ∧
        step = new.toStep ledger.grow.count ∧ step ∈ world.store.currentSteps id)
      (start.Breaks (Store.Counts ledger.count)) := by
  subst own
  refine meets_fitting (fun world tracks => ⟨tracks.proceeds, ?_, once, ?_⟩) ?_ ?_
  · exact (tracks.proceeds.grows lineal).known _ known
  · exact fun step member => tracks.closed step (left step member)
  · intro world step after tracks proceeds served
    cases served with
    | answered step store done =>
      obtain ⟨-, isNew, changed⟩ := Store.createStep_eq done
      have current : store.currentSteps new.entryId =
          world.store.currentSteps new.entryId ++ ([step] : List Step) := by
        rw [Store.currentSteps_createStep done, if_pos rfl]
      refine ⟨⟨proceeds, fun other member => ?_, fun other member => ?_, ?_⟩, ?_, ?_⟩
      · show other ∈ store.currentIds new.entryId
        rw [Store.currentIds, current, List.map_append]
        exact List.mem_append_left _ (tracks.opened other member)
      · show other ∈ store.historyIds new.entryId
        rw [Store.historyIds, Store.historySteps_createStep done]
        exact tracks.closed other member
      · rw [changed]
        exact congrArg (· + 1) tracks.counted
      · rw [isNew, tracks.counted]
        rfl
      · show (step : Step) ∈ store.currentSteps new.entryId
        rw [current]
        exact List.mem_append_right _ (List.mem_singleton.mpr rfl)
    | absent value lost => cases lost
  · intro world error after tracks proceeds explains same
    exact ⟨proceeds, explains, same ▸ tracks.counted⟩

/-- Different steps that the entry has left, which go on from those it had left at the start; none
of them is open. -/
structure Remembers (start : World) (id : EntryId) (ledger : Ledger) (past : List Step) : Prop where
  grown : start.store.historySteps id <+: past
  distinct : (past.map (·.id)).Nodup
  apart : ∀ step ∈ ledger.opened, step ∉ past.map (·.id)

theorem historySteps_tracks (lineal : start.store.Lineal) :
    Meets (start.Tracks id ledger) (World.historySteps id)
      (fun past world => start.Remembers id ledger past ∧
        start.Tracks id (ledger.remember (past.map (·.id))) world)
      (start.Breaks (Store.Counts ledger.count)) := by
  refine meets_fitting (fun world tracks => ⟨tracks.proceeds, trivial⟩) ?_ ?_
  · intro world past after tracks proceeds served
    cases served with
    | answered past store done =>
      cases done
      have grown := tracks.proceeds.lineal lineal
      refine ⟨⟨(tracks.proceeds.grows lineal).history id, ?_, fun step member => ?_⟩,
        proceeds, tracks.opened, fun step member => ?_, tracks.counted⟩
      · have distinct := grown.distinct id
        rw [Store.steps, List.map_append] at distinct
        exact (List.nodup_append.mp distinct).2.1
      · exact grown.apart (tracks.opened step member)
      · exact (List.mem_append.mp member).elim (fun past => past) (tracks.closed step)
    | absent value lost => cases lost
  · intro world error after tracks proceeds explains same
    exact ⟨proceeds, explains, same ▸ tracks.counted⟩

/-- The current steps of an entry can be worked on as they are answered. -/
theorem currentSteps_tracks (lineal : start.store.Lineal) :
    Meets start.Proceeds (World.currentSteps id)
      (fun steps world => Handles id steps ∧
        ∃ count, start.Tracks id ⟨steps.map (·.id), [], count⟩ world)
      (fun failure world => start.Proceeds world ∧ start.Explains failure) := by
  refine meets_fitting (fun world proceeds => ⟨proceeds, trivial⟩) ?_ ?_
  · intro world steps after before proceeds served
    cases served with
    | answered steps store done =>
      cases done
      refine ⟨(before.lineal lineal).handles id, _, proceeds, fun step member => member, ?_, rfl⟩
      simp
    | absent value lost => cases lost
  · exact fun _ _ _ _ proceeds explains _ => ⟨proceeds, explains⟩

/-- An entry that is found is there. -/
theorem findEntry_proceeds :
    Meets start.Proceeds (World.findEntry id)
      (fun _ world => start.Proceeds world ∧ (world.store.findEntry? id).isSome)
      (fun failure world => start.Proceeds world ∧ start.Explains failure) := by
  unfold World.findEntry
  refine meets_bind_via (fun found world => start.Proceeds world ∧
    ∀ entry, found = some entry → (world.store.findEntry? id).isSome) ?_ fun found => ?_
  · refine meets_fitting (fun world proceeds => ⟨proceeds, trivial⟩) ?_ ?_
    · intro world found after before proceeds served
      refine ⟨proceeds, fun entry same => ?_⟩
      subst same
      obtain ⟨store, -, ⟨_, refused⟩ | answer | ⟨lost, -⟩⟩ := findEntry_served served
      · cases refused
      · rw [store, ← Except.ok.inj answer]
        rfl
      · cases lost
    · exact fun _ _ _ _ proceeds explains _ => ⟨proceeds, explains⟩
  · refine meets_ofOption (fun entry same world ends => ⟨ends.1, ends.2 entry same⟩) ?_
    intro _ world ends
    exact ⟨ends.1, nofun⟩

end World

namespace Lifecycle

variable {start : World} {id : EntryId}

/-- Open steps can all be closed. -/
theorem closeSteps_tracks (closing : Closing) {steps : List Step} (handles : Handles id steps)
    {ledger : Ledger} (opened : ∀ step ∈ steps, step.id ∈ ledger.opened) :
    Meets (start.Tracks id ledger) (closeSteps closing steps)
      (fun _ => start.Tracks id (ledger.closeAll (steps.map (·.id))))
      (start.Breaks (Store.Counts ledger.count)) := by
  refine meets_closeAll (fun ledger step counted own isOpen => ?_) handles rfl opened
  rw [← counted]
  refine meets_bind (World.markFinished_tracks own isOpen) fun _ => meets_given fun _ => ?_
  exact World.moveToHistory_tracks own isOpen

theorem closeAll_proceeds (lineal : start.store.Lineal) (finishedStatus : String)
    (actionId : ActionId) (caller : Option String) :
    Keeps start.Proceeds start.Explains (closeAll finishedStatus id actionId caller) := by
  unfold closeAll
  refine keeps_bind keeps_read fun _ => ?_
  refine meets_bind (World.currentSteps_tracks lineal) fun steps => ?_
  refine meets_given fun handles => meets_some fun count => ?_
  refine meets_mono (closeSteps_tracks _ handles fun step member => List.mem_map_of_mem member)
    (fun _ tracks => tracks) (fun _ _ tracks => tracks.proceeds) ?_
  exact fun _ _ breaks => ⟨breaks.proceeds, breaks.explains⟩

/-- A move along the lifecycle puts fitting requests only. -/
theorem move_proceeds (lineal : start.store.Lineal) (finishedStatus : String) (target : EntryState)
    (actionId : ActionId) (caller : Option String) :
    Keeps start.Proceeds start.Explains (move finishedStatus id target actionId caller) := by
  unfold move
  refine meets_bind World.findEntry_proceeds fun entry => meets_onwards fun middle found => ?_
  obtain ⟨proceeds, known⟩ := found
  have grown := proceeds.lineal lineal
  refine ⟨proceeds, suits_of_keeps ?_⟩
  have setting : Keeps middle.Proceeds middle.Explains (do
      World.setEntryState id target
      return true) := by
    refine keeps_bind (keeps_fitting fun world later => ?_) fun _ => keeps_pure true
    exact (later.grows grown).known id known
  split
  · exact keeps_pure false
  · split
    · exact keeps_fail nofun
    · dsimp only
      split
      · exact keeps_bind (closeAll_proceeds grown _ _ _) fun _ => setting
      · exact setting

end Lifecycle

end Caseflow
