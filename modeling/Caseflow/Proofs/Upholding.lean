import Caseflow.Proofs.Runs
/-! What calls uphold. Between its transitions and the moves of an entry along its lifecycle an
engine only looks. So a property of worlds that looking, the execution of an action and a move keep
is kept by every call, with all actions that follow on their own, and the call fails with what
these fail with or for one of a few reasons of its own. -/
namespace Caseflow

open Run

namespace Engine

/-- The failures are admitted that a call has reasons of its own for: the store refuses a look, the
entry, its blueprint or the action cannot be had, too many actions follow, or a guard or a register
fails. -/
structure Admits (engine : Engine) (admitted : Failure → Prop) : Prop where
  store : ∀ error, admitted (.store error)
  absent : ∀ entryId, admitted (.entryNotFound entryId)
  inactive : ∀ entryId state, admitted (.entryNotActive entryId state)
  unknown : ∀ {workflow failure}, engine.catalog.get workflow = .error failure → admitted failure
  unavailable : ∀ actionId entryId, admitted (.actionNotAvailable actionId entryId)
  endless : ∀ limit, admitted (.chainLimitExceeded limit)
  hooks : engine.kit.extensions.Refuses fun _ => admitted

/-- Looking, executing an action and moving an entry keep the property, and fail in admitted
ways. -/
structure Upholds (engine : Engine) (kept : World → Prop) (admitted : Failure → Prop) : Prop
    extends engine.Admits admitted where
  looked : ∀ {start world}, kept start → World.Observed start world → kept world
  executed : ∀ chosen turn, kept turn.world → Meets (· = turn) (engine.kit.execute chosen)
    (fun _ after => kept after.world) fun failure after => kept after.world ∧ admitted failure
  moved : ∀ finishedStatus entryId target actionId caller,
    Keeps kept admitted (Lifecycle.move finishedStatus entryId target actionId caller)

/-- Any failure is admitted. -/
theorem admits_any (engine : Engine) : engine.Admits fun _ => True where
  store _ := trivial
  absent _ := trivial
  inactive _ _ := trivial
  unknown _ := trivial
  unavailable _ _ := trivial
  endless _ := trivial
  hooks := engine.kit.extensions.refuses_any

variable {engine : Engine} {kept : World → Prop} {admitted : Failure → Prop} {entryId : EntryId}
  {inputs : Values}

/-- What only looks keeps what looking keeps. -/
theorem keeps_of_observes {α : Type} {computation : Run World α}
    {answered : World → α → World → Prop} {failed : World → Failure → World → Prop}
    (looked : ∀ {start world}, kept start → World.Observed start world → kept world)
    (observes : ∀ start, Meets (World.Observed start) computation
      (fun value world => answered start value world ∧ World.Observed start world) (failed start))
    (allowed : ∀ {start failure world}, failed start failure world →
      World.Observed start world ∧ admitted failure) :
    Keeps kept admitted computation := by
  refine meets_from fun start holds => ?_
  refine meets_mono (meets_at (observes start) (.refl start)) (fun _ same => same)
    (fun _ _ ends => looked holds ends.2) fun _ _ ends => ?_
  exact ⟨looked holds (allowed ends).1, (allowed ends).2⟩

/-- Settling an entry only looks, unless it completes the entry. The blueprint it looks for is that
of the entry as it is stored. -/
theorem settle_keeps_stored (store : ∀ error, admitted (.store error))
    (absent : admitted (.entryNotFound entryId))
    (hooks : engine.kit.extensions.Refuses fun _ => admitted)
    (unknown : ∀ {world entry failure}, kept world → world.store.findEntry? entryId = some entry →
      engine.catalog.get entry.workflow = .error failure → admitted failure)
    (looked : ∀ {start world}, kept start → World.Observed start world → kept world)
    (moved : ∀ finishedStatus entryId target actionId caller,
      Keeps kept admitted (Lifecycle.move finishedStatus entryId target actionId caller))
    (actionId : ActionId) (progress : Progress) :
    Keeps kept admitted (engine.settle entryId actionId inputs progress) := by
  have stored {start world : World} {failure : Failure}
      (ends : World.Observed start world ∧ ∃ error, failure = .store error) :
      World.Observed start world ∧ admitted failure := by
    obtain ⟨observed, error, rfl⟩ := ends
    exact ⟨observed, store error⟩
  cases progress with
  | finished => exact keeps_done none
  | continued =>
    unfold settle
    refine meets_from fun start holds => ?_
    refine meets_bind (meets_mono (meets_at (World.findEntry_observes start entryId) (.refl start))
      (fun _ same => same) (fun entry world ends => ⟨ends.1, looked holds ends.2⟩)
      fun failure world ends => ⟨looked holds ends.1, ?_⟩) fun entry => meets_given fun found => ?_
    · cases ends.2 with
      | store error => exact store error
      | missing gone => exact absent
      | lost call met => exact absent
    split
    · exact keeps_pure none
    · refine keeps_ofExcept_bind (fun _ => unknown holds found) fun blueprint _ => ?_
      refine keeps_bind (keeps_of_observes looked
        (fun start => World.currentSteps_observes start entryId) stored) fun steps => ?_
      split
      · exact keeps_bind (moved _ _ _ _ _) fun _ => keeps_pure none
      · refine keeps_bind (keeps_of_observes looked
          (fun start => World.properties_observes start entryId) stored) fun properties => ?_
        refine keeps_bind (keeps_of_observes looked (World.looks_observes
          (Toolkit.buildScope_looks hooks _ inputs)) fun ends => ends) fun scope => ?_
        refine keeps_bind (meets_turn fun world holds => ?_) fun _ => keeps_pure _
        exact meets_mono (search_observes hooks (.refl world) scope entryId _)
          (fun _ same => same) (fun _ _ ends => looked holds ends.1.1)
          fun _ _ ends => ⟨looked holds ends.1, ends.2.1⟩

namespace Admits

variable (admits : engine.Admits admitted)

include admits

theorem notFound {start : World} {failure : Failure} (cause : World.NotFound start entryId failure) :
    admitted failure := by
  cases cause with
  | store error => exact admits.store error
  | missing gone => exact admits.absent entryId
  | lost call met => exact admits.absent entryId

/-- What a call is turned down for is admitted. -/
theorem declined {actionId : ActionId} {start : World} {failure : Failure}
    (declined : Declined engine (fun _ => admitted) entryId inputs actionId start failure) :
    admitted failure := by
  cases declined with
  | notFound cause => exact admits.notFound cause
  | inactive entry found idle => exact admits.inactive entryId entry.state
  | unknown entry found failed => exact admits.unknown failed
  | store error => exact admits.store error
  | hook kind was => exact was
  | unavailable scope known sees denied => exact admits.unavailable actionId entryId

theorem settle_keeps
    (looked : ∀ {start world}, kept start → World.Observed start world → kept world)
    (moved : ∀ finishedStatus entryId target actionId caller,
      Keeps kept admitted (Lifecycle.move finishedStatus entryId target actionId caller))
    (actionId : ActionId) (progress : Progress) :
    Keeps kept admitted (engine.settle entryId actionId inputs progress) :=
  settle_keeps_stored admits.store (admits.absent entryId) admits.hooks (fun _ _ => admits.unknown)
    looked moved actionId progress

end Admits

namespace Upholds

section Calls

variable (upholds : engine.Upholds kept admitted)

include upholds

theorem carryOn_keeps (actionId : ActionId) (selected : ScopedAction × Turn) :
    Meets (fun world => selected.2.world = world ∧ kept world)
      (engine.carryOn entryId inputs actionId selected) (fun _ => kept)
      fun failure world => kept world ∧ admitted failure := by
  refine meets_from fun start ends => ?_
  obtain ⟨rfl, holds⟩ := ends
  refine meets_bind (meets_resume (upholds.executed selected.1 selected.2 holds)) fun progress => ?_
  exact upholds.settle_keeps upholds.looked upholds.moved actionId progress

theorem act_keeps (actionId : ActionId) :
    Keeps kept admitted (engine.act entryId inputs actionId) := by
  rw [act_eq]
  refine meets_from fun start holds => ?_
  refine meets_bind (meets_mono (meets_at (select_observes upholds.hooks start) (.refl start))
    (fun _ same => same) (fun reached world ends => ?_) fun failure world ends => ?_)
    fun selected => upholds.carryOn_keeps actionId selected
  · obtain ⟨rfl, selected⟩ := ends
    exact ⟨rfl, upholds.looked holds selected.observed⟩
  · exact ⟨upholds.looked holds ends.1, upholds.declined ends.2⟩

theorem chain_keeps (limit : Nat) (next : Option ActionId) :
    Keeps kept admitted (engine.chain entryId inputs limit next) := by
  induction limit generalizing next with
  | zero =>
    cases next with
    | none => exact keeps_done ()
    | some number => exact keeps_fail (upholds.endless _)
  | succ limit ih =>
    cases next with
    | none => exact keeps_done ()
    | some number => exact keeps_andThen (upholds.act_keeps number) fun next => ih next

end Calls

variable (upholds : engine.Upholds kept fun _ => True)

include upholds

theorem runInitial_keeps (entry : Entry) (blueprint : Blueprint) (action : Action) :
    Keeps kept (fun _ => True) (engine.runInitial entry blueprint action inputs) := by
  rw [runInitial_eq]
  refine meets_from fun start holds => ?_
  refine meets_bind (meets_mono (meets_at (initiate_observes upholds.hooks start) (.refl start))
    (fun _ same => same) (fun reached world ends => ?_) fun failure world observed => ?_)
    fun selected => upholds.carryOn_keeps action.id selected
  · obtain ⟨rfl, initiated⟩ := ends
    exact ⟨rfl, upholds.looked holds initiated.observed⟩
  · exact ⟨upholds.looked holds observed, trivial⟩

/-- Every call that changes something upholds the property. -/
theorem perform_keeps {world : World} (holds : kept world)
    (created : ∀ workflow, Keeps kept (fun _ => True) (World.createEntry workflow))
    (written : ∀ world entryId change, kept world →
      kept { world with store := world.store.modifyProperties entryId change })
    (operation : Operation) : kept (engine.perform world operation) := by
  cases operation with
  | start workflow actionId inputs =>
    show kept (engine.startEntry workflow actionId inputs world).world
    unfold startEntry
    split
    · exact holds
    · rw [Reply.world_ofRun]
      refine (keeps_bind (created workflow) fun entry => ?_).after holds
      refine keeps_bind (upholds.runInitial_keeps entry _ _) fun next => ?_
      exact keeps_bind (upholds.chain_keeps _ next) fun _ => keeps_pure entry.id
  | act entryId actionId inputs =>
    show kept (engine.doAction entryId actionId inputs world).world
    unfold doAction
    rw [Reply.world_ofRun]
    refine (keeps_andThen (upholds.act_keeps actionId) fun next => ?_).after holds
    exact upholds.chain_keeps _ next
  | changeState entryId target =>
    show kept (engine.changeState entryId target world).world
    unfold changeState
    rw [Reply.world_ofRun]
    exact (keeps_bind (upholds.moved _ _ _ _ _) fun _ => keeps_pure ()).after holds
  | setProperty entryId name value =>
    obtain ⟨looked, change, observed, reached⟩ := setProperty_world entryId name value world
    show kept (setProperty entryId name value world).2
    rw [reached]
    exact written looked entryId change (upholds.looked holds observed)

end Upholds

end Engine

end Caseflow
