import Caseflow.Proofs.Definitions
import Caseflow.Proofs.Rollback
/-! Runs of engines that share their blueprints. In such a run every step is defined in the
blueprint that a call on its entry finds, so whatever the call looks up is there: none fails for a
defect of a blueprint or for a step that is not defined. -/
namespace Caseflow

open Run

variable {shared : String → Option Blueprint}

/-- The failure is no defect of a blueprint and no step that is not defined. -/
structure Failure.MissesNothing (failure : Failure) : Prop where
  flawless : ∀ defect, failure ≠ .defective defect
  defined : ∀ step, failure ≠ .stepNotFound step

theorem Failure.missesNothing_of_shapeless {failure : Failure} (shapeless : failure.ofShape = false) :
    failure.MissesNothing := by
  constructor
  · rintro defect rfl
    cases shapeless
  · rintro step rfl
    cases shapeless

/-! ### Turns -/

/-- The turn is about the entry, with the blueprint that is shared for it, and all steps are
defined. -/
structure Turn.Governed (shared : String → Option Blueprint) (id : EntryId) (blueprint : Blueprint)
    (turn : Turn) : Prop where
  own : turn.scope.entry.id = id
  shows : turn.scope.blueprint = blueprint
  defined : turn.world.store.Defined shared
  governs : turn.world.store.blueprintOf? shared id = some blueprint

namespace Turn

variable {id : EntryId} {blueprint : Blueprint}

theorem governed_upheld : Upheld id blueprint (Governed shared id blueprint) where
  own _ governed := governed.own
  shows _ governed := governed.shows
  amended _ _ governed sameEntry sameBlueprint :=
    ⟨sameEntry.trans governed.own, sameBlueprint.trans governed.shows, governed.defined,
      governed.governs⟩
  asked turn request answer after governed within served := by
    have creates : turn.world.store.Creates shared request := by
      rintro new rfl other governs
      obtain ⟨own, isDefined⟩ := within
      rw [own, governed.governs] at governs
      exact Option.some.inj governs ▸ isDefined
    obtain ⟨defined, kept⟩ := governed.defined.served creates served
    exact ⟨governed.own, governed.shows, defined, kept id blueprint governed.governs⟩

theorem governed_stable : Stable (Governed shared id blueprint) := by
  intro before after hooked governed
  obtain ⟨bindings, scope⟩ := hooked.scope
  obtain ⟨change, store⟩ := hooked.store
  obtain ⟨defined, kept⟩ := governed.defined.modifyProperties before.home change
  constructor
  · rw [scope]
    exact governed.own
  · rw [scope]
    exact governed.shows
  · rw [store]
    exact defined
  · rw [store]
    exact kept id blueprint governed.governs

end Turn

/-! ### Calls -/

namespace Engine

variable {engine : Engine} {entryId : EntryId} {inputs : Values} {number : ActionId}

/-- The engine holds no blueprint but the shared ones. -/
def Agrees (engine : Engine) (shared : String → Option Blueprint) : Prop :=
  ∀ name blueprint, engine.catalog.get name = .ok blueprint → shared name = some blueprint

section Calls

variable (standard : engine.Standard) (agrees : engine.Agrees shared)

include standard

/-- An action of the blueprint is executed on an entry that it governs without missing anything. -/
theorem execute_defined {id : EntryId} {blueprint : Blueprint}
    (accepted : blueprint.validate = .ok ()) {chosen : ScopedAction}
    (declared : chosen.action ∈ blueprint.allActions) {turn : Turn}
    (governed : turn.Governed shared id blueprint)
    (current : ∀ step ∈ turn.scope.currentSteps, step ∈ turn.world.store.currentSteps id) :
    Meets (· = turn) (engine.kit.execute chosen) (fun _ => Turn.Governed shared id blueprint)
      (fun failure after => after.Governed shared id blueprint ∧ failure.MissesNothing) := by
  have hosts {kept : Turn → Prop} (stable : Turn.Stable kept) :
      engine.kit.Hosts Failure.MissesNothing kept :=
    (Toolkit.hosts_shapeless standard stable).mono fun failure =>
      failure.missesNothing_of_shapeless
  refine Toolkit.execute_upholds Turn.governed_upheld (fun steps => ?_) ?_
    (fun failure => failure.missesNothing_of_shapeless) (Blueprint.closed_of_validate accepted)
    declared ?_ (fun step member missing => ?_) fun target => ⟨nofun, nofun⟩
  · exact hosts (Turn.showing_stable Turn.governed_stable steps)
  · exact hosts Turn.governed_stable
  · exact ⟨governed.own, governed.shows, governed.defined, governed.governs⟩
  · have isDefined := governed.defined.steps id blueprint governed.governs step
      (List.mem_append_left _ (current step member))
    rw [missing] at isDefined
    cases isDefined

/-- A selected action is carried on with without missing anything. -/
theorem carryOn_defined {id : EntryId} {blueprint : Blueprint}
    (accepted : blueprint.validate = .ok ()) {selected : ScopedAction × Turn}
    (declared : selected.1.action ∈ blueprint.allActions)
    (governed : selected.2.Governed shared id blueprint)
    (current : ∀ step ∈ selected.2.scope.currentSteps,
      step ∈ selected.2.world.store.currentSteps id) {before : World → Prop} :
    Meets before (engine.carryOn entryId inputs number selected)
      (fun _ world => world.store.Defined shared)
      (fun failure world => world.store.Defined shared ∧ failure.MissesNothing) := by
  refine meets_bind_via (fun _ world => world.store.Defined shared) (meets_resume (meets_mono
    (execute_defined standard accepted declared governed current) (fun _ same => same)
    (fun _ _ governed => governed.defined) fun _ _ ends => ⟨ends.1.defined, ends.2⟩))
    fun progress => ?_
  exact keeps_mono (settle_lasting Store.defined_lasts standard progress)
    fun failure => failure.missesNothing_of_shapeless

include agrees

/-- A call on an entry misses nothing. -/
theorem act_defined :
    Keeps (fun world => world.store.Defined shared) Failure.MissesNothing
      (engine.act entryId inputs number) := by
  refine meets_from fun start defined => ?_
  rw [act_eq]
  refine meets_bind (meets_failures
    (meets_at (select_observes standard.modest.toRefuses start) (.refl start))
    fun failure world ends => ?_) fun reached => meets_from fun _ ends => ?_
  · refine ⟨?_, failure.missesNothing_of_shapeless ends.2.shapeless⟩
    show world.store.Defined shared
    rw [ends.1.store]
    exact defined
  · obtain ⟨chosen, turn⟩ := reached
    obtain ⟨-, selected⟩ := ends
    obtain ⟨before, stepId, after, split, -⟩ := selected.granted
    have isCandidate : (chosen, stepId) ∈
        Toolkit.candidatesFor turn.scope.blueprint turn.scope.currentSteps number := by
      rw [split]
      simp
    obtain ⟨isCandidate, -⟩ := Toolkit.candidate_of_candidateFor isCandidate
    have governs : start.store.blueprintOf? shared entryId = some turn.scope.blueprint := by
      rw [Store.blueprintOf?, selected.sees.found]
      exact agrees _ _ selected.sees.known
    have shown : turn.scope.currentSteps = turn.world.store.currentSteps entryId := by
      rw [selected.observed.store]
      exact selected.sees.steps
    refine carryOn_defined standard (Catalog.get_sound selected.sees.known).2
      (Blueprint.mem_allActions_of_candidate isCandidate)
      ⟨Store.id_of_findEntry? selected.sees.found, rfl, ?_, ?_⟩ fun step member => shown ▸ member
    · rw [selected.observed.store]
      exact defined
    · rw [selected.observed.store]
      exact governs

theorem chain_defined (limit : Nat) (next : Option ActionId) :
    Keeps (fun world => world.store.Defined shared) Failure.MissesNothing
      (engine.chain entryId inputs limit next) := by
  induction limit generalizing next with
  | zero =>
    cases next with
    | none => exact keeps_done ()
    | some number => exact keeps_fail (Failure.missesNothing_of_shapeless rfl)
  | succ limit ih =>
    cases next with
    | none => exact keeps_done ()
    | some number => exact keeps_andThen (act_defined standard agrees) fun next => ih next

/-- So does a call together with the actions that follow it on their own. -/
theorem acting_defined (entryId : EntryId) (number : ActionId) (inputs : Values) :
    Keeps (fun world => world.store.Defined shared) Failure.MissesNothing
      (Run.andThen (engine.act entryId inputs number)
        (engine.chain entryId inputs engine.kit.settings.maxAutoChainDepth)) :=
  keeps_andThen (act_defined standard agrees) fun next => chain_defined standard agrees _ next

omit agrees in
/-- The initial action of a new entry misses nothing. -/
theorem runInitial_defined {entry : Entry} {blueprint : Blueprint} {action : Action}
    (accepted : blueprint.validate = .ok ()) (declared : action ∈ blueprint.allActions) :
    Meets (fun world => world.store.Defined shared ∧
        world.store.blueprintOf? shared entry.id = some blueprint)
      (engine.runInitial entry blueprint action inputs)
      (fun _ world => world.store.Defined shared)
      (fun failure world => world.store.Defined shared ∧ failure.MissesNothing) := by
  refine meets_from fun start holds => ?_
  obtain ⟨defined, governs⟩ := holds
  rw [runInitial_eq]
  have judges : Keeps (fun world => world.store.Defined shared) _
      (engine.initiate entry blueprint action inputs) :=
    initiate_lasting Store.defined_lasts standard entry blueprint action
  refine meets_bind (meets_mono (meets_both
    (meets_at (initiate_observes standard.modest.toRefuses start) (.refl start))
    (meets_at judges defined)) (fun _ same => same) (fun _ _ ends => ends.1)
    fun failure world ends => ?_) fun reached => meets_from fun _ ends => ?_
  · exact ⟨ends.2.1, failure.missesNothing_of_shapeless ends.2.2⟩
  · obtain ⟨chosen, turn⟩ := reached
    obtain ⟨-, observed, rfl, bindings, shown⟩ := ends
    refine carryOn_defined standard accepted declared ⟨by rw [shown], by rw [shown], ?_, ?_⟩ ?_
    · rw [observed.store]
      exact defined
    · rw [observed.store]
      exact governs
    · rw [shown]
      simp

/-- Starting an entry misses nothing. -/
theorem starting_defined {workflow : String} {blueprint : Blueprint} {action : Action}
    (found : engine.initialAction workflow number = .ok (blueprint, action)) (inputs : Values) :
    Keeps (fun world => world.store.Defined shared) Failure.MissesNothing
      (do
        let entry ← World.createEntry workflow
        let following ← engine.runInitial entry blueprint action inputs
        engine.chain entry.id inputs engine.kit.settings.maxAutoChainDepth following
        return entry.id) := by
  have known := known_of_initial found
  have declared := declared_of_initial found
  refine meets_bind_via (fun entry world => world.store.Defined shared ∧
    world.store.blueprintOf? shared (Entry.id entry) = some blueprint) ?_ fun entry => ?_
  · have creates (store : Store) : store.Creates shared (.createEntry workflow) :=
      Store.creates_nothing nofun
    refine meets_request (fun world entry after defined served => ?_)
      fun world error after defined served => ?_
    · have later := defined.served (creates _) served
      refine ⟨later.defined, ?_⟩
      cases served with
      | answered entry store done =>
        have isHeld : store.findEntry? (Entry.id entry) = some entry :=
          (Store.findEntry?_createEntry defined.numbered done _).trans (if_pos rfl)
        obtain ⟨isNew, -⟩ := Store.createEntry_eq done
        show store.blueprintOf? shared _ = _
        rw [Store.blueprintOf?, isHeld, isNew]
        exact agrees _ _ known
      | absent value lost => cases lost
    · exact ⟨(defined.served (creates _) served).defined, Failure.missesNothing_of_shapeless rfl⟩
  · refine meets_bind (runInitial_defined standard (Catalog.get_sound known).2 declared)
      fun following => ?_
    exact keeps_bind (chain_defined standard agrees _ following) fun _ => keeps_pure _

end Calls

/-- Every call of an engine that holds no blueprint but the shared ones leaves every step
defined. -/
theorem perform_defined (standard : engine.Standard) (agrees : engine.Agrees shared) {world : World}
    (defined : world.store.Defined shared) (operation : Operation) :
    (engine.perform world operation).store.Defined shared := by
  cases operation with
  | start workflow number inputs =>
    show (engine.startEntry workflow number inputs world).world.store.Defined shared
    unfold startEntry
    cases found : engine.initialAction workflow number with
    | error failure => exact defined
    | ok held =>
      obtain ⟨blueprint, action⟩ := held
      dsimp only
      rw [Reply.world_ofRun]
      exact (starting_defined standard agrees found inputs).after defined
  | act entryId number inputs =>
    show (engine.doAction entryId number inputs world).world.store.Defined shared
    unfold doAction
    rw [Reply.world_ofRun]
    exact (acting_defined standard agrees entryId number inputs).after defined
  | changeState entryId target =>
    show (engine.changeState entryId target world).world.store.Defined shared
    unfold changeState
    rw [Reply.world_ofRun]
    exact (keeps_bind (move_lasting Store.defined_lasts _ entryId target _ _)
      fun _ => keeps_pure ()).after defined
  | setProperty entryId name value =>
    obtain ⟨looked, change, observed, reached⟩ := setProperty_world entryId name value world
    show (setProperty entryId name value world).2.store.Defined shared
    rw [reached]
    have kept : looked.store.Defined shared := observed.store ▸ defined
    exact (kept.modifyProperties entryId change).defined

end Engine

/-! ### Runs -/

/-- Calls of standard engines that hold no blueprints but the shared ones lead to the world from a
new store. -/
inductive World.ReachableSharing (shared : String → Option Blueprint) : World → Prop where
  | new (outages : Outages) (now : Instant) : ReachableSharing shared { outages, now }
  | call {world : World} {engine : Engine} (before : ReachableSharing shared world)
      (standard : engine.Standard) (agrees : engine.Agrees shared) (operation : Operation) :
      ReachableSharing shared (engine.perform world operation)
  | meanwhile {world : World} {calls : List Event} (before : ReachableSharing shared world)
      (outages : Outages) (now : Instant)
      (areCalls : ∀ event ∈ calls, Event.isCall event = true) :
      ReachableSharing shared { world.note calls with outages, now }

/-- In such a run every step is defined in the blueprint of its entry. -/
theorem World.ReachableSharing.defined {world : World} (reachable : world.ReachableSharing shared) :
    world.store.Defined shared := by
  induction reachable with
  | new outages now => exact .new
  | call before standard agrees operation ih =>
    exact Engine.perform_defined standard agrees ih operation
  | meanwhile before outages now areCalls ih => exact ih

namespace Engine

/-- In a run of engines that share their blueprints no start of an entry and no call on one, the
actions that follow on their own included, fails for a defect of a blueprint or for a step that is
not defined. -/
theorem calls_miss_nothing {engine : Engine} (standard : engine.Standard) (agrees : engine.Agrees shared)
    {world : World} (reachable : world.ReachableSharing shared) (number : ActionId)
    (inputs : Values) (failure : Failure) :
    (∀ workflow, (engine.startEntry workflow number inputs world).result = .error failure →
      failure.MissesNothing) ∧
    ∀ entryId, (engine.doAction entryId number inputs world).result = .error failure →
      failure.MissesNothing := by
  constructor
  · intro workflow failed
    unfold startEntry at failed
    cases found : engine.initialAction workflow number with
    | error missing =>
      rw [found] at failed
      cases failed
      exact failure.missesNothing_of_shapeless (uninitiated_shapeless found)
    | ok held =>
      obtain ⟨blueprint, action⟩ := held
      rw [found] at failed
      have ends := starting_defined standard agrees found inputs world reachable.defined
      rw [(Reply.of_failed failed).1] at ends
      exact ends.2
  · intro entryId failed
    have ends := acting_defined standard agrees entryId number inputs world reachable.defined
    rw [(Reply.of_failed failed).1] at ends
    exact ends.2

end Engine

/-- An engine shares its own blueprints. -/
def Engine.shares (engine : Engine) (name : String) : Option Blueprint :=
  (engine.catalog.get name).toOption

theorem Engine.agrees_shares (engine : Engine) : engine.Agrees engine.shares := by
  intro name blueprint known
  rw [Engine.shares, known]
  rfl

/-- An action that follows on its own fails in a run of one engine, for another reason. -/
theorem doubled_misses_nothing :
    doubledEngine.Agrees doubledEngine.shares ∧
      (doubledEngine.perform {} (.start "doubled" 1 ∅)).ReachableSharing doubledEngine.shares ∧
      ∃ failure : Failure, failure.MissesNothing ∧
        (doubledEngine.doAction 1 10 ∅ (doubledEngine.perform {} (.start "doubled" 1 ∅))).result =
          .error failure := by
  have standard : doubledEngine.Standard := rfl
  have agrees := doubledEngine.agrees_shares
  have reachable : (doubledEngine.perform {} (.start "doubled" 1 ∅)).ReachableSharing
      doubledEngine.shares := .call (.new {} ⟨0, 0⟩) standard agrees _
  have failed : (doubledEngine.doAction 1 10 ∅
      (doubledEngine.perform {} (.start "doubled" 1 ∅))).result =
        .error (.actionNotAvailable 20 1) :=
    failed_of_eval (by decide +kernel)
  obtain ⟨-, acts⟩ := Engine.calls_miss_nothing standard agrees reachable 10 ∅ _
  exact ⟨agrees, reachable, _, acts 1 failed, failed⟩

end Caseflow
