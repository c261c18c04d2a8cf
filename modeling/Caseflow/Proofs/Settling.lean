import Caseflow.Proofs.Execution
import Caseflow.Proofs.Selecting
/-! What follows an executed action. The engine looks at the entry afresh: it completes an entry
whose steps offer nothing, or finds the next action that fires on its own, which it sees to be
available in the store it leaves behind. -/
namespace Caseflow

open Run

namespace Engine

variable {engine : Engine} {entry : Entry} {around : Surroundings} {inputs : Values}
  {admitted : ExtensionKind → Failure → Prop}

/-- The engine sees an action of this number that fires on its own and is available. -/
structure Pending (engine : Engine) (entryId : EntryId) (inputs : Values) (store : Store)
    (number : ActionId) : Prop where
  found : ∃ scope automatic before stepId after known,
    engine.Sees entryId inputs store scope ∧ ScopedAction.id automatic = number ∧
      (Toolkit.candidates scope.blueprint scope.currentSteps).filter (·.1.action.autoExecute) =
        before ++ (automatic, stepId) :: after ∧
      Toolkit.Granted engine.kit scope (store.propertiesOf entryId) before automatic stepId known

/-- There is nothing left that the engine would do with the entry on its own: it is completed and
has no current step, or it is active, the search for an action that fires on its own finds nothing
in any world with this store, and where entries without actions are completed, some current step
has one or is not known. -/
inductive AtRest (engine : Engine) (entryId : EntryId) (inputs : Values) (store : Store) : Prop where
  | completed (entry : Entry) (found : store.findEntry? entryId = some entry)
      (state : entry.state = .completed) (left : store.currentSteps entryId = []) :
      AtRest engine entryId inputs store
  | waiting (scope : Scope) (sees : engine.Sees entryId inputs store scope)
      (nothing : ∀ world, world.store = store → (turn scope entryId
        (engine.kit.findAutomatic scope.blueprint scope.currentSteps) world).1 = .ok none)
      (remains : engine.kit.settings.implicitFinish = true →
        ∃ step ∈ store.currentSteps entryId, ∀ definition,
          scope.blueprint.step? step.defId = some definition → definition.hasActions = true) :
      AtRest engine entryId inputs store

/-- What is to follow: an action that is pending, or nothing on an entry at rest. -/
structure Follows (engine : Engine) (entryId : EntryId) (inputs : Values) (next : Option ActionId)
    (store : Store) : Prop where
  pending : ∀ number, next = some number → engine.Pending entryId inputs store number
  rested : next = none → engine.AtRest entryId inputs store

/-- A completed entry is at rest. -/
theorem atRest_of_completed {world : World} (holds : world.Holds entry around)
    (completed : entry.state = .completed) : engine.AtRest entry.id inputs world.store := by
  refine .completed entry holds.held completed ?_
  exact holds.orderly.rested entry.id entry holds.held (by rw [completed]; rfl)

/-- What settling an entry can fail with. -/
inductive Unsettled (engine : Engine) (admitted : ExtensionKind → Failure → Prop)
    (around : Surroundings) (entry : Entry) : Failure → Prop where
  | store (error : StoreError) : Unsettled engine admitted around entry (.store error)
  | lost (lost : ¬ around.Candid) : Unsettled engine admitted around entry (.entryNotFound entry.id)
  | unknown {failure : Failure} (failed : engine.catalog.get entry.workflow = .error failure) :
      Unsettled engine admitted around entry failure
  | hook {failure : Failure} (kind : ExtensionKind) (was : admitted kind failure) :
      Unsettled engine admitted around entry failure

/-- Nothing keeps an active entry from being completed but the store. -/
theorem unsettled_of_refusal (active : entry.state = .activated) {failure : Failure}
    (refused : Lifecycle.Refusal around entry .completed failure) :
    Unsettled engine admitted around entry failure := by
  cases refused with
  | store error => exact .store error
  | absent lost => exact .lost lost
  | noEdge apart missing =>
    rw [active] at missing
    cases missing

/-- Unless all steps are known to offer nothing, one of them offers something or is not known. -/
private theorem remains_of_left {blueprint : Blueprint} {steps : List Step}
    (left : nothingLeft blueprint steps = false) :
    ∃ step ∈ steps, ∀ definition,
      blueprint.step? step.defId = some definition → definition.hasActions = true := by
  unfold nothingLeft at left
  obtain ⟨step, member, offers⟩ := List.all_eq_false.mp left
  refine ⟨step, member, fun definition known => ?_⟩
  simpa [known] using offers

section Contracts

variable (refuses : engine.kit.extensions.Refuses admitted)

include refuses

/-- The search for the action that fires on its own, as a look at the world. -/
private theorem turn_automatic {start : World} {scope : Scope}
    (sees : engine.Sees entry.id inputs start.store scope)
    (remains : engine.kit.settings.implicitFinish = true →
      ∃ step ∈ start.store.currentSteps entry.id, ∀ definition,
        scope.blueprint.step? step.defId = some definition → definition.hasActions = true) :
    Meets (World.Observed start)
      (turn scope entry.id (engine.kit.findAutomatic scope.blueprint scope.currentSteps))
      (fun found world => World.Observed start world ∧
        engine.Follows entry.id inputs (found.map (·.id)) start.store)
      (fun failure world => World.Observed start world ∧ admitted .condition failure) := by
  refine meets_turn fun world observed => ?_
  refine meets_mono (search_observes refuses observed scope entry.id _) (fun _ same => same)
    (fun found turn ends => ?_) fun _ _ ends => ⟨ends.1, ends.2.1⟩
  obtain ⟨⟨observed, -⟩, searched⟩ := ends
  refine ⟨observed, ?_⟩
  cases found with
  | some automatic =>
    obtain ⟨before, stepId, after, split, granted⟩ := searched
    refine ⟨fun number same => ?_, nofun⟩
    exact ⟨scope, automatic, before, stepId, after, _, sees, Option.some.inj same, split, granted⟩
  | none =>
    refine ⟨nofun, fun _ => .waiting scope sees (fun other same => ?_) remains⟩
    refine Toolkit.firstAvailable_of_denied refuses rfl ?_ (Toolkit.denied_nil scope _) searched
    show other.store.propertiesOf entry.id = _
    rw [same]

/-- Looking for the action that fires on its own changes nothing, and tells what is to follow. -/
private theorem following_observes {start : World} {blueprint : Blueprint}
    (held : start.store.findEntry? entry.id = some entry) (active : entry.state = .activated)
    (known : engine.catalog.get entry.workflow = .ok blueprint)
    (remains : engine.kit.settings.implicitFinish = true →
      ∃ step ∈ start.store.currentSteps entry.id, ∀ definition,
        blueprint.step? step.defId = some definition → definition.hasActions = true) :
    Meets (World.Observed start)
      (do
        let properties ← World.properties entry.id
        let scope ← engine.scope properties entry blueprint (start.store.currentSteps entry.id) inputs
        let automatic ← turn scope entry.id
          (engine.kit.findAutomatic blueprint (start.store.currentSteps entry.id))
        return automatic.map (·.id))
      (fun next world => World.Observed start world ∧
        engine.Follows entry.id inputs next start.store)
      (fun failure world => World.Observed start world ∧
        ((∃ error, failure = .store error) ∨ ∃ kind, admitted kind failure)) := by
  refine meets_bind (meets_failures (World.properties_observes start entry.id)
    fun _ _ ends => ⟨ends.1, .inl ends.2⟩) fun properties => meets_given fun same => ?_
  subst same
  refine meets_bind (meets_failures
    (World.looks_observes (Toolkit.buildScope_looks refuses _ inputs) start)
    fun _ _ ends => ⟨ends.1, .inr ⟨_, ends.2⟩⟩) fun scope => meets_given fun built => ?_
  obtain ⟨sees, blueprints, steps⟩ := sees_of_built held active known built
  rw [← blueprints] at remains ⊢
  rw [← steps]
  refine meets_bind (meets_failures (turn_automatic refuses sees remains)
    fun _ _ ends => ⟨ends.1, .inr ⟨_, ends.2⟩⟩) fun automatic => ?_
  exact meets_pure fun _ ends => ends

/-- What is to follow is settled in a tidy world. -/
theorem settle_meets (entry : Entry) (inputs : Values) (actionId : ActionId)
    (progress : Progress) (reached : entry.state = progress.state) :
    Meets (World.Holds entry around) (engine.settle entry.id actionId inputs progress)
      (fun next world => world.Tidy around ∧ engine.Follows entry.id inputs next world.store)
      (fun failure world => world.Tidy around ∧
        Unsettled engine admitted around entry failure) := by
  cases progress with
  | finished =>
    refine meets_done fun world holds => ⟨holds.toTidy, nofun, fun _ => ?_⟩
    exact atRest_of_completed holds reached
  | continued =>
    refine meets_from fun start holds => ?_
    have refused {failure : Failure} {world : World} (ends : World.Observed start world ∧
        ((∃ error, failure = .store error) ∨ ∃ kind, admitted kind failure)) :
        world.Tidy around ∧ Unsettled engine admitted around entry failure := by
      obtain ⟨observed, ⟨error, rfl⟩ | ⟨kind, was⟩⟩ := ends
      · exact ⟨holds.toTidy.observed observed, .store error⟩
      · exact ⟨holds.toTidy.observed observed, .hook kind was⟩
    unfold settle
    have finds := meets_at (World.findEntry_observes start entry.id) (.refl start)
    refine meets_bind (meets_failures finds fun failure world ends => ?_)
      fun found => meets_given fun isEntry => ?_
    · refine ⟨holds.toTidy.observed ends.1, ?_⟩
      cases ends.2 with
      | store error => exact .store error
      | missing gone => exact absurd (holds.held.symm.trans gone) nofun
      | lost call met => exact .lost fun candid => candid call (holds.verdict ▸ met)
    obtain rfl := Option.some.inj (isEntry.symm.trans holds.held)
    have active : found.state = .activated := reached
    split
    · rename_i idle
      simp [isActive_iff.mpr active] at idle
    · refine meets_ofExcept_bind (fun failure failed world observed => ?_) fun blueprint known => ?_
      · exact ⟨holds.toTidy.observed observed, .unknown failed⟩
      refine meets_bind (meets_failures (World.currentSteps_observes start found.id)
        fun _ _ ends => refused ⟨ends.1, .inl ends.2⟩) fun steps => meets_given fun listed => ?_
      subst listed
      split
      · refine meets_bind (meets_mono (Lifecycle.move_meets _ .completed actionId _)
          (fun _ observed => holds.observed observed) (fun _ _ moved => moved)
          fun failure world ends => ⟨ends.1.toTidy, unsettled_of_refusal active ends.2⟩) fun _ => ?_
        refine meets_pure fun world moved => ⟨moved.toTidy, nofun, fun _ => ?_⟩
        show engine.AtRest ({ found with state := .completed } : Entry).id inputs world.store
        exact atRest_of_completed moved rfl
      · rename_i goesOn
        have remains (implicit : engine.kit.settings.implicitFinish = true) :=
          remains_of_left (by simpa [implicit] using goesOn)
        refine meets_mono (following_observes refuses isEntry active known remains)
          (fun _ observed => observed) (fun next world ends => ?_) fun _ _ => refused
        refine ⟨holds.toTidy.observed ends.1, ?_⟩
        rw [ends.1.store]
        exact ends.2

end Contracts

end Engine

end Caseflow
