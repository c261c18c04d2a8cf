import Caseflow.Engine.Basic
import Caseflow.Proofs.Observation
import Caseflow.Proofs.Searches
/-! What an engine looks at before it acts. A call of an engine on an entry begins by looking: at
the entry, its blueprint, its current steps and its properties, and at the actions it may take. Up
to the selection nothing is written, and what is selected was available in the store that is still
there. -/
namespace Caseflow

open Run

namespace Engine

variable {engine : Engine} {entryId : EntryId} {inputs : Values} {actionId : ActionId}
  {admitted : ExtensionKind → Failure → Prop}

/-! ### The selection as a computation of its own -/

/-- Runs a turn in a scope, and answers the turn it ends in as well. -/
def watch {α : Type} (scope : Scope) (home : EntryId) (computation : Run Turn α) :
    Run World (α × Turn) :=
  fun world =>
    let (result, after) := computation { world, scope, home }
    (result.map (·, after), after.world)

/-- Goes on with a turn. -/
def resume {α : Type} (turn : Turn) (computation : Run Turn α) : Run World α :=
  fun _ =>
    let (result, after) := computation turn
    (result, after.world)

theorem turn_bind {α β : Type} (scope : Scope) (home : EntryId) (first : Run Turn α)
    (next : α → Run Turn β) :
    turn scope home (first >>= next) =
      watch scope home first >>= fun reached => resume reached.2 (next reached.1) := by
  funext world
  simp only [turn, watch, resume, bind_eq, andThen]
  split <;> simp_all [Except.map]

section Rules

variable {α : Type} {scope : Scope} {home : EntryId} {computation : Run Turn α}
  {before : World → Prop} {failed : Failure → World → Prop}

theorem meets_turn {answered : α → World → Prop}
    (meets : ∀ world, before world → Meets (· = { world, scope, home }) computation
      (fun value turn => answered value turn.world) fun failure turn => failed failure turn.world) :
    Meets before (turn scope home computation) answered failed := by
  intro world holds
  have ends := meets world holds _ rfl
  unfold turn
  split at ends
  · rename_i reached
    rw [reached]
    exact ends
  · rename_i reached
    rw [reached]
    exact ends

theorem meets_watch {answered : α × Turn → World → Prop}
    (meets : ∀ world, before world → Meets (· = { world, scope, home }) computation
      (fun value turn => answered (value, turn) turn.world)
      fun failure turn => failed failure turn.world) :
    Meets before (watch scope home computation) answered failed := by
  intro world holds
  have ends := meets world holds _ rfl
  unfold watch
  split at ends
  · rename_i reached
    rw [reached]
    exact ends
  · rename_i reached
    rw [reached]
    exact ends

theorem meets_resume {turn : Turn} {answered : α → World → Prop}
    (meets : Meets (· = turn) computation (fun value turn => answered value turn.world)
      fun failure turn => failed failure turn.world) :
    Meets before (resume turn computation) answered failed := by
  intro world _
  have ends := meets turn rfl
  unfold resume
  split at ends
  · rename_i reached
    rw [reached]
    exact ends
  · rename_i reached
    rw [reached]
    exact ends

end Rules

/-- Selects the action that was asked for on an active entry, with the turn it was found in. -/
def select (engine : Engine) (entryId : EntryId) (inputs : Values) (actionId : ActionId) :
    Run World (ScopedAction × Turn) := do
  let entry ← World.findEntry entryId
  if !entry.isActive then Run.fail (.entryNotActive entryId entry.state)
  else
    let blueprint ← Run.ofExcept (engine.catalog.get entry.workflow)
    let steps ← World.currentSteps entryId
    let properties ← World.properties entryId
    let scope ← engine.scope properties entry blueprint steps inputs
    watch scope entryId do
      let found ← engine.kit.findRequested blueprint steps actionId
      Run.ofOption (.actionNotAvailable actionId entryId) found

/-- Judges the initial action on a new entry, and answers the turn it is to be executed in. -/
def initiate (engine : Engine) (entry : Entry) (blueprint : Blueprint) (action : Action)
    (inputs : Values) : Run World (ScopedAction × Turn) := do
  let properties ← World.properties entry.id
  let scope ← engine.scope properties entry blueprint [] inputs
  let allowed ← engine.kit.treePasses scope properties 0 action.restriction
  if !allowed then Run.fail (.unauthorized engine.caller blueprint.name action.id)
  else watch scope entry.id (Run.done ⟨.initial, action⟩)

/-- Executes a selected action and settles what follows. -/
def carryOn (engine : Engine) (entryId : EntryId) (inputs : Values) (actionId : ActionId)
    (selected : ScopedAction × Turn) : Run World (Option ActionId) := do
  let progress ← resume selected.2 (engine.kit.execute selected.1)
  engine.settle entryId actionId inputs progress

/-- A call selects an action and carries on with it. -/
theorem act_eq (engine : Engine) (entryId : EntryId) (inputs : Values) (actionId : ActionId) :
    engine.act entryId inputs actionId =
      engine.select entryId inputs actionId >>= engine.carryOn entryId inputs actionId := by
  unfold act select
  rw [bind_assoc]
  refine bind_congr fun entry => ?_
  split
  · rfl
  · simp only [bind_assoc]
    refine bind_congr fun blueprint => bind_congr fun steps => ?_
    refine bind_congr fun properties => bind_congr fun scope => ?_
    simp only [turn_bind, ← bind_assoc]
    exact bind_assoc _ _ _

/-- A new entry is started by carrying on with the initial action. -/
theorem runInitial_eq (engine : Engine) (entry : Entry) (blueprint : Blueprint) (action : Action)
    (inputs : Values) :
    engine.runInitial entry blueprint action inputs =
      engine.initiate entry blueprint action inputs >>= engine.carryOn entry.id inputs action.id := by
  unfold runInitial initiate
  simp only [bind_assoc]
  refine bind_congr fun properties => bind_congr fun scope => bind_congr fun allowed => ?_
  split
  · rfl
  · rfl

/-! ### What is seen and what is selected -/

/-- The scope is what a call of the engine sees of an active entry in the store. -/
structure Sees (engine : Engine) (entryId : EntryId) (inputs : Values) (store : Store)
    (scope : Scope) : Prop where
  found : store.findEntry? entryId = some scope.entry
  active : scope.entry.state = .activated
  known : engine.catalog.get scope.entry.workflow = .ok scope.blueprint
  steps : scope.currentSteps = store.currentSteps entryId
  built : ∀ world, (engine.scope (store.propertiesOf entryId) scope.entry scope.blueprint
    scope.currentSteps inputs world).1 = .ok scope

/-- Since `start` the engine has only looked, and in the turn it has just found the action asked
for. -/
structure Selected (engine : Engine) (entryId : EntryId) (inputs : Values) (actionId : ActionId)
    (start : World) (chosen : ScopedAction) (turn : Turn) : Prop where
  observed : World.Observed start turn.world
  sees : engine.Sees entryId inputs start.store turn.scope
  home : turn.home = entryId
  granted : ∃ before stepId after,
    Toolkit.candidatesFor turn.scope.blueprint turn.scope.currentSteps actionId =
        before ++ (chosen, stepId) :: after ∧
      Toolkit.Granted engine.kit turn.scope turn.properties before chosen stepId turn.known

/-- Since `start` the engine has only looked, and the turn shows a new entry without steps. -/
structure Initiated (engine : Engine) (entry : Entry) (blueprint : Blueprint) (action : Action)
    (start : World) (chosen : ScopedAction) (turn : Turn) : Prop where
  observed : World.Observed start turn.world
  chosen : chosen = ⟨.initial, action⟩
  shown : ∃ bindings, turn.scope =
    { caller := engine.caller, entry, blueprint, currentSteps := [], bindings }

/-- What a call is turned down for before it has written anything. -/
inductive Declined (engine : Engine) (admitted : ExtensionKind → Failure → Prop)
    (entryId : EntryId) (inputs : Values) (actionId : ActionId) (start : World) :
    Failure → Prop where
  | notFound {failure : Failure} (cause : World.NotFound start entryId failure) :
      Declined engine admitted entryId inputs actionId start failure
  | inactive (entry : Entry) (found : start.store.findEntry? entryId = some entry)
      (idle : entry.state ≠ .activated) :
      Declined engine admitted entryId inputs actionId start (.entryNotActive entryId entry.state)
  | unknown {failure : Failure} (entry : Entry)
      (found : start.store.findEntry? entryId = some entry)
      (failed : engine.catalog.get entry.workflow = .error failure) :
      Declined engine admitted entryId inputs actionId start failure
  | store (error : StoreError) :
      Declined engine admitted entryId inputs actionId start (.store error)
  | hook {failure : Failure} (kind : ExtensionKind) (was : admitted kind failure) :
      Declined engine admitted entryId inputs actionId start failure
  | unavailable (scope : Scope) (known : Availability)
      (sees : engine.Sees entryId inputs start.store scope)
      (denied : Toolkit.Denied engine.kit scope (start.store.propertiesOf entryId)
        (Toolkit.candidatesFor scope.blueprint scope.currentSteps actionId) known) :
      Declined engine admitted entryId inputs actionId start (.actionNotAvailable actionId entryId)

theorem isActive_iff {entry : Entry} : entry.isActive = true ↔ entry.state = .activated := by
  simp [Entry.isActive]

/-- The scope that is built from what is stored is what the engine sees. -/
theorem sees_of_built {store : Store} {entry : Entry} {blueprint : Blueprint} {scope : Scope}
    (found : store.findEntry? entryId = some entry) (active : entry.state = .activated)
    (known : engine.catalog.get entry.workflow = .ok blueprint)
    (built : ∀ world, (engine.scope (store.propertiesOf entryId) entry blueprint
      (store.currentSteps entryId) inputs world).1 = .ok scope) :
    engine.Sees entryId inputs store scope ∧ scope.blueprint = blueprint ∧
      scope.currentSteps = store.currentSteps entryId := by
  obtain ⟨bindings, same⟩ := Toolkit.buildScope_frame (built default)
  have entries : scope.entry = entry := by rw [same]
  have blueprints : scope.blueprint = blueprint := by rw [same]
  have steps : scope.currentSteps = store.currentSteps entryId := by rw [same]
  refine ⟨⟨?_, ?_, ?_, steps, ?_⟩, blueprints, steps⟩
  · rw [entries]
    exact found
  · rw [entries]
    exact active
  · rw [entries, blueprints]
    exact known
  · rw [entries, blueprints, steps]
    exact built

section Contracts

variable (refuses : engine.kit.extensions.Refuses admitted)

include refuses

/-- A search from scratch is a look at the world. -/
theorem search_observes {start world : World} (observed : World.Observed start world)
    (scope : Scope) (home : EntryId) (candidates : List Candidate) :
    Meets (· = { world, scope, home }) (engine.kit.firstAvailable candidates)
      (fun found turn => (World.Observed start turn.world ∧ turn.scope = scope ∧ turn.home = home) ∧
        match found with
        | none => Toolkit.Denied engine.kit scope (start.store.propertiesOf home) candidates
            turn.known
        | some chosen => ∃ before stepId after, candidates = before ++ (chosen, stepId) :: after ∧
            Toolkit.Granted engine.kit scope (start.store.propertiesOf home) before chosen stepId
              turn.known)
      (fun failure turn => World.Observed start turn.world ∧ admitted .condition failure ∧
        ∃ candidate ∈ candidates, engine.kit.judgement scope (start.store.propertiesOf home)
          candidate.1 candidate.2 = .error failure) := by
  have begins : Toolkit.Searching engine.kit { world, scope, home } [] { world, scope, home } :=
    ⟨.refl _, Toolkit.denied_nil _ _⟩
  have looked {turn : Turn} (surveyed : Turn.Surveyed { world, scope, home } turn) :
      World.Observed start turn.world := by
    obtain ⟨calls, areCalls, reached⟩ := surveyed.world
    rw [reached]
    exact observed.noted areCalls
  have properties : start.store.propertiesOf home = Turn.properties { world, scope, home } := by
    rw [← observed.store]
    rfl
  rw [properties]
  refine meets_mono (meets_at (Toolkit.firstAvailable_meets refuses _ [] _) begins)
    (fun _ same => same) (fun found turn ends => ?_) fun failure turn ends => ⟨looked ends.1, ends.2⟩
  cases found with
  | none =>
    obtain ⟨surveyed, denied⟩ := ends
    exact ⟨⟨looked surveyed, surveyed.scope, surveyed.home⟩, denied⟩
  | some chosen =>
    obtain ⟨before, stepId, after, split, surveyed, granted⟩ := ends
    exact ⟨⟨looked surveyed, surveyed.scope, surveyed.home⟩, before, stepId, after, split, granted⟩

private theorem watch_requested {start : World} {scope : Scope}
    (sees : engine.Sees entryId inputs start.store scope) :
    Meets (World.Observed start)
      (watch scope entryId do
        let found ← engine.kit.findRequested scope.blueprint scope.currentSteps actionId
        Run.ofOption (.actionNotAvailable actionId entryId) found)
      (fun reached world => reached.2.world = world ∧
        Selected engine entryId inputs actionId start reached.1 reached.2)
      (fun failure world => World.Observed start world ∧
        Declined engine admitted entryId inputs actionId start failure) := by
  refine meets_watch fun world observed => ?_
  refine meets_bind (meets_failures (search_observes refuses observed scope entryId _)
    fun failure turn ends => ⟨ends.1, .hook _ ends.2.1⟩) fun found => ?_
  refine meets_ofOption (fun chosen same turn ends => ?_) fun none turn ends => ?_
  · subst same
    obtain ⟨⟨observed, rfl, home⟩, before, stepId, after, split, granted⟩ := ends
    refine ⟨rfl, observed, sees, home, before, stepId, after, split, ?_⟩
    rw [Turn.properties, observed.store, home]
    exact granted
  · subst none
    exact ⟨ends.1.1, .unavailable scope turn.known sees ends.2⟩

/-- A call that selects an action has only looked so far, and sees it available. -/
theorem select_observes (start : World) :
    Meets (World.Observed start) (engine.select entryId inputs actionId)
      (fun reached world => reached.2.world = world ∧
        Selected engine entryId inputs actionId start reached.1 reached.2)
      (fun failure world => World.Observed start world ∧
        Declined engine admitted entryId inputs actionId start failure) := by
  have refused {failure : Failure} {world : World} (ends : World.Observed start world ∧
      ∃ error, failure = .store error) : World.Observed start world ∧
        Declined engine admitted entryId inputs actionId start failure := by
    obtain ⟨observed, error, rfl⟩ := ends
    exact ⟨observed, .store error⟩
  unfold select
  refine meets_bind (meets_failures (World.findEntry_observes start entryId)
    fun failure world ends => ⟨ends.1, .notFound ends.2⟩) fun entry => meets_given fun found => ?_
  split
  · rename_i idle
    exact meets_fail fun world observed =>
      ⟨observed, .inactive entry found fun active => by simp [isActive_iff.mpr active] at idle⟩
  · rename_i live
    have active : entry.state = .activated := by simpa [isActive_iff] using live
    refine meets_ofExcept_bind (fun failure failed world observed => ?_) fun blueprint known => ?_
    · exact ⟨observed, .unknown entry found failed⟩
    refine meets_bind (meets_failures (World.currentSteps_observes start entryId) fun _ _ => refused)
      fun steps => meets_given fun listed => ?_
    refine meets_bind (meets_failures (World.properties_observes start entryId) fun _ _ => refused)
      fun properties => meets_given fun held => ?_
    subst listed held
    refine meets_bind (meets_failures
      (World.looks_observes (Toolkit.buildScope_looks refuses _ inputs) start)
      fun failure world ends => ⟨ends.1, .hook _ ends.2⟩) fun scope => meets_given fun built => ?_
    obtain ⟨sees, blueprints, steps⟩ := sees_of_built found active known built
    rw [← blueprints, ← steps]
    exact watch_requested refuses sees

/-- A call that judges an initial action has only looked so far. -/
theorem initiate_observes (start : World) {entry : Entry} {blueprint : Blueprint} {action : Action} :
    Meets (World.Observed start) (engine.initiate entry blueprint action inputs)
      (fun reached world => reached.2.world = world ∧
        Initiated engine entry blueprint action start reached.1 reached.2)
      (fun _ world => World.Observed start world) := by
  unfold initiate
  refine meets_bind (meets_mono (World.properties_observes start entry.id)
    (fun _ observed => observed) (fun _ _ ends => ends.2) fun _ _ ends => ends.1) fun properties => ?_
  refine meets_bind (meets_failures
    (World.looks_observes (Toolkit.buildScope_looks refuses _ inputs) start)
    fun _ _ ends => ends.1) fun scope => meets_given fun built => ?_
  refine meets_bind (meets_mono (World.looks_observes (Toolkit.treePasses_looks refuses _) start)
    (fun _ observed => observed) (fun _ _ ends => ends.2) fun _ _ ends => ends.1) fun allowed => ?_
  split
  · exact meets_fail fun _ observed => observed
  · refine meets_watch fun world observed => meets_done ?_
    rintro _ rfl
    exact ⟨rfl, observed, rfl, Toolkit.buildScope_frame (built default)⟩

end Contracts

end Engine

end Caseflow
