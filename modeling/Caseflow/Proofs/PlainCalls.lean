import Mathlib.Data.List.Nodup
import Caseflow.Proofs.Acceptance
import Caseflow.Proofs.Authorization
import Caseflow.Proofs.Barrier
import Caseflow.Proofs.Pictures
/-! Calls that go through. Where a workflow has no registers and an action has no hooks, nothing but
the store and the steps decides what a call does: the only candidate is selected, its outcome is
taken, and the entry rests as long as a step that is waited for offers something. -/
namespace Caseflow

open Run

/-! ### What a catalog promises -/

/-- What a catalog promises of a blueprint that it holds: it has a name, and its initial actions,
its global ones and those of its steps all differ in their numbers. -/
theorem Catalog.promises {catalog : Catalog} {name : String} {blueprint : Blueprint}
    (found : catalog.get name = .ok blueprint) :
    Text.isAllBlank name = false ∧ (blueprint.localActions.map (·.id)).Nodup := by
  obtain ⟨same, accepted⟩ := Catalog.get_sound found
  refine ⟨same ▸ blueprint.named_of_validate accepted, ?_⟩
  have flawless := Blueprint.flawless_of_validate accepted
  unfold Blueprint.defect? at flawless
  simp only [Option.or_eq_none_iff] at flawless
  obtain ⟨-, -, numbers, -⟩ := flawless
  unfold Blueprint.duplicateDefect? at numbers
  simp only [Option.or_eq_none_iff, Option.map_eq_none_iff] at numbers
  exact (nodup_of_firstRepeated? numbers.2.2.2).2

/-! ### Calls at rest -/

/-- A call whose computation succeeds answers what the computation does. -/
theorem Reply.of_succeeds {α : Type} {before : World → Prop} {computation : Run World α}
    {answered : α → World → Prop} (succeeds : Succeeds before computation answered)
    (marks : Failure → Bool) {world : World} (holds : before world) :
    ∃ value, (Reply.ofRun marks computation world).result = .ok value ∧
      answered value (Reply.ofRun marks computation world).world := by
  have ends := succeeds world holds
  unfold Reply.ofRun
  split at ends
  · rename_i value after reached
    rw [reached]
    exact ⟨value, rfl, ends⟩
  · cases ends

/-- Nothing happens to the steps on its own: one of them offers an action, and none of them fires
one. -/
structure Blueprint.Rests (blueprint : Blueprint) (steps : List Step) : Prop where
  goesOn : Engine.nothingLeft blueprint steps = false
  manual : (Toolkit.candidates blueprint steps).filter (·.1.action.autoExecute) = []

namespace Toolkit

variable {kit : Toolkit} {picture : Picture} {scope : Scope} {chosen : ScopedAction}
  {outcome : Outcome}

/-- An unrestricted action may fire where the workflow has no conditions. -/
theorem mayFire_plain (plain : chosen.action.Plain outcome)
    (noGlobalConditions : scope.blueprint.globalConditions = none) (properties : Values)
    (stepId : StepDefId) : Answers true (kit.mayFire scope properties stepId chosen.action) := by
  unfold mayFire
  rw [noGlobalConditions]
  exact treePasses_blank plain.unrestricted

/-- The only candidate is found, if it may fire. -/
theorem firstAvailable_only {turn : Turn} {stepId : StepDefId}
    (unknown : turn.known.find? chosen.key = none)
    (fires : Answers true (kit.mayFire { turn.scope with actionId := some chosen.id }
      turn.properties stepId chosen.action)) :
    ∃ calls, kit.firstAvailable [(chosen, stepId)] turn = (.ok (some chosen),
      { turn with
        world := turn.world.note calls
        known := turn.known.learn chosen.key true }) := by
  obtain ⟨calls, -, reached⟩ := fires
  exact ⟨calls, by simp [firstAvailable, isAvailable, andThen, Run.read, unknown, Turn.onWorld,
    within, reached, change, Run.done]⟩

/-- What remains of an action without hooks that does not finish the entry. -/
theorem depart_plain (plain : chosen.action.Plain outcome) {leaving : Option Step}
    (quiet : kit.leaveStep scope.blueprint leaving = done ()) :
    kit.depart chosen scope leaving = (do
      kit.takeOutcome chosen.action outcome leaving
      kit.activate scope.entry.id chosen.scope
      return Progress.continued) := by
  have selects (stepId : StepDefId) : kit.selectOutcome chosen.action stepId = done outcome := by
    unfold selectOutcome
    rw [plain.unconditional, plain.leads]
    rfl
  have finishes : kit.finish scope.entry.id chosen.action = done .continued := by
    unfold finish
    rw [plain.continues]
    rfl
  unfold depart
  rw [plain.validators, plain.preFunctions, plain.postFunctions, quiet, selects, finishes]
  show (do
    kit.runValidators outcome.validators
    kit.runFunctions outcome.preFunctions
    kit.takeOutcome chosen.action outcome leaving
    kit.runFunctions outcome.postFunctions
    kit.runFunctions []
    kit.activate scope.entry.id chosen.scope
    done Progress.continued) = _
  rw [plain.bare.validators, plain.bare.preFunctions, plain.bare.postFunctions]
  rfl

/-- An action without hooks does what its outcome does. -/
theorem execute_succeeds {turn : Turn} {leaving : Option Step} {reached : Turn → Prop}
    (plain : chosen.action.Plain outcome) (shows : turn.Shows scope picture)
    (left : kit.leavingStep chosen.id (turn.begun chosen) = (.ok leaving, turn.begun chosen))
    (quiet : kit.leaveStep scope.blueprint leaving = done ())
    (takes : Succeeds (Turn.Shows { scope with actionId := some chosen.id } picture)
      (do
        kit.takeOutcome chosen.action outcome leaving
        kit.activate scope.entry.id chosen.scope)
      (fun _ => reached)) :
    Succeeds (· = turn) (kit.execute chosen)
      (fun progress turn => progress = .continued ∧ reached turn) := by
  have begun : (turn.begun chosen).Shows { scope with actionId := some chosen.id } picture :=
    ⟨by rw [← shows.scope]; rfl, shows.world.note _⟩
  have departs : Succeeds (Turn.Shows { scope with actionId := some chosen.id } picture)
      (kit.depart chosen scope leaving)
      (fun progress turn => progress = .continued ∧ reached turn) := by
    rw [depart_plain plain quiet, ← bind_assoc]
    exact meets_bind takes fun _ => meets_pure fun _ ends => ⟨rfl, ends⟩
  intro start same
  rw [same, execute_begun, bind_eq, andThen_ok left, shows.scope]
  exact departs _ begun

/-- Only an initial action activates the entry. -/
theorem activate_later {declared : ActionScope} (later : declared ≠ .initial) {reached : Turn → Prop}
    (entryId : EntryId) : Succeeds reached (kit.activate entryId declared) (fun _ => reached) := by
  unfold activate
  refine meets_bind_via (fun _ => reached) ?_ fun now => ?_
  · exact meets_bind_via (fun _ => reached) (meets_read fun _ holds => holds)
      fun _ => meets_pure fun _ holds => holds
  · rw [if_neg fun both => later both.1]
    exact meets_pure fun _ holds => holds

/-- An initial action activates a new entry, in the store and in the scope. -/
theorem activate_initial (own : scope.entry.state = .created)
    (new : picture.entry.state = .created) :
    Succeeds (Turn.Shows scope picture) (kit.activate picture.entry.id .initial)
      (fun _ => Turn.Shows { scope with entry := { scope.entry with state := .activated } }
        { picture with entry := { picture.entry with state := .activated } }) := by
  unfold activate
  refine Turn.scopeNow_succeeds ?_
  rw [if_pos ⟨rfl, by rw [own]; decide⟩]
  refine meets_bind (Turn.onWorld_succeeds (World.move_succeeds _ 0 scope.caller
    (by rw [new]; rfl) rfl)) fun _ => meets_given fun _ => ?_
  exact Turn.amendScope_succeeds _

end Toolkit

namespace Engine

variable {engine : Engine} {picture : Picture} {blueprint : Blueprint} {inputs : Values}
  {number : ActionId}

/-- The scope of a call on an entry in a workflow without registers. -/
def plainScope (engine : Engine) (entry : Entry) (blueprint : Blueprint) (steps : List Step)
    (inputs : Values) : Scope :=
  { caller := engine.caller
    entry
    blueprint
    currentSteps := steps
    bindings := (∅ : Values).insertMany inputs.pairs }

theorem scope_plain (isLocal : blueprint.Local) (properties : Values) (entry : Entry)
    (steps : List Step) (inputs : Values) :
    engine.scope properties entry blueprint steps inputs =
      done (engine.plainScope entry blueprint steps inputs) := by
  unfold scope Toolkit.buildScope
  dsimp only
  rw [isLocal.noRegisters]
  rfl

/-- The only candidate is selected. -/
theorem select_succeeds {chosen : ScopedAction} {outcome : Outcome} {stepId : StepDefId}
    (active : picture.entry.state = .activated)
    (known : engine.catalog.get picture.entry.workflow = .ok blueprint)
    (isLocal : blueprint.Local) (plain : chosen.action.Plain outcome)
    (only : Toolkit.candidatesFor blueprint picture.current number = [(chosen, stepId)]) :
    Succeeds (World.Shows picture) (engine.select picture.entry.id inputs number)
      (fun reached _ => reached.1 = chosen ∧
        reached.2.Shows (engine.plainScope picture.entry blueprint picture.current inputs) picture ∧
        reached.2.known.find? chosen.key = some true) := by
  unfold select
  refine meets_bind World.findEntry_succeeds fun entry => meets_given fun same => ?_
  subst same
  rw [if_neg (by simp [Entry.isActive, active]), known]
  show Succeeds (World.Shows picture) (done blueprint >>= _) _
  rw [done_bind]
  refine meets_bind World.currentSteps_succeeds fun steps => meets_given fun same => ?_
  subst same
  refine meets_bind World.properties_succeeds fun properties => meets_given fun _ => ?_
  rw [scope_plain isLocal, done_bind]
  refine meets_watch fun world shows turn same => ?_
  have unknown : turn.known.find? chosen.key = none := by
    rw [same]
    rfl
  have fires : Answers true (engine.kit.mayFire { turn.scope with actionId := some chosen.id }
      turn.properties stepId chosen.action) :=
    Toolkit.mayFire_plain plain (by rw [same]; exact isLocal.noGlobalConditions) _ _
  obtain ⟨calls, found⟩ := Toolkit.firstAvailable_only unknown fires
  unfold Toolkit.findRequested
  rw [only, bind_eq, andThen_ok found]
  refine ⟨rfl, ⟨by rw [same], by rw [same]; exact shows.note calls⟩, ?_⟩
  rw [Availability.find?_learn unknown, if_pos rfl]

/-- An entry that rests is left as it is. -/
theorem settle_succeeds (active : picture.entry.state = .activated)
    (known : engine.catalog.get picture.entry.workflow = .ok blueprint)
    (isLocal : blueprint.Local) (rests : blueprint.Rests picture.current) :
    Succeeds (World.Shows picture) (engine.settle picture.entry.id number inputs .continued)
      (fun next world => next = none ∧ world.Shows picture) := by
  unfold settle
  refine meets_bind World.findEntry_succeeds fun entry => meets_given fun same => ?_
  subst same
  rw [if_neg (by simp [Entry.isActive, active]), known]
  show Succeeds (World.Shows picture) (done blueprint >>= _) _
  rw [done_bind]
  refine meets_bind World.currentSteps_succeeds fun steps => meets_given fun same => ?_
  subst same
  rw [if_neg (by simp [rests.goesOn])]
  refine meets_bind World.properties_succeeds fun properties => meets_given fun _ => ?_
  rw [scope_plain isLocal, done_bind]
  refine meets_bind (meets_turn fun world shows => ?_) fun found => meets_pure fun _ ends => ends
  unfold Toolkit.findAutomatic
  rw [rests.manual]
  exact meets_done fun turn same => ⟨rfl, by rw [same]; exact shows⟩

/-- An action that one of the steps offers and no other is the only candidate. -/
theorem candidatesFor_only {chosen : ScopedAction} {step : Step} {earlier later : List Step}
    (isLocal : blueprint.Local)
    (offers : blueprint.actionForStep? step.defId chosen.id = some chosen)
    (alone : ∀ other ∈ earlier ++ later, blueprint.actionForStep? other.defId chosen.id = none) :
    Toolkit.candidatesFor blueprint (earlier ++ step :: later) chosen.id = [(chosen, step.defId)] := by
  have nothing {others : List Step} (within : ∀ other ∈ others, other ∈ earlier ++ later) :
      (others.filterMap fun other =>
        (blueprint.actionForStep? other.defId chosen.id).map (·, other.defId)) = [] :=
    List.filterMap_eq_nil_iff.mpr fun other member => by rw [alone other (within other member)]; rfl
  unfold Toolkit.candidatesFor Blueprint.scopedGlobalActions
  rw [isLocal.noGlobalActions, List.filterMap_append, List.filterMap_cons, offers,
    nothing fun other member => List.mem_append_left _ member,
    nothing fun other member => List.mem_append_right _ member]
  rfl

/-- A call on an action without hooks that one of the steps offers and no other does what the
outcome of the action does. -/
theorem act_succeeds {chosen : ScopedAction} {outcome : Outcome} {step : Step}
    {earlier later : List Step} {reached : World → Prop}
    (active : picture.entry.state = .activated)
    (known : engine.catalog.get picture.entry.workflow = .ok blueprint)
    (isLocal : blueprint.Local) (plain : chosen.action.Plain outcome)
    (notInitial : chosen.scope ≠ .initial) (current : picture.current = earlier ++ step :: later)
    (offers : blueprint.actionForStep? step.defId chosen.id = some chosen)
    (alone : ∀ other ∈ earlier ++ later, blueprint.actionForStep? other.defId chosen.id = none)
    (quiet : engine.kit.leaveStep blueprint (some step) = done ())
    (takes : Succeeds
      (Turn.Shows
        { engine.plainScope picture.entry blueprint picture.current inputs with
          actionId := some chosen.id } picture)
      (engine.kit.takeOutcome chosen.action outcome (some step)) (fun _ turn => reached turn.world))
    (settles : Succeeds reached
      (engine.settle picture.entry.id chosen.id inputs .continued)
      (fun next world => next = none ∧ reached world)) :
    Succeeds (World.Shows picture) (engine.act picture.entry.id inputs chosen.id)
      (fun next world => next = none ∧ reached world) := by
  have only := candidatesFor_only isLocal offers alone
  rw [← current] at only
  rw [act_eq]
  refine meets_bind (select_succeeds active known isLocal plain only)
    fun selected => meets_from fun _ facts => ?_
  obtain ⟨same, shows, available⟩ := facts
  obtain ⟨picked, turn⟩ := selected
  obtain rfl : picked = chosen := same
  have now : turn.scope = engine.plainScope picture.entry blueprint picture.current inputs :=
    shows.scope
  have listed : (turn.begun picked).scope.currentSteps = earlier ++ step :: later := by
    show turn.scope.currentSteps = _
    rw [now]
    exact current
  have searched : engine.kit.firstOffering (turn.begun picked).scope.blueprint picked.id
      (earlier ++ step :: later) (turn.begun picked) = (.ok (some step), turn.begun picked) := by
    show engine.kit.firstOffering turn.scope.blueprint _ _ _ = _
    rw [now]
    refine Toolkit.firstOffering_known (fun other member candidate offered => ?_) offers available
    exact absurd (offered.symm.trans (alone other (List.mem_append_left _ member))) nofun
  have executes : Succeeds (· = turn) (engine.kit.execute picked)
      (fun progress after => progress = .continued ∧ reached after.world) :=
    Toolkit.execute_succeeds plain shows (Toolkit.leavingStep_of_search listed searched) quiet
      (meets_bind takes fun _ => Toolkit.activate_later notInitial _)
  refine meets_bind_via (fun progress world => progress = Progress.continued ∧ reached world)
    (meets_resume executes) fun progress => meets_given fun same => ?_
  subst same
  exact settles

/-- Where nothing follows on its own, a call comes to what its action does. -/
theorem doAction_succeeds {reached : World → Prop} {world : World}
    (shows : world.Shows picture)
    (acts : Succeeds (World.Shows picture) (engine.act picture.entry.id inputs number)
      (fun next world => next = none ∧ reached world)) :
    (engine.doAction picture.entry.id number inputs world).result = .ok () ∧
      reached (engine.doAction picture.entry.id number inputs world).world := by
  have calls : Succeeds (World.Shows picture)
      (andThen (engine.act picture.entry.id inputs number)
        (engine.chain picture.entry.id inputs engine.kit.settings.maxAutoChainDepth))
      (fun _ => reached) := by
    refine meets_andThen acts fun next => meets_given fun same => ?_
    subst same
    rw [chain_none]
    exact meets_done fun _ ends => ends
  obtain ⟨_, answered, ends⟩ := Reply.of_succeeds calls Failure.requiresRollback shows
  exact ⟨answered, ends⟩

/-! ### Starting an entry -/

/-- An initial action without hooks does what its outcome does, and activates the entry. -/
theorem runInitial_succeeds {entrance : Action} {outcome : Outcome} {reached : World → Prop}
    (isLocal : blueprint.Local) (plain : entrance.Plain outcome)
    (takes : Succeeds
      (Turn.Shows
        { engine.plainScope picture.entry blueprint [] inputs with actionId := some entrance.id }
        picture)
      (do
        engine.kit.takeOutcome entrance outcome none
        engine.kit.activate picture.entry.id .initial)
      (fun _ turn => reached turn.world))
    (settles : Succeeds reached (engine.settle picture.entry.id entrance.id inputs .continued)
      (fun next world => next = none ∧ reached world)) :
    Succeeds (World.Shows picture) (engine.runInitial picture.entry blueprint entrance inputs)
      (fun next world => next = none ∧ reached world) := by
  have executes (world : World) (shows : world.Shows picture) :
      let scope := engine.plainScope picture.entry blueprint [] inputs
      Succeeds (· = { world, scope, home := picture.entry.id })
        (engine.kit.execute ⟨.initial, entrance⟩)
        (fun progress turn => progress = .continued ∧ reached turn.world) :=
    Toolkit.execute_succeeds plain ⟨rfl, shows⟩ rfl rfl takes
  unfold runInitial
  refine meets_bind World.properties_succeeds fun properties => meets_given fun _ => ?_
  rw [scope_plain isLocal, done_bind]
  refine meets_bind (answers_succeed (Toolkit.treePasses_blank plain.unrestricted))
    fun allowed => meets_given fun same => ?_
  subst same
  refine meets_bind_via (fun progress world => progress = Progress.continued ∧ reached world)
    (meets_turn executes) fun progress => meets_given fun same => ?_
  subst same
  exact settles

/-- An entry is started by what the outcome of its initial action does. -/
theorem startEntry_succeeds {entrance : Action} {outcome : Outcome} {world : World}
    (reached : World → Prop) (known : engine.catalog.get blueprint.name = .ok blueprint)
    (isLocal : blueprint.Local) (initial : blueprint.initialAction? entrance.id = some entrance)
    (plain : entrance.Plain outcome) (numbered : world.store.Numbered)
    (sound : ∀ method call, world.outages.verdict method call = none)
    (takes :
      let first := Picture.first world blueprint.name
      Succeeds
        (Turn.Shows
          { engine.plainScope first.entry blueprint [] inputs with actionId := some entrance.id }
          first)
        (do
          engine.kit.takeOutcome entrance outcome none
          engine.kit.activate first.entry.id .initial)
        (fun _ turn => reached turn.world))
    (settles : Succeeds reached
      (engine.settle (Picture.first world blueprint.name).entry.id entrance.id inputs .continued)
      (fun next world => next = none ∧ reached world)) :
    (engine.startEntry blueprint.name entrance.id inputs world).result =
        .ok (Picture.first world blueprint.name).entry.id ∧
      reached (engine.startEntry blueprint.name entrance.id inputs world).world := by
  let first := Picture.first world blueprint.name
  have starts : Succeeds (· = world)
      (do
        let entry ← World.createEntry blueprint.name
        let following ← engine.runInitial entry blueprint entrance inputs
        engine.chain entry.id inputs engine.kit.settings.maxAutoChainDepth following
        return entry.id)
      (fun id after => id = first.entry.id ∧ reached after) := by
    refine meets_bind (World.createEntry_succeeds (Catalog.promises known).1 numbered sound)
      fun entry => meets_given fun same => ?_
    subst same
    refine meets_bind (runInitial_succeeds isLocal plain takes settles)
      fun next => meets_given fun same => ?_
    subst same
    rw [chain_none, done_bind]
    exact meets_pure fun _ ends => ⟨rfl, ends⟩
  have chosen : engine.initialAction blueprint.name entrance.id = .ok (blueprint, entrance) := by
    simp only [initialAction, known, bind, Except.bind, initial]
    rfl
  obtain ⟨_, answered, rfl, ends⟩ := Reply.of_succeeds starts (fun _ => true) rfl
  unfold startEntry
  rw [chosen]
  exact ⟨answered, ends⟩

end Engine

end Caseflow
