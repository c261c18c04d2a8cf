import Caseflow.Proofs.Rollback
import Caseflow.Proofs.Rounds
import Caseflow.Proofs.Shapes
/-! Joins that lead nowhere. The outcome of an accepted join may lead wherever that of an action
may, to a split or to another join as well, but what follows on a join creates a step. Where such a
join lets an entry pass, the call fails, and by then the branches of the join are closed. -/
namespace Caseflow

open Run

/-- What follows on a join that leads to no step fails at once. -/
theorem Toolkit.followJoin_deadEnd (kit : Toolkit) {action : Action} {joined : Outcome}
    (goesOn : action.finish = false) (nowhere : ∀ step, joined.target ≠ .step step)
    (leaving : Option Step) (branches : List StepId) (turn : Turn) :
    kit.followJoin action leaving (some (joined, branches)) turn =
      (.error (.configuration (.targetCreatesNoStep joined.target)), turn) := by
  unfold followJoin
  dsimp only
  rw [goesOn, enterStep_deadEnd kit nowhere]
  rfl

namespace Execution

variable {execution : Execution} {target : Target} {joinId : NodeId} {joined : Outcome}
  {branches : List StepId} {last : Turn}

/-- The execution arrives at a join of the blueprint, which lets the entry pass: these branches are
brought together, and the outcome of the join is next. -/
structure Opens (execution : Execution) (joinId : NodeId) (joined : Outcome)
    (branches : List StepId) (last : Turn) : Prop where
  declared : ∃ join, execution.turn.scope.blueprint.join? joinId = some join ∧
    join.outcome = some joined
  passed : ∃ leaving outcome now,
    execution.kit.ready execution.chosen execution.turn.scope
        (execution.turn.begun execution.chosen) = (.ok (leaving, outcome), now) ∧
      outcome.target = .join joinId ∧
      execution.kit.openJoin joinId execution.chosen.action outcome leaving now =
        (.ok (some (joined, branches)), last)

/-- The execution opens a join that leads to the target, without finishing the entry, and the
target is no step. It ends there, with all branches of the join closed. -/
inductive Stuck (execution : Execution) (target : Target) (after : World) : Prop where
  | here (joinId : NodeId) (joined : Outcome) (branches : List StepId) (last : Turn)
      (opens : execution.Opens joinId joined branches last)
      (goesOn : execution.chosen.action.finish = false) (leads : joined.target = target)
      (nowhere : ∀ step, target ≠ .step step) (ends : last.world = after)
      (closed : ∀ branch ∈ branches, branch ∈ after.store.historyIds execution.entryId) :
      Stuck execution target after

/-- Where a join leads to a target that is no step, the execution fails as soon as the join
is open. -/
theorem Opens.stops (opens : execution.Opens joinId joined branches last)
    (goesOn : execution.chosen.action.finish = false) (nowhere : ∀ step, joined.target ≠ .step step) :
    execution.kit.execute execution.chosen execution.turn =
      (.error (.configuration (.targetCreatesNoStep joined.target)), last) := by
  obtain ⟨leaving, outcome, now, readied, leads, opened⟩ := opens.passed
  have taken : execution.kit.takeOutcome execution.chosen.action outcome leaving now =
      (.error (.configuration (.targetCreatesNoStep joined.target)), last) := by
    unfold Toolkit.takeOutcome
    rw [leads]
    dsimp only
    rw [Toolkit.takeJoin_eq, bind_eq, andThen_ok opened]
    exact execution.kit.followJoin_deadEnd goesOn nowhere leaving branches last
  rw [Toolkit.execute_ready, bind_eq, andThen_ok readied, bind_eq, andThen_error taken]

/-- The branches of an open join are closed. -/
theorem Opens.closed (opens : execution.Opens joinId joined branches last)
    (standard : execution.kit.extensions = Builtin.extensions) (fresh : execution.turn.Fresh) :
    ∀ branch ∈ branches, branch ∈ last.world.store.historyIds execution.entryId := by
  obtain ⟨leaving, outcome, now, readied, leads, opened⟩ := opens.passed
  obtain ⟨isShown, hooked⟩ :=
    (Toolkit.ready_hooked standard execution.chosen execution.turn).answer rfl readied
  obtain ⟨ledger, ⟨-, gathers⟩, tracks⟩ :=
    (Toolkit.openJoin_gathers standard fresh.lineal joinId execution.chosen.action outcome leaving
      fresh.handles execution.turn.mem_opening isShown).answer (fresh.displays hooked) opened
  exact fun branch member => tracks.tracks.closed branch ((gathers _ rfl).closed branch member)

end Execution

/-! ### Where an execution fails for a target that is no step -/

/-- The turn is about the entry, with the blueprint. -/
structure Turn.About (id : EntryId) (blueprint : Blueprint) (turn : Turn) : Prop where
  own : turn.scope.entry.id = id
  shows : turn.scope.blueprint = blueprint

namespace Turn

variable {id : EntryId} {blueprint : Blueprint}

theorem about_upheld : Upheld id blueprint (About id blueprint) where
  own _ about := about.own
  shows _ about := about.shows
  amended _ _ about sameEntry sameBlueprint :=
    ⟨sameEntry.trans about.own, sameBlueprint.trans about.shows⟩
  asked _ _ _ _ about _ _ := ⟨about.own, about.shows⟩

theorem about_stable : Stable (About id blueprint) := by
  intro before after hooked about
  obtain ⟨bindings, scope⟩ := hooked.scope
  constructor
  · rw [scope]
    exact about.own
  · rw [scope]
    exact about.shows

end Turn

/-- The failure is not for a target that no step can be created for. -/
def Failure.Enters (failure : Failure) : Prop :=
  ∀ target, failure ≠ .configuration (.targetCreatesNoStep target)

theorem Failure.enters_of_shapeless {failure : Failure} (shapeless : failure.ofShape = false) :
    failure.Enters := by
  rintro target rfl
  cases shapeless

namespace Toolkit

section Failing

variable {kit : Toolkit} {id : EntryId} {blueprint : Blueprint} {leaving : Option Step}
  {target : Target} {last : Turn} (standard : kit.extensions = Builtin.extensions)

include standard

theorem enters_hosted {kept : Turn → Prop} (stable : Turn.Stable kept) :
    kit.Hosts Failure.Enters kept :=
  (hosts_shapeless standard stable).mono fun failure => failure.enters_of_shapeless

/-- What follows on the outcome does not fail for a target. -/
theorem conclude_enters (chosen : ScopedAction) (scope : Scope) (outcome : Outcome) :
    Keeps (Turn.About id blueprint) Failure.Enters (kit.conclude chosen scope outcome) :=
  conclude_keeps (enters_hosted standard Turn.about_stable).functions
    (moveHere_upholds Turn.about_upheld fun failure => failure.enters_of_shapeless)
    chosen scope outcome

variable (closed : blueprint.Closed)

include closed

/-- Neither does anything before the outcome. -/
theorem ready_enters {chosen : ScopedAction} (declared : chosen.action ∈ blueprint.allActions)
    {turn : Turn} (shows : turn.scope.blueprint = blueprint) :
    Meets (· = turn.begun chosen) (kit.ready chosen turn.scope)
      (fun readied now => blueprint.targetDefect? readied.2.target = none ∧
        now.About turn.scope.entry.id blueprint)
      (fun failure _ => failure.Enters) := by
  have begun : (turn.begun chosen).About turn.scope.entry.id blueprint := ⟨rfl, shows⟩
  have stable : Turn.Stable (Turn.About turn.scope.entry.id blueprint) := Turn.about_stable
  have readies := ready_answers
    (fun steps => enters_hosted standard (Turn.showing_stable stable steps))
    (enters_hosted standard stable) closed declared shows
    fun step (_ : step ∈ turn.scope.currentSteps) _ _ => nofun
  exact meets_mono readies (fun _ same => same ▸ ⟨begun, rfl⟩)
    (fun _ _ ends => ⟨ends.1.2, ends.2⟩) fun _ _ ends => ends.2

/-- A turn stays about its entry while an outcome is taken. -/
theorem takeOutcome_about (action : Action) {outcome : Outcome}
    (sound : blueprint.targetDefect? outcome.target = none) :
    Keeps (Turn.About id blueprint) (fun _ => True) (kit.takeOutcome action outcome leaving) :=
  takeOutcome_upholds Turn.about_upheld
    ((enters_hosted standard Turn.about_stable).mono fun _ _ => trivial)
    (fun _ _ => trivial) (fun _ _ _ => trivial) closed action sound fun _ => trivial

/-- An outcome fails for a target that is no step only where it arrives at a join that lets the
entry pass and leads there. -/
theorem takeOutcome_stops {action : Action} {outcome : Outcome} {now : Turn}
    (about : now.About id blueprint) (sound : blueprint.targetDefect? outcome.target = none)
    (stopped : kit.takeOutcome action outcome leaving now =
      (.error (.configuration (.targetCreatesNoStep target)), last)) :
    ∃ joinId joined branches, outcome.target = .join joinId ∧
      kit.openJoin joinId action outcome leaving now = (.ok (some (joined, branches)), last) ∧
        (∃ join, blueprint.join? joinId = some join ∧ join.outcome = some joined) ∧
          action.finish = false ∧ joined.target = target ∧ ∀ step, target ≠ .step step := by
  have upheld : Turn.Upheld id blueprint (Turn.About id blueprint) := Turn.about_upheld
  have shapeless (failure : Failure) (other : failure.ofShape = false) : failure.Enters :=
    failure.enters_of_shapeless other
  have hosts : kit.Hosts Failure.Enters (Turn.About id blueprint) :=
    enters_hosted standard Turn.about_stable
  have known : ∀ step ∈ leaving, blueprint.step? step.defId = none →
      Failure.Enters (.stepNotFound step.defId) := fun _ _ _ _ => nofun
  unfold takeOutcome at stopped
  cases leads : outcome.target with
  | step stepId =>
    rw [leads] at sound stopped
    have takes := takePlain_upholds upheld hosts shapeless known action leads sound
    exact absurd rfl ((takes.failure about stopped).2 target)
  | split splitId =>
    rw [leads] at sound stopped
    have takes := takeSplit_upholds upheld hosts shapeless known closed sound action
    exact absurd rfl ((takes.failure about stopped).2 target)
  | join joinId =>
    rw [leads] at sound stopped
    dsimp only at stopped
    rw [takeJoin_eq, bind_eq] at stopped
    have opens : Meets (Turn.About id blueprint) (kit.openJoin joinId action outcome leaving) _ _ :=
      openJoin_upholds upheld hosts shapeless closed sound action outcome
    cases opened : kit.openJoin joinId action outcome leaving now with
    | mk result arrived =>
      cases result with
      | error failure =>
        rw [andThen_error opened] at stopped
        cases stopped
        exact absurd rfl ((opens.failure about opened).2 target)
      | ok reached =>
        rw [andThen_ok opened] at stopped
        obtain ⟨leadsOn, still⟩ := opens.answer about opened
        by_cases nowhere : ∃ passed ∈ reached, action.finish = false ∧
            ∀ step, passed.1.target ≠ .step step
        · obtain ⟨⟨joined, branches⟩, rfl, goesOn, noStep⟩ := nowhere
          rw [followJoin_deadEnd kit goesOn noStep] at stopped
          cases stopped
          exact ⟨joinId, joined, branches, rfl, opened, (leadsOn _ rfl).1, goesOn, rfl, noStep⟩
        · have follows := followJoin_upholds upheld hosts shapeless known action
            (fun _ isPassed => (leadsOn _ isPassed).2)
            fun passed isPassed noStep goesOn => absurd ⟨passed, isPassed, goesOn, noStep⟩ nowhere
          exact absurd rfl ((follows.failure still stopped).2 target)

end Failing

end Toolkit

/-- An execution fails for a target that is no step just where it opens a join that leads there. -/
theorem Execution.stops_iff {execution : Execution} {target : Target} {last : Turn}
    (standard : execution.kit.extensions = Builtin.extensions)
    (accepted : execution.turn.scope.blueprint.validate = .ok ())
    (declared : execution.chosen.action ∈ execution.turn.scope.blueprint.allActions) :
    execution.kit.execute execution.chosen execution.turn =
        (.error (.configuration (.targetCreatesNoStep target)), last) ↔
      ∃ joinId joined branches, execution.Opens joinId joined branches last ∧
        execution.chosen.action.finish = false ∧ joined.target = target ∧
          ∀ step, target ≠ .step step := by
  have closed := Blueprint.closed_of_validate accepted
  have readies := Toolkit.ready_enters standard closed declared rfl
  constructor
  · intro stopped
    rw [Toolkit.execute_ready, bind_eq] at stopped
    cases readied : execution.kit.ready execution.chosen execution.turn.scope
        (execution.turn.begun execution.chosen) with
    | mk result now =>
      cases result with
      | error failure =>
        rw [andThen_error readied] at stopped
        cases stopped
        exact absurd rfl (readies.failure rfl readied target)
      | ok reached =>
        obtain ⟨leaving, outcome⟩ := reached
        obtain ⟨sound, about⟩ := readies.answer rfl readied
        rw [andThen_ok readied, bind_eq] at stopped
        cases taken : execution.kit.takeOutcome execution.chosen.action outcome leaving now with
        | mk result after =>
          cases result with
          | ok _ =>
            -- what follows on an outcome that was taken does not fail so
            rw [andThen_ok taken] at stopped
            have still := (Toolkit.takeOutcome_about standard closed _ sound).answer about taken
            have concluded := (Toolkit.conclude_enters standard _ _ outcome).failure still stopped
            exact absurd rfl (concluded.2 target)
          | error failure =>
            rw [andThen_error taken] at stopped
            cases stopped
            obtain ⟨joinId, joined, branches, leads, opened, declared, nowhere⟩ :=
              Toolkit.takeOutcome_stops standard closed about sound taken
            exact ⟨joinId, joined, branches,
              ⟨declared, leaving, outcome, now, readied, leads, opened⟩, nowhere⟩
  · rintro ⟨joinId, joined, branches, opens, goesOn, rfl, nowhere⟩
    exact opens.stops goesOn nowhere

/-! ### Calls -/

namespace Engine

variable {engine : Engine} {entryId : EntryId} {inputs : Values} {number : ActionId} {world : World}

/-- The action is declared in the blueprint that the turn shows, which was accepted. -/
structure Declares (selected : ScopedAction × Turn) : Prop where
  accepted : selected.2.scope.blueprint.validate = .ok ()
  declared : selected.1.action ∈ selected.2.scope.blueprint.allActions

theorem declares_of_execution {limit : Nat} {selected : ScopedAction × Turn}
    (member : selected ∈ engine.executions entryId inputs limit number world) :
    Declares selected := by
  have authorized := authorized_of_execution limit member
  refine ⟨(Catalog.get_sound authorized.sees.known).2, ?_⟩
  cases authorized.grounds with
  | global declared => exact Blueprint.mem_allActions_of_global declared
  | offered step _ offers =>
    exact Blueprint.mem_allActions_of_offer (List.mem_of_find?_eq_some offers)

theorem declares_of_initiated {workflow : String} {entry : Entry} {blueprint : Blueprint}
    {action : Action} {selected : ScopedAction × Turn}
    (found : engine.initialAction workflow number = .ok (blueprint, action))
    (member : selected ∈ (engine.initiate entry blueprint action inputs world).1.toOption.toList) :
    Declares selected := by
  have shows := initiated_of_mem member
  obtain ⟨bindings, shown⟩ := shows.shown
  constructor
  · rw [shown]
    exact (Catalog.get_sound (known_of_initial found)).2
  · rw [shown, shows.chosen]
    exact declared_of_initial found

/-- What a call executes is declared in an accepted blueprint. -/
theorem declares_of_executed {operation : Operation} {selected : ScopedAction × Turn}
    (member : selected ∈ engine.executed world operation) : Declares selected := by
  cases operation with
  | start workflow number inputs =>
    have among : selected ∈ engine.startExecutions workflow number inputs world := member
    unfold startExecutions at among
    split at among
    · cases among
    · rename_i blueprint action found
      split at among
      · cases among
      · rcases List.mem_append.mp among with initial | chained
        · exact declares_of_initiated found initial
        · obtain ⟨limit, number, world, executed⟩ := execution_of_chained chained
          exact declares_of_execution executed
  | act entryId number inputs => exact declares_of_execution member
  | changeState | setProperty => cases member

variable (standard : engine.Standard) (reachable : world.Reachable)

include standard reachable

/-- What a call executes fails for a target that is no step just where it is stuck. -/
theorem executed_stuck_iff {operation : Operation} {selected : ScopedAction × Turn}
    (member : selected ∈ engine.executed world operation) {target : Target} {after : World} :
    (∃ last, engine.kit.execute selected.1 selected.2 =
        (.error (.configuration (.targetCreatesNoStep target)), last) ∧ last.world = after) ↔
      (engine.execution selected).Stuck target after := by
  have sound : (engine.execution selected).kit.extensions = Builtin.extensions := standard
  have declares := declares_of_executed member
  obtain ⟨-, fresh, -⟩ := (executed_pass standard reachable.lineal operation).sound
    (engine.execution selected) (List.mem_map_of_mem member)
  constructor
  · rintro ⟨last, stopped, ends⟩
    obtain ⟨joinId, joined, branches, opens, goesOn, leads, nowhere⟩ :=
      (Execution.stops_iff sound declares.accepted declares.declared).mp stopped
    exact .here joinId joined branches last opens goesOn leads nowhere ends
      (ends ▸ opens.closed sound fresh)
  · rintro ⟨joinId, joined, branches, last, opens, goesOn, leads, nowhere, ends, -⟩
    exact ⟨last, (Execution.stops_iff sound declares.accepted declares.declared).mpr
      ⟨joinId, joined, branches, opens, goesOn, leads, nowhere⟩, ends⟩

/-- The start of an entry, or a call on one, fails for a target that is no step just where one of
its executions opens a join that leads there, and then the branches of the join are closed. -/
theorem calls_stuck_iff (number : ActionId) (inputs : Values) (target : Target) :
    (∀ workflow,
      (engine.startEntry workflow number inputs world).result =
          .error (.configuration (.targetCreatesNoStep target)) ↔
        ∃ selected ∈ engine.startExecutions workflow number inputs world,
          (engine.execution selected).Stuck target
            (engine.startEntry workflow number inputs world).world) ∧
    ∀ entryId,
      (engine.doAction entryId number inputs world).result =
          .error (.configuration (.targetCreatesNoStep target)) ↔
        ∃ selected ∈
            engine.executions entryId inputs engine.kit.settings.maxAutoChainDepth number world,
          (engine.execution selected).Stuck target
            (engine.doAction entryId number inputs world).world := by
  constructor
  · intro workflow
    rw [startEntry_fails_iff standard rfl]
    refine exists_congr fun selected => and_congr_right fun member => ?_
    have executes : selected ∈ engine.executed world (.start workflow number inputs) := member
    exact executed_stuck_iff standard reachable executes
  · intro entryId
    rw [doAction_fails_iff standard rfl]
    refine exists_congr fun selected => and_congr_right fun member => ?_
    have executes : selected ∈ engine.executed world (.act entryId number inputs) := member
    exact executed_stuck_iff standard reachable executes

end Engine

/-! ### A join that leads to a split -/

/-- A workflow whose only action leads to a join, which leads to a split. -/
def astray : Blueprint where
  name := "astray"
  initialActions :=
    [{ id := 1, name := "enter",
       unconditionalOutcome := some { target := .step 1, status := "Open" } }]
  steps :=
    [{ id := 1, name := "before",
       actions := [{ id := 10, name := "gather",
                     unconditionalOutcome := some { target := .join 1, oldStatus := "Done" } }] },
     { id := 2, name := "after" }]
  splits := [{ id := 1, outcomes := [{ target := .step 2, status := "Open" }] }]
  joins := [{ id := 1, outcome := some { target := .split 1, status := "Open" } }]

def astrayEngine : Engine where
  catalog := ((default : Catalog).register astray).toOption.getD default

/-- The workflow is accepted, and the call on its action fails with the step closed and none
created. -/
theorem astray_stuck :
    let world := astrayEngine.perform {} (.start "astray" 1 ∅)
    let reply := astrayEngine.doAction 1 10 ∅ world
    astray.validate = .ok () ∧ world.Reachable ∧ world.store.currentIds 1 = [1] ∧
      reply.result = .error (.configuration (.targetCreatesNoStep (.split 1))) ∧
      reply.world.store.currentIds 1 = [] ∧ reply.world.store.historyIds 1 = [1] ∧
      ∃ selected ∈ astrayEngine.executions 1 ∅ astrayEngine.kit.settings.maxAutoChainDepth 10 world,
        (astrayEngine.execution selected).Stuck (.split 1) reply.world := by
  intro world reply
  have standard : astrayEngine.Standard := rfl
  have reachable : world.Reachable := ⟨{}, ⟨0, 0⟩, .call .here standard _⟩
  have failed : reply.result = .error (.configuration (.targetCreatesNoStep (.split 1))) :=
    failed_of_eval (by decide +kernel)
  obtain ⟨-, acts⟩ := Engine.calls_stuck_iff standard reachable 10 ∅ (.split 1)
  exact ⟨rfl, reachable, by decide +kernel, failed, by decide +kernel, by decide +kernel,
    (acts 1).mp failed⟩

end Caseflow
