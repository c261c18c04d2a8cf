import Caseflow.Proofs.HookCalls
/-! The order of hooks. The functions of an execution are called by the parts that an action is
made of: those of the step being left and of the action, which precede the selection of the
outcome, and see to what it is selected by; those of the outcome and of what it leads to; and again
those of the outcome and of the action. Wherever a failure stops the sequence, the first of them
have been called. -/
namespace Caseflow

open Run

namespace Blueprint

/-- The functions of the definition of a step that is left. -/
def onLeave (blueprint : Blueprint) (leaving : Option Step) : List Call :=
  match leaving.bind fun step => blueprint.step? step.defId with
  | some definition => definition.postFunctions
  | none => []

/-- The functions of the step definition that an outcome leads to. -/
def onEntry (blueprint : Blueprint) (leaving : Option Step) (outcome : Outcome) : List Call :=
  match (outcome.leadsTo? leaving).bind blueprint.step? with
  | some definition => definition.preFunctions
  | none => []

end Blueprint

namespace Action

/-- The functions of the step definition that an outcome of the action enters. An action that
finishes the entry enters none. -/
def onEntry (action : Action) (blueprint : Blueprint) (leaving : Option Step) (outcome : Outcome) :
    List Call :=
  if action.finish then [] else blueprint.onEntry leaving outcome

/-- For a split the functions of all its outcomes, around those of the steps that are entered. -/
def onSplit (action : Action) (blueprint : Blueprint) (leaving : Option Step) :
    Option Split → List Call
  | some split =>
    split.outcomes.flatMap (·.preFunctions) ++
      split.outcomes.flatMap (action.onEntry blueprint leaving) ++
        split.outcomes.flatMap (·.postFunctions)
  | none => []

/-- For a join that lets the entry pass the functions of its outcome, around those of the step that
is entered. A join that waits has none. -/
def onJoin (action : Action) (blueprint : Blueprint) (leaving : Option Step) :
    Option Gathering → List Call
  | some gathering =>
    gathering.outcome.preFunctions ++ action.onEntry blueprint leaving gathering.outcome ++
      gathering.outcome.postFunctions
  | none => []

theorem flatMap_onEntry (action : Action) (blueprint : Blueprint) (leaving : Option Step)
    (outcomes : List Outcome) :
    outcomes.flatMap (action.onEntry blueprint leaving) =
      if action.finish then [] else outcomes.flatMap (blueprint.onEntry leaving) := by
  unfold onEntry
  cases action.finish <;> simp

end Action

namespace Toolkit

/-- The conditions pass in the turn. -/
def passesIn (kit : Toolkit) (turn : Turn) (stepId : StepDefId) (conditions : Conditions) : Bool :=
  match (kit.treePasses turn.scope turn.properties stepId (some conditions) turn.world).1 with
  | .ok passed => passed
  | .error _ => false

/-- The outcome that the action has in the turn, at the step being left if there is one: the first
conditional one whose conditions pass, or else the unconditional one. -/
def outcomeIn? (kit : Toolkit) (action : Action) (leaving : Option Step) (turn : Turn) :
    Option Outcome :=
  let stepId := (leaving.map (·.defId)).getD (-1)
  let passing := action.conditionalOutcomes.find? fun conditional =>
    kit.passesIn turn stepId conditional.conditions
  (passing.map (·.outcome)).or action.unconditionalOutcome

/-- The functions that are called while an outcome is taken, from the turn in which that begins. -/
def onTaking (kit : Toolkit) (action : Action) (leaving : Option Step) (outcome : Outcome)
    (turn : Turn) : List Call :=
  let blueprint := turn.scope.blueprint
  match outcome.target with
  | .step _ => action.onEntry blueprint leaving outcome
  | .split id => action.onSplit blueprint leaving (blueprint.split? id)
  | .join id =>
    action.onJoin blueprint leaving (kit.gather id action outcome leaving turn).1.toOption.join

end Toolkit

namespace Execution

/-- The step being left. -/
def leaving? (execution : Execution) : Option Step :=
  let begun := execution.turn.begun execution.chosen
  (execution.kit.leavingStep execution.chosen.id begun).1.toOption.join

/-- The outcome that the action has in the turn that its functions leave. -/
def selected? (execution : Execution) : Option Outcome :=
  let turn := execution.turn
  match execution.kit.prepare execution.chosen turn.scope (turn.begun execution.chosen) with
  | (.ok leaving, now) => execution.kit.outcomeIn? execution.chosen.action leaving now
  | (.error _, _) => none

/-- The functions that are called while the outcome is taken, once the action is ready. -/
def onTaking (execution : Execution) (outcome : Outcome) : List Call :=
  let turn := execution.turn
  match execution.kit.ready execution.chosen turn.scope (turn.begun execution.chosen) with
  | (.ok _, now) =>
    execution.kit.onTaking execution.chosen.action execution.leaving? outcome now
  | (.error _, _) => []

/-- The functions of the execution in order, as far as it comes. -/
def hooks (execution : Execution) : List Call :=
  let action := execution.chosen.action
  execution.turn.scope.blueprint.onLeave execution.leaving? ++ action.preFunctions ++
    match execution.selected? with
    | some outcome =>
      outcome.preFunctions ++ execution.onTaking outcome ++ outcome.postFunctions ++
        action.postFunctions
    | none => []

end Execution

/-! ### The selection of the outcome -/

namespace Toolkit

variable {kit : Toolkit} {start turn after : Turn} {action : Action} {outcome : Outcome}
  {leaving : Option Step} {stepId : StepDefId}

/-- Guards do not tell whether others have been asked before. -/
theorem firstPassing_finds {conditionals : List ConditionalOutcome} {found : Option Outcome}
    (surveyed : start.Surveyed turn)
    (ran : kit.firstPassing stepId conditionals turn = (.ok found, after)) :
    found = (conditionals.find? fun conditional =>
      kit.passesIn start stepId conditional.conditions).map (·.outcome) := by
  induction conditionals generalizing turn with
  | nil =>
    cases ran
    rfl
  | cons conditional rest ih =>
    obtain ⟨passed, middle, asked, follows⟩ := of_andThen_ok ran
    have decided : kit.passesIn start stepId conditional.conditions = passed := by
      have decision := decision_of_passesNow asked start.world
      rw [surveyed.scope, surveyed.properties] at decision
      rw [passesIn, decision]
    cases passed with
    | true =>
      cases follows
      rw [List.find?_cons, decided]
      rfl
    | false =>
      rw [List.find?_cons, decided]
      exact ih ((passesNow_surveys kit.extensions.refuses_any _ _).answer surveyed asked) follows

theorem elect_selects (ran : kit.elect action leaving turn = (.ok outcome, after)) :
    kit.outcomeIn? action leaving turn = some outcome := by
  obtain ⟨found, middle, searched, settles⟩ := of_andThen_ok ran
  have first := firstPassing_finds (.refl turn) searched
  dsimp only [outcomeIn?]
  rw [← first]
  cases found with
  | some other =>
    cases settles
    rfl
  | none => exact (of_ofOption_ok settles).1

end Toolkit

/-! ### The functions of each part -/

namespace Toolkit

variable {kit : Toolkit}

/-- What an action enters unless it finishes the entry, and what follows. -/
theorem entering_calls {action : Action} {enter next : Run Turn Unit} {calls more : List Call}
    {turn : Turn} (enters : kit.Calls calls enter turn) (rest : ∀ turn, kit.Calls more next turn) :
    kit.Calls ((if action.finish then [] else calls) ++ more)
      (if !action.finish then enter >>= fun _ => next else next) turn := by
  cases action.finish with
  | true => exact rest turn
  | false => exact enters.bind fun _ middle _ => rest middle

section Parts

variable (confined : kit.extensions.Confined)

include confined

theorem leaveStep_calls (blueprint : Blueprint) (leaving : Option Step) (turn : Turn) :
    kit.Calls (blueprint.onLeave leaving) (kit.leaveStep blueprint leaving) turn := by
  cases leaving with
  | none => exact .of_calm (keeps_done ())
  | some step =>
    refine Calls.ofOption_bind fun definition found => ?_
    rw [Blueprint.onLeave, Option.bind_some, found]
    exact runFunctions_calls confined _ turn

theorem enterStep_calls (outcome : Outcome) (actionId : ActionId) (leaving : Option Step)
    (closeLeaving : Bool) (previous : List StepId) (turn : Turn) :
    kit.Calls (turn.scope.blueprint.onEntry leaving outcome)
      (kit.enterStep outcome actionId leaving closeLeaving previous) turn := by
  unfold enterStep
  refine .calm_bind (enteredStep_keeps (fun _ => trivial) _ _ _) fun defId middle entered => ?_
  obtain ⟨leads, rfl⟩ := leadsTo_of_entered entered
  refine .read_bind (.ofOption_bind fun definition found => ?_)
  rw [Blueprint.onEntry, leads, Option.bind_some, found]
  have landing (now : Turn) : kit.Calls definition.preFunctions (do
      let created ← Turn.onWorld (World.createStep (kit.plannedStep outcome defId previous middle))
      Turn.amendScope fun scope =>
        { scope with
          createdStep := some created
          currentSteps :=
            if leaving.isNone then scope.currentSteps ++ [created] else scope.currentSteps }
      kit.runFunctions definition.preFunctions) now := by
    refine .calm_bind (Turn.request_calm _) fun created _ _ => ?_
    refine .calm_bind (Turn.amendScope_calm fun _ => rfl) fun _ _ _ => ?_
    exact runFunctions_calls confined _ _
  dsimp only
  split
  · cases leaving with
    | none => exact landing middle
    | some step =>
      refine .calm_bind (oldStatus_keeps outcome) fun status _ _ => ?_
      exact .calm_bind (closeStep_calm _ _ _) fun _ now _ => landing now
  · exact landing middle

theorem enterSiblings_calls (actionId : ActionId) (leaving : Option Step) (isFirst : Bool)
    (outcomes : List Outcome) (turn : Turn) :
    kit.Calls (outcomes.flatMap (turn.scope.blueprint.onEntry leaving))
      (kit.enterSiblings actionId leaving isFirst outcomes) turn := by
  induction outcomes generalizing isFirst turn with
  | nil => exact .of_calm (keeps_done ())
  | cons outcome rest ih =>
    have enters := enterStep_calls confined outcome actionId leaving isFirst
      (leaving.map (·.id)).toList turn
    refine enters.bind fun _ middle entered => ?_
    rw [← (enters.answer entered).blueprint]
    exact ih false middle

theorem takePlain_calls (action : Action) (outcome : Outcome) (leaving : Option Step) (turn : Turn) :
    kit.Calls (action.onEntry turn.scope.blueprint leaving outcome)
      (kit.takePlain action outcome leaving) turn := by
  unfold takePlain Action.onEntry
  split
  · cases leaving with
    | none => exact .of_calm (keeps_pure ())
    | some step =>
      refine .of_calm (keeps_bind (oldStatus_keeps outcome) fun status => ?_)
      exact keeps_bind (closeStep_calm _ _ _) fun _ => keeps_pure ()
  · exact enterStep_calls confined _ _ _ _ _ turn

theorem takeSplit_calls (splitId : NodeId) (action : Action) (leaving : Option Step) (turn : Turn) :
    kit.Calls
      (action.onSplit turn.scope.blueprint leaving (turn.scope.blueprint.split? splitId))
      (kit.takeSplit splitId action leaving) turn := by
  unfold takeSplit
  refine .scopeNow_bind (.ofOption_bind fun split found => ?_)
  rw [found, Action.onSplit]
  refine .calm_bind (runValidators_calm _) fun _ now validated => ?_
  have same := ((runValidators_calm _).answer (.refl turn) validated).blueprint
  rw [List.append_assoc, ← same]
  have before := runFunctions_calls confined (split.outcomes.flatMap (·.preFunctions)) now
  refine before.bind fun _ middle ran => ?_
  rw [← (before.answer ran).blueprint, Action.flatMap_onEntry]
  exact entering_calls (enterSiblings_calls confined _ _ _ _ _) (runFunctions_calls confined _)

/-- The functions that are called as a join lets the entry pass. -/
theorem passJoin_calls (action : Action) (leaving : Option Step) (opened : Option Gathering)
    (turn : Turn) :
    kit.Calls (action.onJoin turn.scope.blueprint leaving opened)
      (kit.passJoin action leaving opened) turn := by
  cases opened with
  | none => exact .of_calm (showBranches_calm none)
  | some gathering =>
    refine .calm_bind (runValidators_calm _) fun _ now validated => ?_
    have same := ((runValidators_calm _).answer (.refl turn) validated).blueprint
    rw [Action.onJoin, List.append_assoc, ← same]
    have before := runFunctions_calls confined gathering.outcome.preFunctions now
    refine before.bind fun _ middle ran => ?_
    refine .calm_bind (retire_calm _) fun _ retired retires => ?_
    have sameThen := ((retire_calm _).answer (.refl middle) retires).blueprint
    rw [← (before.answer ran).blueprint, ← sameThen]
    refine entering_calls (enterStep_calls confined _ _ _ _ _ _) fun last => ?_
    exact (runFunctions_calls confined _ last).bind_calm fun _ _ => showBranches_calm none

/-- Where an outcome is taken, the functions of what it leads to are called. -/
theorem takeOutcome_calls (action : Action) (outcome : Outcome) (leaving : Option Step)
    (turn : Turn) :
    kit.Calls (kit.onTaking action leaving outcome turn) (kit.takeOutcome action outcome leaving)
      turn := by
  unfold onTaking takeOutcome
  cases outcome.target with
  | step id => exact takePlain_calls confined action outcome leaving turn
  | split id => exact takeSplit_calls confined id action leaving turn
  | join id =>
    dsimp only
    rw [takeJoin_gathers]
    refine .calm_bind (gather_calm _ _ _ _) fun opened now gathers => ?_
    have same := ((gather_calm _ _ _ _).answer (.refl turn) gathers).blueprint
    rw [gathers, ← same]
    exact passJoin_calls confined action leaving opened now

/-- Once the outcome is taken, its functions are called and those of the action. -/
theorem conclude_calls (chosen : ScopedAction) (scope : Scope) (outcome : Outcome) (turn : Turn) :
    kit.Calls (outcome.postFunctions ++ chosen.action.postFunctions)
      (kit.conclude chosen scope outcome) turn := by
  refine (runFunctions_calls confined _ turn).bind fun _ now _ => ?_
  exact (runFunctions_calls confined _ now).bind_calm fun _ _ => settle_calm _ _ _

end Parts

end Toolkit

/-! ### The whole execution -/

namespace Execution

variable {execution : Execution}

/-- The step being left and the selected outcome are those of the action that is ready. -/
theorem of_prepared {leaving : Option Step} {now : Turn}
    (prepares : execution.kit.prepare execution.chosen execution.turn.scope
      (execution.turn.begun execution.chosen) = (.ok leaving, now)) :
    execution.leaving? = leaving ∧
      execution.selected? = execution.kit.outcomeIn? execution.chosen.action leaving now := by
  constructor
  · obtain ⟨found, _, leaves, follows⟩ := of_andThen_ok prepares
    obtain ⟨_, _, -, follows⟩ := of_andThen_ok follows
    obtain ⟨_, _, -, follows⟩ := of_andThen_ok follows
    obtain ⟨_, _, -, answers⟩ := of_andThen_ok follows
    cases answers
    dsimp only [leaving?]
    rw [leaves]
    rfl
  · dsimp only [selected?]
    rw [prepares]

theorem of_readied {leaving : Option Step} {outcome : Outcome} {now : Turn}
    (readied : execution.kit.ready execution.chosen execution.turn.scope
      (execution.turn.begun execution.chosen) = (.ok (leaving, outcome), now)) :
    execution.leaving? = leaving ∧ execution.selected? = some outcome ∧
      execution.onTaking outcome = execution.kit.onTaking execution.chosen.action leaving outcome now := by
  have prepared := readied
  rw [Toolkit.ready_prepared] at prepared
  obtain ⟨_, before, prepares, elects⟩ := of_andThen_ok prepared
  obtain ⟨isLeft, isSelected⟩ := of_prepared prepares
  obtain ⟨_, _, elects, follows⟩ := of_andThen_ok elects
  obtain ⟨_, _, -, follows⟩ := of_andThen_ok follows
  obtain ⟨_, _, -, answers⟩ := of_andThen_ok follows
  cases answers
  refine ⟨isLeft, isSelected.trans (Toolkit.elect_selects elects), ?_⟩
  dsimp only [onTaking]
  rw [readied, isLeft]

section Confined

variable (confined : execution.kit.extensions.Confined)

include confined

theorem prepare_calls :
    execution.kit.Calls
      (execution.turn.scope.blueprint.onLeave execution.leaving? ++
        execution.chosen.action.preFunctions)
      (execution.kit.prepare execution.chosen execution.turn.scope)
      (execution.turn.begun execution.chosen) := by
  refine .calm_bind (Toolkit.leavingStep_calm _) fun leaving now leaves => ?_
  refine .calm_bind (Toolkit.runValidators_calm _) fun _ middle _ => ?_
  have isLeft : execution.leaving? = leaving := by
    dsimp only [leaving?]
    rw [leaves]
    rfl
  rw [isLeft]
  refine (Toolkit.leaveStep_calls confined _ leaving middle).bind fun _ left _ => ?_
  exact (Toolkit.runFunctions_calls confined _ left).bind_calm fun _ _ => keeps_pure leaving

/-- An action gets ready by the functions before the outcome, and those of the outcome that are
called first. -/
theorem ready_calls :
    execution.kit.Calls
      (execution.turn.scope.blueprint.onLeave execution.leaving? ++
          execution.chosen.action.preFunctions ++
        match execution.selected? with
        | some outcome => outcome.preFunctions
        | none => [])
      (execution.kit.ready execution.chosen execution.turn.scope)
      (execution.turn.begun execution.chosen) := by
  rw [Toolkit.ready_prepared]
  refine (prepare_calls confined).bind fun leaving prepared prepares => ?_
  refine .calm_bind (Toolkit.elect_calm _ _) fun outcome now elects => ?_
  rw [(of_prepared prepares).2, Toolkit.elect_selects elects]
  refine .calm_bind (Toolkit.runValidators_calm _) fun _ middle _ => ?_
  exact (Toolkit.runFunctions_calls confined _ middle).bind_calm fun _ _ => keeps_pure _

/-- The execution calls its functions, once the action has begun. -/
theorem begun_calls :
    execution.kit.Calls execution.hooks
      (execution.kit.ready execution.chosen execution.turn.scope >>= fun readied => do
        execution.kit.takeOutcome execution.chosen.action readied.2 readied.1
        execution.kit.conclude execution.chosen execution.turn.scope readied.2)
      (execution.turn.begun execution.chosen) := by
  have parts : execution.hooks =
      (execution.turn.scope.blueprint.onLeave execution.leaving? ++
          execution.chosen.action.preFunctions ++
        match execution.selected? with
        | some outcome => outcome.preFunctions
        | none => []) ++
        match execution.selected? with
        | some outcome =>
          execution.onTaking outcome ++ (outcome.postFunctions ++ execution.chosen.action.postFunctions)
        | none => [] := by
    dsimp only [hooks]
    cases execution.selected? <;> simp only [List.append_assoc, List.append_nil]
  rw [parts]
  refine (ready_calls confined).bind fun ⟨leaving, outcome⟩ now readied => ?_
  obtain ⟨-, isSelected, onTaking⟩ := of_readied readied
  rw [isSelected]
  dsimp only
  rw [onTaking]
  refine (Toolkit.takeOutcome_calls confined _ outcome leaving now).bind fun _ taken _ => ?_
  exact Toolkit.conclude_calls confined _ _ outcome taken

end Confined

/-- An execution that succeeds has called just the functions of its hooks, each once and in their
order, as an outcome was selected by what the functions of the action left. One that fails has
called the first of them. -/
theorem hooks_in_order (confined : execution.kit.extensions.Confined) :
    ∃ events, execution.after.journal = execution.turn.world.journal ++ events ∧
      match (execution.kit.execute execution.chosen execution.turn).1 with
      | .ok _ => execution.selected?.isSome ∧
        List.Forall₂ execution.kit.Invokes execution.hooks (events.filter Event.isFunctionCall)
      | .error _ => ∃ first, first <+: execution.hooks ∧
        List.Forall₂ execution.kit.Invokes first (events.filter Event.isFunctionCall) := by
  have calls := begun_calls confined
  have begins : execution.turn.Calm (execution.turn.begun execution.chosen) :=
    ⟨rfl, _, rfl, by simp [Event.isFunctionCall]⟩
  have begun : execution.kit.Called execution.turn [] (execution.turn.begun execution.chosen) :=
    Toolkit.called_of_calm begins
  unfold after
  cases ran : execution.kit.execute execution.chosen execution.turn with
  | mk result last =>
    rw [Toolkit.execute_ready] at ran
    cases result with
    | ok progress =>
      obtain ⟨⟨leaving, outcome⟩, now, readied, -⟩ := of_andThen_ok ran
      obtain ⟨events, journal, made⟩ := (begun.trans (calls.answer ran)).journal
      exact ⟨events, journal, by rw [(of_readied readied).2.1]; rfl, made⟩
    | error failure =>
      obtain ⟨first, among, called⟩ := calls.failure ran
      obtain ⟨events, journal, made⟩ := (begun.trans called).journal
      exact ⟨events, journal, first, among, made⟩

end Execution

/-! ### A filing -/

/-- A function that leaves a note. -/
def noting (name value : String) : Call where
  type := "set-property"
  args := .ofList [("name", name), ("value", value)]

/-- A workflow in which drafts are filed by their clerk through a join, and by others directly. -/
def registry : Blueprint where
  name := "registry"
  steps :=
    [{ id := 1, name := "draft", postFunctions := [noting "left" "yes"] },
     { id := 2, name := "filed", preFunctions := [noting "entered" "yes"] }]
  joins :=
    [{ id := 1
       outcome := some
         { target := .step 2, status := "Filed"
           preFunctions := [noting "gathered" "yes"]
           postFunctions := [noting "joined" "yes"] } }]

/-- The filing of a draft by Ann. That she is its clerk is noted by the action itself. -/
def filing : Execution where
  kit := { extensions := Builtin.extensions }
  chosen :=
    ⟨.step 1,
      { id := 10, name := "file"
        preFunctions := [noting "clerk" "ann"]
        postFunctions := [noting "acted" "yes"]
        conditionalOutcomes :=
          [{ conditions :=
               { children :=
                   [.leaf { call := { type := "caller", args := .ofList [("caller", "${clerk}")] } }] }
             outcome :=
               { target := .join 1
                 preFunctions := [noting "arriving" "yes"]
                 postFunctions := [noting "arrived" "yes"] } }]
        unconditionalOutcome := some { target := .step 2 } }⟩
  turn :=
    let world := World.through {}
      [.asked (.createEntry "registry"), .asked (.setEntryState 1 .activated),
        .asked (.createStep { entryId := 1, defId := 1, startDate := ⟨0, 0⟩, status := "Draft" })]
    { world
      scope := {
        caller := some "ann"
        entry := ⟨1, "registry", .activated, ⟨0, 0⟩⟩
        blueprint := registry
        currentSteps := world.store.currentSteps 1 }
      home := 1 }

/-- Ann's draft goes through the join, by a condition that reads what the action has noted
before. -/
theorem filing_in_order :
    (filing.kit.execute filing.chosen filing.turn).1 = .ok .continued ∧
      filing.hooks.map (fun call => call.args.get? "name") =
        ["left", "clerk", "arriving", "gathered", "entered", "joined", "arrived", "acted"].map some ∧
      ∃ events, filing.after.journal = filing.turn.world.journal ++ events ∧
        List.Forall₂ filing.kit.Invokes filing.hooks (events.filter Event.isFunctionCall) := by
  have answered : (filing.kit.execute filing.chosen filing.turn).1 = .ok .continued :=
    ok_of_eval (by decide +kernel)
  have standard : filing.kit.extensions = Builtin.extensions := rfl
  have confined : filing.kit.extensions.Confined := by
    rw [standard]
    exact Builtin.extensions_modest.confined
  have ordered := Execution.hooks_in_order confined
  rw [answered] at ordered
  obtain ⟨events, journal, -, made⟩ := ordered
  exact ⟨answered, by decide +kernel, events, journal, made⟩

end Caseflow
