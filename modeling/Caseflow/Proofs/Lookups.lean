import Caseflow.Proofs.Acceptance
import Caseflow.Proofs.Outcomes
/-! What a transition looks up in an accepted blueprint. Every outcome, split and join that it
looks up is there, and a step that it creates is of a definition that is there. What is left to
fail for the shape of a blueprint is the step being left, which the store may hold of a definition
of another blueprint, and the outcome of a join, which may lead to a target that is no step. -/
namespace Caseflow

open Run

/-- The failure is for the shape of a blueprint: something is not defined in it, or a target cannot
be entered. -/
def Failure.ofShape : Failure → Bool
  | .defective _ => true
  | .stepNotFound _ => true
  | .configuration (.targetCreatesNoStep _) => true
  | _ => false

/-- No refusal of a built-in extension is for the shape of a blueprint. -/
theorem Builtin.Refusal.shapeless {kind : ExtensionKind} {failure : Failure}
    (refusal : Refusal kind failure) : failure.ofShape = false := by
  cases refusal <;> rfl

namespace Toolkit

theorem Hosts.mono {kit : Toolkit} {refused admitted : Failure → Prop} {kept : Turn → Prop}
    (hosts : kit.Hosts refused kept) (allowed : ∀ failure, refused failure → admitted failure) :
    kit.Hosts admitted kept where
  functions calls := keeps_mono (hosts.functions calls) allowed
  validators calls := keeps_mono (hosts.validators calls) allowed
  guards tree stepId := keeps_mono (hosts.guards tree stepId) allowed
  availability candidate stepId := keeps_mono (hosts.availability candidate stepId) allowed

/-- So no hook fails for the shape of a blueprint. -/
theorem hosts_shapeless {kit : Toolkit} (standard : kit.extensions = Builtin.extensions)
    {kept : Turn → Prop} (stable : Turn.Stable kept) :
    kit.Hosts (fun failure => failure.ofShape = false) kept := by
  have modest : kit.extensions.Modest Builtin.Refusal := standard ▸ Builtin.extensions_modest
  refine (hosts_of_modest stable modest).mono ?_
  rintro failure ⟨kind, refusal⟩
  exact refusal.shapeless

end Toolkit

/-- A property that survives hooks does so together with the steps that are shown. -/
theorem Turn.showing_stable {kept : Turn → Prop} (stable : Stable kept) (steps : List Step) :
    Stable fun turn => kept turn ∧ turn.scope.currentSteps = steps := by
  intro before after hooked holds
  obtain ⟨bindings, scope⟩ := hooked.scope
  refine ⟨stable hooked holds.1, ?_⟩
  rw [scope]
  exact holds.2

/-- The steps that the request creates are of the entry, and of definitions in the blueprint. -/
def StoreRequest.Within (id : EntryId) (blueprint : Blueprint) : StoreRequest → Prop
  | .createStep new => new.entryId = id ∧ (blueprint.step? new.defId).isSome
  | _ => True

theorem StoreRequest.within_of_creates_nothing (id : EntryId) (blueprint : Blueprint)
    {request : StoreRequest} (nothing : ∀ new, request ≠ .createStep new) :
    request.Within id blueprint := by
  cases request with
  | createStep new => exact absurd rfl (nothing new)
  | _ => trivial

/-- The property tells the entry of a turn and its blueprint, and survives whatever a transition
does that creates steps of definitions in the blueprint only. -/
structure Turn.Upheld (id : EntryId) (blueprint : Blueprint) (kept : Turn → Prop) : Prop where
  own : ∀ turn, kept turn → turn.scope.entry.id = id
  shows : ∀ turn, kept turn → turn.scope.blueprint = blueprint
  amended : ∀ turn scope, kept turn → scope.entry.id = turn.scope.entry.id →
    scope.blueprint = turn.scope.blueprint → kept { turn with scope }
  asked : ∀ turn request answer after, kept turn → StoreRequest.Within id blueprint request →
    World.Served turn.world request answer after → kept { turn with world := after }

namespace Toolkit

variable {kit : Toolkit} {id : EntryId} {blueprint : Blueprint} {kept : Turn → Prop}
  {admitted : Failure → Prop} {leaving : Option Step}

section Writes

variable (upheld : Turn.Upheld id blueprint kept)
  (shapeless : ∀ failure, failure.ofShape = false → admitted failure)

include upheld

theorem amendScope_upholds {amend : Scope → Scope}
    (entry : ∀ scope, (amend scope).entry.id = scope.entry.id)
    (same : ∀ scope, (amend scope).blueprint = scope.blueprint) :
    Keeps kept admitted (Turn.amendScope amend) :=
  keeps_change fun turn holds => upheld.amended turn _ holds (entry _) (same _)

include shapeless

theorem request_upholds {request : StoreRequest} (within : request.Within id blueprint) :
    Keeps kept admitted (Turn.onWorld (Run.request request)) := by
  refine meets_within fun turn holds => ?_
  refine meets_request (fun world value after same served => ?_)
    fun world error after same served => ?_
  · exact upheld.asked turn request (.ok value) after holds within (same ▸ served)
  · refine ⟨?_, shapeless _ rfl⟩
    exact upheld.asked turn request (.error error) after holds within (same ▸ served)

theorem closeStep_upholds (step : Step) (actionId : ActionId) (status : String) :
    Keeps kept admitted (closeStep step actionId status) := by
  unfold closeStep
  refine keeps_read_bind fun turn _ => ?_
  refine keeps_bind (request_upholds upheld shapeless trivial) fun _ => ?_
  exact keeps_bind (request_upholds upheld shapeless trivial) fun _ => keeps_pure _

theorem retire_upholds (steps : List Step) : Keeps kept admitted (retire steps) := by
  unfold retire
  exact keeps_each fun step _ => request_upholds upheld shapeless trivial

theorem arrive_upholds (action : Action) (outcome : Outcome) (leaving : Option Step) :
    Keeps kept admitted (takeJoin.arrive kit action outcome leaving) := by
  cases leaving with
  | none => exact keeps_done []
  | some step =>
    refine keeps_bind (oldStatus_keeps outcome) fun status => ?_
    exact keeps_bind (closeStep_upholds upheld shapeless step action.id status)
      fun _ => keeps_pure _

/-- A move of the entry along its lifecycle creates nothing and looks nothing up. -/
theorem moveHere_upholds (finishedStatus : String) (entryId : EntryId) (target : EntryState)
    (actionId : ActionId) (caller : Option String) :
    Keeps kept admitted (do
      let _ ← Turn.onWorld (Lifecycle.move finishedStatus entryId target actionId caller)
      Turn.amendScope fun scope =>
        { scope with entry := { scope.entry with state := target } }) := by
  refine keeps_bind (meets_within fun turn holds => ?_)
    fun _ => amendScope_upholds upheld (fun _ => rfl) fun _ => rfl
  have moves : Keeps (fun world => kept { turn with world }) admitted
      (Lifecycle.move finishedStatus entryId target actionId caller) := by
    refine Lifecycle.move_keeps (fun _ => shapeless _ rfl) (fun _ _ _ => shapeless _ rfl) ?_ _ _ _ _ _
    intro request nothing
    refine keeps_request (fun _ => shapeless _ rfl) fun world answer after holds served => ?_
    exact upheld.asked { turn with world } request answer after holds
      (StoreRequest.within_of_creates_nothing id blueprint nothing) served
  refine meets_mono moves ?_ (fun _ _ holds => holds) fun _ _ ends => ends
  rintro _ rfl
  exact holds

end Writes

/-! ### Entering a step -/

/-- A target that is no step cannot be entered. -/
theorem enterStep_deadEnd (kit : Toolkit) {outcome : Outcome}
    (deadEnd : ∀ step, outcome.target ≠ .step step) (actionId : ActionId) (leaving : Option Step)
    (closeLeaving : Bool) (previous : List StepId) :
    kit.enterStep outcome actionId leaving closeLeaving previous =
      Run.fail (.configuration (.targetCreatesNoStep outcome.target)) := by
  unfold enterStep
  cases leads : outcome.target with
  | step id => exact absurd leads (deadEnd id)
  | split id => rfl
  | join id => rfl

/-- Where a sound outcome leads to is defined, unless that is the step being left. -/
theorem enteredStep_answers {stepId : StepDefId}
    (shapeless : ∀ failure, failure.ofShape = false → admitted failure)
    (sound : blueprint.targetDefect? (.step stepId) = none)
    (known : ∀ step ∈ leaving, blueprint.step? step.defId = none →
      admitted (.stepNotFound step.defId)) (actionId : ActionId) :
    Meets kept (enteredStep actionId leaving (.step stepId))
      (fun defId turn => (blueprint.step? defId = none → admitted (.stepNotFound defId)) ∧
        kept turn)
      (fun failure turn => kept turn ∧ admitted failure) := by
  unfold enteredStep
  simp only
  split
  · refine meets_ofOption (fun defId found turn holds => ?_) fun _ turn holds => ?_
    · obtain ⟨step, isLeft, rfl⟩ := Option.map_eq_some_iff.mp found
      exact ⟨known step isLeft, holds⟩
    · exact ⟨holds, shapeless _ rfl⟩
  · rename_i other
    refine meets_done fun turn holds => ⟨fun missing => ?_, holds⟩
    have defined := (Blueprint.step_of_targetDefect? sound).resolve_left other
    rw [missing] at defined
    cases defined

section Stages

variable (upheld : Turn.Upheld id blueprint kept) (hosts : kit.Hosts admitted kept)
  (shapeless : ∀ failure, failure.ofShape = false → admitted failure)
  (known : ∀ step ∈ leaving, blueprint.step? step.defId = none →
    admitted (.stepNotFound step.defId))

include upheld hosts shapeless known

theorem enterStep_upholds {outcome : Outcome} {stepId : StepDefId}
    (leads : outcome.target = .step stepId)
    (sound : blueprint.targetDefect? (.step stepId) = none) (actionId : ActionId)
    (closeLeaving : Bool) (previous : List StepId) :
    Keeps kept admitted (kit.enterStep outcome actionId leaving closeLeaving previous) := by
  unfold enterStep
  rw [leads]
  refine meets_bind (enteredStep_answers shapeless sound known actionId) fun defId => ?_
  refine meets_given fun absent => keeps_read_bind fun turn holds => ?_
  rw [upheld.shows turn holds]
  refine meets_bind_via (fun _ now => (blueprint.step? defId).isSome ∧ kept now)
    (meets_ofOption (fun definition found now holds => ?_) fun missing now holds => ?_)
    fun definition => meets_given fun defined => ?_
  · exact ⟨by rw [found]; rfl, holds⟩
  · exact ⟨holds, absent missing⟩
  have within : StoreRequest.Within id blueprint
      (.createStep (kit.plannedStep outcome defId previous turn)) :=
    ⟨upheld.own turn holds, defined⟩
  have landing : Keeps kept admitted (do
      let created ← Turn.onWorld (World.createStep (kit.plannedStep outcome defId previous turn))
      Turn.amendScope fun scope =>
        { scope with
          createdStep := some created
          currentSteps :=
            if leaving.isNone then scope.currentSteps ++ [created] else scope.currentSteps }
      kit.runFunctions definition.preFunctions) := by
    refine keeps_bind (request_upholds upheld shapeless within) fun created => ?_
    refine keeps_bind (amendScope_upholds upheld (fun _ => rfl) fun _ => rfl) fun _ => ?_
    exact hosts.functions _
  dsimp only
  split
  · cases leaving with
    | none => exact landing
    | some step =>
      refine keeps_bind (oldStatus_keeps outcome) fun status => ?_
      exact keeps_bind (closeStep_upholds upheld shapeless step actionId status) fun _ => landing
  · exact landing

theorem takePlain_upholds (action : Action) {outcome : Outcome} {stepId : StepDefId}
    (leads : outcome.target = .step stepId)
    (sound : blueprint.targetDefect? (.step stepId) = none) :
    Keeps kept admitted (kit.takePlain action outcome leaving) := by
  unfold takePlain
  split
  · cases leaving with
    | none => exact keeps_pure ()
    | some step =>
      refine keeps_bind (oldStatus_keeps outcome) fun status => ?_
      exact keeps_bind (closeStep_upholds upheld shapeless step action.id status)
        fun _ => keeps_pure ()
  · exact enterStep_upholds upheld hosts shapeless known leads sound _ _ _

theorem enterSiblings_upholds (actionId : ActionId) (isFirst : Bool) {outcomes : List Outcome}
    (lead : ∀ outcome ∈ outcomes,
      ∃ id, outcome.target = .step id ∧ blueprint.targetDefect? (.step id) = none) :
    Keeps kept admitted (kit.enterSiblings actionId leaving isFirst outcomes) := by
  induction outcomes generalizing isFirst with
  | nil => exact keeps_done ()
  | cons outcome rest ih =>
    obtain ⟨stepId, leads, sound⟩ := lead outcome (List.mem_cons_self ..)
    unfold enterSiblings
    refine keeps_andThen (enterStep_upholds upheld hosts shapeless known leads sound _ _ _)
      fun _ => ?_
    exact ih false fun later member => lead later (List.mem_cons_of_mem _ member)

variable (closed : blueprint.Closed)

include closed

theorem takeSplit_upholds {splitId : NodeId}
    (sound : blueprint.targetDefect? (.split splitId) = none) (action : Action) :
    Keeps kept admitted (kit.takeSplit splitId action leaving) := by
  obtain ⟨split, found, lead⟩ := closed.split? sound
  unfold takeSplit
  refine meets_scopeNow_bind fun turn holds => ?_
  rw [upheld.shows turn holds, found]
  show Keeps kept admitted (Run.done split >>= _)
  rw [done_bind]
  refine keeps_bind (hosts.validators _) fun _ => keeps_bind (hosts.functions _) fun _ => ?_
  dsimp only
  split
  · exact keeps_bind (enterSiblings_upholds upheld hosts shapeless known _ _ lead)
      fun _ => hosts.functions _
  · exact hosts.functions _

omit known in
/-- An arrival at a join of the blueprint does not fail for its shape. Where the join lets the entry
pass it leads on as it is declared, to a target that exists. -/
theorem openJoin_upholds {joinId : NodeId}
    (sound : blueprint.targetDefect? (.join joinId) = none) (action : Action) (outcome : Outcome) :
    Meets kept (kit.openJoin joinId action outcome leaving)
      (fun opened turn => (∀ passed ∈ opened, (∃ join, blueprint.join? joinId = some join ∧
        join.outcome = some passed.1) ∧ blueprint.targetDefect? passed.1.target = none) ∧ kept turn)
      (fun failure turn => kept turn ∧ admitted failure) := by
  obtain ⟨join, joined, found, leads, leadsOn⟩ := closed.join? sound
  unfold openJoin
  refine meets_scopeNow_bind fun turn holds => ?_
  rw [upheld.shows turn holds, found]
  show Meets kept (Run.done join >>= _) _ _
  rw [done_bind, leads]
  show Meets kept (Run.done joined >>= _) _ _
  rw [done_bind]
  refine meets_bind (arrive_upholds upheld shapeless action outcome leaving) fun arrived => ?_
  refine meets_bind (request_upholds upheld shapeless trivial) fun history => ?_
  refine meets_bind (amendScope_upholds upheld (fun _ => rfl) fun _ => rfl) fun _ => ?_
  refine meets_bind (hosts.guards _ _) fun passed => ?_
  split
  · refine meets_bind (hosts.validators _) fun _ => meets_bind (hosts.functions _) fun _ => ?_
    refine meets_bind (retire_upholds upheld shapeless _) fun _ => ?_
    refine meets_pure fun turn holds => ⟨?_, holds⟩
    rintro _ ⟨⟩
    exact ⟨⟨join, rfl, leads⟩, leadsOn⟩
  · exact meets_pure fun turn holds => ⟨nofun, holds⟩

omit closed in
/-- What follows on an arrival fails for the shape of the blueprint only where the join leads to a
target that is no step. -/
theorem followJoin_upholds (action : Action) {opened : Option (Outcome × List StepId)}
    (sound : ∀ passed ∈ opened, blueprint.targetDefect? passed.1.target = none)
    (ends : ∀ passed ∈ opened, (∀ step, passed.1.target ≠ .step step) → action.finish = false →
      admitted (.configuration (.targetCreatesNoStep passed.1.target))) :
    Keeps kept admitted (kit.followJoin action leaving opened) := by
  have hides : Keeps kept admitted (showBranches none) :=
    amendScope_upholds upheld (fun _ => rfl) fun _ => rfl
  cases opened with
  | none => exact hides
  | some passed =>
    obtain ⟨joined, previous⟩ := passed
    have leadsOn := sound _ rfl
    have after := keeps_bind (hosts.functions joined.postFunctions) fun _ => hides
    unfold followJoin
    dsimp only
    split
    · rename_i goesOn
      have continues : action.finish = false := by simpa using goesOn
      refine keeps_bind ?_ fun _ => after
      by_cases deadEnd : ∀ step, joined.target ≠ .step step
      · rw [enterStep_deadEnd kit deadEnd]
        exact keeps_fail (ends _ rfl deadEnd continues)
      · obtain ⟨stepId, leads⟩ := not_forall_not.mp deadEnd
        rw [leads] at leadsOn
        exact enterStep_upholds upheld hosts shapeless known leads leadsOn _ _ _
    · exact after

/-- What an outcome leads to is entered, or fails for the shape of the blueprint where a join leads
to a target that is no step. -/
theorem takeOutcome_upholds (action : Action) {outcome : Outcome}
    (sound : blueprint.targetDefect? outcome.target = none)
    (ends : ∀ target, admitted (.configuration (.targetCreatesNoStep target))) :
    Keeps kept admitted (kit.takeOutcome action outcome leaving) := by
  unfold takeOutcome
  cases leads : outcome.target with
  | step stepId =>
    rw [leads] at sound
    exact takePlain_upholds upheld hosts shapeless known action leads sound
  | split splitId =>
    rw [leads] at sound
    exact takeSplit_upholds upheld hosts shapeless known closed sound action
  | join joinId =>
    rw [leads] at sound
    dsimp only
    rw [takeJoin_eq]
    refine meets_bind (openJoin_upholds upheld hosts shapeless closed sound action outcome)
      fun opened => meets_given fun leadsOn => ?_
    exact followJoin_upholds upheld hosts shapeless known action
      (fun _ passed => (leadsOn _ passed).2) fun _ _ _ _ => ends _

/-! ### The choice of the outcome -/

omit upheld shapeless closed in
theorem leaveStep_upholds : Keeps kept admitted (kit.leaveStep blueprint leaving) := by
  cases leaving with
  | none => exact keeps_done ()
  | some step =>
    refine keeps_bind ?_ fun definition => hosts.functions _
    exact meets_ofOption (fun _ _ _ holds => holds)
      fun missing _ holds => ⟨holds, known step rfl missing⟩

omit upheld shapeless known closed in
/-- What the conditional outcomes come to is one of them. -/
theorem firstPassing_answers (stepId : StepDefId) (outcomes : List ConditionalOutcome) :
    Meets kept (kit.firstPassing stepId outcomes)
      (fun found turn => (∀ outcome ∈ found, outcome ∈ outcomes.map (·.outcome)) ∧ kept turn)
      (fun failure turn => kept turn ∧ admitted failure) := by
  induction outcomes with
  | nil => exact meets_done fun _ holds => ⟨by simp, holds⟩
  | cons conditional rest ih =>
    unfold firstPassing
    refine meets_andThen (hosts.guards _ _) fun passed => ?_
    cases passed with
    | true => exact meets_done fun _ holds => ⟨by simp, holds⟩
    | false =>
      refine meets_answers ih fun found turn ends => ⟨fun outcome isFound => ?_, ends.2⟩
      exact List.mem_cons_of_mem _ (ends.1 outcome isFound)

omit upheld shapeless known in
/-- An action of the blueprint has an outcome to take, and its target exists. -/
theorem selectOutcome_answers {action : Action} (declared : action ∈ blueprint.allActions)
    (stepId : StepDefId) :
    Meets kept (kit.selectOutcome action stepId)
      (fun outcome turn => blueprint.targetDefect? outcome.target = none ∧ kept turn)
      (fun failure turn => kept turn ∧ admitted failure) := by
  have sound := closed.actions action declared
  unfold selectOutcome
  refine meets_bind (firstPassing_answers hosts stepId action.conditionalOutcomes)
    fun found => meets_given fun conditional => ?_
  cases found with
  | some outcome =>
    have among : outcome ∈ action.outcomes := List.mem_append_left _ (conditional outcome rfl)
    exact meets_pure fun _ holds => ⟨sound outcome among, holds⟩
  | none =>
    refine meets_ofOption (fun outcome isLast _ holds => ?_) fun missing _ _ => ?_
    · have among : outcome ∈ action.outcomes :=
        List.mem_append_right _ (Option.mem_toList.mpr isLast)
      exact ⟨sound outcome among, holds⟩
    · have present := closed.fallback action declared
      rw [missing] at present
      cases present

omit upheld shapeless in
theorem choose_answers {chosen : ScopedAction} (declared : chosen.action ∈ blueprint.allActions)
    {scope : Scope} (shown : scope.blueprint = blueprint) :
    Meets kept (kit.choose chosen scope leaving)
      (fun outcome turn => blueprint.targetDefect? outcome.target = none ∧ kept turn)
      (fun failure turn => kept turn ∧ admitted failure) := by
  unfold choose
  rw [shown]
  refine meets_bind (hosts.validators _) fun _ => ?_
  refine meets_bind (leaveStep_upholds hosts known) fun _ => ?_
  refine meets_bind (hosts.functions _) fun _ => ?_
  refine meets_bind (selectOutcome_answers hosts closed declared _) fun outcome => ?_
  refine meets_given fun sound => ?_
  refine meets_bind (hosts.validators _) fun _ => meets_bind (hosts.functions _) fun _ => ?_
  exact meets_pure fun _ holds => ⟨sound, holds⟩

end Stages

/-! ### The action as a whole -/

section Whole

variable (upheld : Turn.Upheld id blueprint kept)
  (hosted : ∀ steps, kit.Hosts admitted fun turn => kept turn ∧ turn.scope.currentSteps = steps)
  (hosts : kit.Hosts admitted kept)
  (shapeless : ∀ failure, failure.ofShape = false → admitted failure)
  (closed : blueprint.Closed)

include hosted hosts closed

/-- An action of the blueprint gets ready to leave one of the steps shown, with an outcome whose
target exists. -/
theorem ready_answers {chosen : ScopedAction} (declared : chosen.action ∈ blueprint.allActions)
    {scope : Scope} (shown : scope.blueprint = blueprint) {steps : List Step}
    (known : ∀ step ∈ steps, blueprint.step? step.defId = none →
      admitted (.stepNotFound step.defId)) :
    Meets (fun turn => kept turn ∧ turn.scope.currentSteps = steps) (kit.ready chosen scope)
      (fun readied turn => ((∀ step ∈ readied.1, step ∈ steps) ∧
        blueprint.targetDefect? readied.2.target = none) ∧ kept turn)
      (fun failure turn => kept turn ∧ admitted failure) := by
  unfold ready
  refine meets_bind (meets_failures (leavingStep_shown (hosted steps) (fun _ shows => shows.2)
    chosen.id) fun _ _ ends => ⟨ends.1.1, ends.2⟩) fun leaving => meets_given fun isShown => ?_
  have leavable : ∀ step ∈ leaving, blueprint.step? step.defId = none →
      admitted (.stepNotFound step.defId) := fun step isLeft => known step (isShown step isLeft)
  refine meets_bind (meets_mono (choose_answers hosts leavable closed declared shown)
    (fun _ shows => shows.1) (fun _ _ ends => ends) fun _ _ ends => ends) fun outcome => ?_
  exact meets_pure fun _ ends => ⟨⟨isShown, ends.1⟩, ends.2⟩

include upheld shapeless

/-- The execution of an action of the blueprint keeps what is upheld, and fails for the shape of the
blueprint only where a join leads to a target that is no step. -/
theorem execute_upholds {chosen : ScopedAction} (declared : chosen.action ∈ blueprint.allActions)
    {turn : Turn} (begun : kept (turn.begun chosen))
    (known : ∀ step ∈ turn.scope.currentSteps, blueprint.step? step.defId = none →
      admitted (.stepNotFound step.defId))
    (ends : ∀ target, admitted (.configuration (.targetCreatesNoStep target))) :
    Meets (· = turn) (kit.execute chosen) (fun _ => kept)
      (fun failure after => kept after ∧ admitted failure) := by
  have shown : turn.scope.blueprint = blueprint := upheld.shows (turn.begun chosen) begun
  rintro _ rfl
  rw [execute_ready]
  refine meets_bind (ready_answers hosted hosts closed declared shown known) ?_ _ ⟨begun, rfl⟩
  rintro ⟨leaving, outcome⟩
  refine meets_given fun readied => ?_
  have leavable : ∀ step ∈ leaving, blueprint.step? step.defId = none →
      admitted (.stepNotFound step.defId) := fun step isLeft => known step (readied.1 step isLeft)
  refine keeps_bind (takeOutcome_upholds upheld hosts shapeless leavable closed chosen.action
    readied.2 ends) fun _ => ?_
  exact conclude_keeps hosts.functions (moveHere_upholds upheld shapeless) chosen _ outcome

end Whole

end Toolkit

end Caseflow
