import Caseflow.Proofs.Hooks
/-! What a transition writes. Between its hooks a transition marks steps as finished, moves them to
the history and creates steps for its own entry. A property of turns that those writes, the hooks
and changes of the scope keep is kept by the whole sequence, wherever a failure stops it. -/
namespace Caseflow

namespace Turn

/-- The property tells for whose entries a turn may create steps, and survives what a transition
does to the store before it touches the state of an entry, but for the closing of steps. -/
structure Bears (owned : EntryId → Prop) (kept : Turn → Prop) : Prop where
  own : ∀ turn, kept turn → owned turn.scope.entry.id
  amended : ∀ turn scope, kept turn → scope.entry = turn.scope.entry → kept { turn with scope }
  looked : ∀ turn entry answer after, kept turn →
    World.Served turn.world (.historySteps entry) answer after → kept { turn with world := after }
  moved : ∀ turn handle answer after, kept turn →
    World.Served turn.world (.moveToHistory handle) answer after → kept { turn with world := after }
  created : ∀ turn new answer after, kept turn → owned new.entryId →
    World.Served turn.world (.createStep new) answer after → kept { turn with world := after }

/-- The same with the closing of steps, which are marked as finished before they are moved. -/
structure Carried (owned : EntryId → Prop) (kept : Turn → Prop) : Prop extends Bears owned kept where
  finished : ∀ turn handle closing answer after, kept turn →
    World.Served turn.world (.markFinished handle closing) answer after →
      kept { turn with world := after }

end Turn

open Run

/-- A move along the lifecycle keeps what the looks at its entry, the closing of steps and the
setting of a state keep. -/
theorem Lifecycle.move_keeps_of_closings {kept : World → Prop} {admitted : Failure → Prop}
    (absent : ∀ id, admitted (.entryNotFound id))
    (noEdge : ∀ id source target, admitted (.invalidEntryState id source target))
    (finds : ∀ id, Keeps kept admitted (World.findEntry? id))
    (lists : ∀ id, Keeps kept admitted (World.currentSteps id))
    (closes : ∀ step closing, Keeps kept admitted (do
      let _ ← World.markFinished step closing
      World.moveToHistory step))
    (sets : ∀ id state, Keeps kept admitted (World.setEntryState id state))
    (finishedStatus : String) (entryId : EntryId) (target : EntryState) (actionId : ActionId)
    (caller : Option String) :
    Keeps kept admitted (move finishedStatus entryId target actionId caller) := by
  have setting : Keeps kept admitted (do
      World.setEntryState entryId target
      return true) :=
    keeps_bind (sets _ _) fun _ => keeps_pure true
  unfold move World.findEntry
  refine keeps_bind (keeps_bind (finds _) fun _ => keeps_ofOption (absent _)) fun entry => ?_
  split
  · exact keeps_pure false
  · split
    · exact keeps_fail (noEdge _ _ _)
    · dsimp only
      split
      · unfold closeAll closeSteps
        refine keeps_bind (keeps_bind keeps_read fun world => ?_) fun _ => setting
        exact keeps_bind (lists _) fun steps => keeps_each fun step _ => closes step _
      · exact setting

/-- It creates no step: it keeps what the other requests keep. -/
theorem Lifecycle.move_keeps {kept : World → Prop} {admitted : Failure → Prop}
    (absent : ∀ id, admitted (.entryNotFound id))
    (noEdge : ∀ id source target, admitted (.invalidEntryState id source target))
    (requests : ∀ request, (∀ new, request ≠ .createStep new) →
      Keeps kept admitted (Run.request request))
    (finishedStatus : String) (entryId : EntryId) (target : EntryState) (actionId : ActionId)
    (caller : Option String) :
    Keeps kept admitted (move finishedStatus entryId target actionId caller) :=
  move_keeps_of_closings absent noEdge (fun _ => requests _ nofun) (fun _ => requests _ nofun)
    (fun _ _ => keeps_bind (requests _ nofun) fun _ => requests _ nofun)
    (fun _ _ => requests _ nofun) _ _ _ _ _

/-- A computation on the world of a turn keeps what it keeps of the world. -/
theorem Turn.onWorld_keeps {α : Type} {kept : World → Prop} {admitted : Failure → Prop}
    {computation : Run World α} (keeps : Keeps kept admitted computation) :
    Keeps (fun turn => kept turn.world) admitted (Turn.onWorld computation) :=
  meets_within fun _ holds => meets_at keeps holds

namespace Toolkit

/-- What a transition can fail with before it touches the state of the entry: the refusals of its
hooks, those of the store, and what is wrong with the set-up. -/
inductive Refusal (refused : Failure → Prop) : Failure → Prop where
  | hook {failure : Failure} (was : refused failure) : Refusal refused failure
  | store (error : StoreError) : Refusal refused (.store error)
  | step (id : StepDefId) : Refusal refused (.stepNotFound id)
  | defect (defect : Defect) : Refusal refused (.defective defect)
  | setUp (cause : Misconfiguration) : Refusal refused (.configuration cause)

/-- The execution of an action after the note that it has begun, with the scope it began in. -/
def carryOut (kit : Toolkit) (chosen : ScopedAction) (scope : Scope) : Run Turn Progress := do
  Turn.amendScope fun scope => { scope with actionId := some chosen.id }
  let leaving ← kit.leavingStep chosen.id
  kit.runValidators chosen.action.validators
  kit.leaveStep scope.blueprint leaving
  kit.runFunctions chosen.action.preFunctions
  let outcome ← kit.selectOutcome chosen.action ((leaving.map (·.defId)).getD (-1))
  kit.runValidators outcome.validators
  kit.runFunctions outcome.preFunctions
  kit.takeOutcome chosen.action outcome leaving
  kit.runFunctions outcome.postFunctions
  kit.runFunctions chosen.action.postFunctions
  kit.activate scope.entry.id chosen.scope
  kit.finish scope.entry.id chosen.action

theorem execute_eq (kit : Toolkit) (chosen : ScopedAction) :
    kit.execute chosen = (do
      let scope ← Turn.scopeNow
      Turn.onWorld (World.record (.actionBegun scope.entry.id chosen.key))
      kit.carryOut chosen scope) :=
  rfl

variable {kit : Toolkit} {refused : Failure → Prop} {kept : Turn → Prop} {owned : EntryId → Prop}

/-- What follows a look at the scope knows the turn it was taken from. -/
theorem meets_scopeNow_bind {α : Type} {next : Scope → Run Turn α} {answered : α → Turn → Prop}
    {failed : Failure → Turn → Prop}
    (rest : ∀ turn, kept turn → Meets kept (next turn.scope) answered failed) :
    Meets kept (Turn.scopeNow >>= next) answered failed :=
  fun turn holds => rest turn holds turn holds

theorem keeps_hook {α : Type} {computation : Run Turn α}
    (keeps : Keeps kept refused computation) : Keeps kept (Refusal refused) computation :=
  keeps_mono keeps fun _ => .hook

private theorem keeps_onWorld_request {request : StoreRequest}
    (stays : ∀ turn answer after, kept turn → World.Served turn.world request answer after →
      kept { turn with world := after }) :
    Keeps kept (Refusal refused) (Turn.onWorld (Run.request request)) := by
  refine meets_within fun turn holds => ?_
  refine meets_request (fun world value after same served => ?_) fun world error after same served => ?_
  · exact stays turn (.ok value) after holds (same ▸ served)
  · exact ⟨stays turn (.error error) after holds (same ▸ served), .store error⟩

theorem closeStep_keeps (carried : Turn.Carried owned kept) (step : Step) (actionId : ActionId)
    (status : String) : Keeps kept (Refusal refused) (closeStep step actionId status) := by
  unfold closeStep
  refine keeps_read_bind fun turn _ => ?_
  refine keeps_bind (keeps_onWorld_request fun turn => carried.finished turn step _) fun _ => ?_
  refine keeps_bind (keeps_onWorld_request fun turn => carried.moved turn step) fun _ => ?_
  exact keeps_pure _

theorem arrive_keeps
    (closes : ∀ step actionId status, Keeps kept (Refusal refused) (closeStep step actionId status))
    (action : Action) (outcome : Outcome) (leaving : Option Step) :
    Keeps kept (Refusal refused) (takeJoin.arrive kit action outcome leaving) := by
  cases leaving with
  | none => exact keeps_done []
  | some step =>
    refine keeps_bind (oldStatus_keeps outcome) fun status => ?_
    exact keeps_bind (closes step action.id status) fun _ => keeps_pure _

section Writes

variable (bears : Turn.Bears owned kept)

include bears

theorem amendScope_keeps {amend : Scope → Scope}
    (entry : ∀ scope, (amend scope).entry = scope.entry) :
    Keeps kept (Refusal refused) (Turn.amendScope amend) :=
  keeps_change fun turn holds => bears.amended turn _ holds (entry _)

theorem retire_keeps (steps : List Step) : Keeps kept (Refusal refused) (retire steps) := by
  unfold retire
  exact keeps_each fun step _ => keeps_onWorld_request fun turn => bears.moved turn step

theorem showBranches_keeps (branches : Option Branches) :
    Keeps kept (Refusal refused) (showBranches branches) :=
  amendScope_keeps bears fun _ => rfl

end Writes

theorem enteredStep_keeps {admitted : Failure → Prop}
    (setUp : ∀ cause, admitted (.configuration cause)) (actionId : ActionId) (leaving : Option Step)
    (target : Target) : Keeps kept admitted (enteredStep actionId leaving target) := by
  cases target with
  | step id =>
    unfold enteredStep
    simp only
    split
    · exact keeps_ofOption (setUp _)
    · exact keeps_done id
  | split id => exact keeps_fail (setUp _)
  | join id => exact keeps_fail (setUp _)

theorem leaveStep_keeps (functions : ∀ calls, Keeps kept refused (kit.runFunctions calls))
    (blueprint : Blueprint) (leaving : Option Step) :
    Keeps kept (Refusal refused) (kit.leaveStep blueprint leaving) := by
  cases leaving with
  | none => exact keeps_done ()
  | some step =>
    refine keeps_bind (keeps_ofOption (.step _)) fun definition => ?_
    exact keeps_hook (functions _)

theorem selectOutcome_keeps
    (guards : ∀ tree stepId, Keeps kept refused (kit.passesNow tree stepId)) (action : Action)
    (stepId : StepDefId) : Keeps kept (Refusal refused) (kit.selectOutcome action stepId) := by
  unfold selectOutcome
  refine keeps_bind (keeps_hook (firstPassing_keeps guards _ _)) fun found => ?_
  split
  · exact keeps_pure _
  · exact keeps_ofOption (.defect _)

section Entering

variable (bears : Turn.Bears owned kept)
  (closes : ∀ step actionId status, Keeps kept (Refusal refused) (closeStep step actionId status))
  (functions : ∀ calls, Keeps kept refused (kit.runFunctions calls))

include bears closes functions

theorem enterStep_keeps (outcome : Outcome) (actionId : ActionId) (leaving : Option Step)
    (closeLeaving : Bool) (previous : List StepId) :
    Keeps kept (Refusal refused)
      (kit.enterStep outcome actionId leaving closeLeaving previous) := by
  unfold enterStep
  refine keeps_bind (enteredStep_keeps .setUp actionId leaving outcome.target) fun defId => ?_
  refine keeps_read_bind fun turn holds => ?_
  refine keeps_bind (keeps_ofOption (.step defId)) fun definition => ?_
  have own : owned (kit.plannedStep outcome defId previous turn).entryId := bears.own turn holds
  have landing : Keeps kept (Refusal refused) (do
      let created ← Turn.onWorld (World.createStep (kit.plannedStep outcome defId previous turn))
      Turn.amendScope fun scope =>
        { scope with
          createdStep := some created
          currentSteps :=
            if leaving.isNone then scope.currentSteps ++ [created] else scope.currentSteps }
      kit.runFunctions definition.preFunctions) := by
    refine keeps_bind (keeps_onWorld_request fun turn answer after holds =>
      bears.created turn _ answer after holds own) fun created => ?_
    refine keeps_bind (amendScope_keeps bears fun _ => rfl) fun _ => ?_
    exact keeps_hook (functions _)
  dsimp only
  split
  · cases leaving with
    | none => exact landing
    | some step =>
      refine keeps_bind (oldStatus_keeps outcome) fun status => ?_
      exact keeps_bind (closes step actionId status) fun _ => landing
  · exact landing

theorem takePlain_keeps (action : Action) (outcome : Outcome) (leaving : Option Step) :
    Keeps kept (Refusal refused) (kit.takePlain action outcome leaving) := by
  unfold takePlain
  split
  · cases leaving with
    | none => exact keeps_pure ()
    | some step =>
      refine keeps_bind (oldStatus_keeps outcome) fun status => ?_
      exact keeps_bind (closes step action.id status) fun _ => keeps_pure ()
  · exact enterStep_keeps bears closes functions _ _ _ _ _

theorem enterSiblings_keeps (actionId : ActionId) (leaving : Option Step) (isFirst : Bool)
    (outcomes : List Outcome) :
    Keeps kept (Refusal refused) (kit.enterSiblings actionId leaving isFirst outcomes) := by
  induction outcomes generalizing isFirst with
  | nil => exact keeps_done ()
  | cons outcome rest ih =>
    unfold enterSiblings
    exact keeps_andThen (enterStep_keeps bears closes functions _ _ _ _ _) fun _ => ih false

end Entering

section Stages

variable (bears : Turn.Bears owned kept)
  (closes : ∀ step actionId status, Keeps kept (Refusal refused) (closeStep step actionId status))
  (hosts : kit.Hosts refused kept)

include bears closes hosts

theorem takeSplit_keeps (splitId : NodeId) (action : Action) (leaving : Option Step) :
    Keeps kept (Refusal refused) (kit.takeSplit splitId action leaving) := by
  unfold takeSplit
  refine keeps_bind scopeNow_keeps fun scope => ?_
  refine keeps_bind (keeps_ofOption (.defect _)) fun split => ?_
  refine keeps_bind (keeps_hook (hosts.validators _)) fun _ => ?_
  refine keeps_bind (keeps_hook (hosts.functions _)) fun _ => ?_
  have after := keeps_hook (hosts.functions (split.outcomes.flatMap (·.postFunctions)))
  dsimp only
  split
  · exact keeps_bind (enterSiblings_keeps bears closes hosts.functions _ _ _ _) fun _ => after
  · exact after

theorem takeJoin_keeps (joinId : NodeId) (action : Action) (outcome : Outcome)
    (leaving : Option Step) :
    Keeps kept (Refusal refused) (kit.takeJoin joinId action outcome leaving) := by
  unfold takeJoin
  refine keeps_bind scopeNow_keeps fun scope => ?_
  refine keeps_bind (keeps_ofOption (.defect _)) fun join => ?_
  refine keeps_bind (keeps_ofOption (.defect _)) fun joined => ?_
  refine keeps_bind (arrive_keeps closes action outcome leaving) fun arrived => ?_
  have looked : Keeps kept (Refusal refused) (Turn.onWorld (World.historySteps scope.entry.id)) :=
    keeps_onWorld_request fun turn => bears.looked turn scope.entry.id
  refine keeps_bind looked fun history => ?_
  refine keeps_bind (showBranches_keeps bears _) fun _ => ?_
  refine keeps_bind (keeps_hook (hosts.guards _ _)) fun passed => ?_
  dsimp only
  split
  · refine keeps_bind (keeps_hook (hosts.validators _)) fun _ => ?_
    refine keeps_bind (keeps_hook (hosts.functions _)) fun _ => ?_
    refine keeps_bind (retire_keeps bears _) fun _ => ?_
    have after := keeps_bind (keeps_hook (hosts.functions joined.postFunctions))
      fun _ => showBranches_keeps bears none
    split
    · exact keeps_bind (enterStep_keeps bears closes hosts.functions _ _ _ _ _) fun _ => after
    · exact after
  · exact showBranches_keeps bears none

theorem takeOutcome_keeps (action : Action) (outcome : Outcome) (leaving : Option Step) :
    Keeps kept (Refusal refused) (kit.takeOutcome action outcome leaving) := by
  unfold takeOutcome
  split
  · exact takeSplit_keeps bears closes hosts _ _ _
  · exact takeJoin_keeps bears closes hosts _ _ _ _
  · exact takePlain_keeps bears closes hosts.functions _ _ _

/-- The execution of an action keeps the property up to the point where the state of the entry may
change; what it comes to is decided by what follows from there. -/
theorem carryOut_meets {chosen : ScopedAction} {scope : Scope} {answered : Progress → Turn → Prop}
    {failed : Failure → Turn → Prop}
    (failures : ∀ failure turn, kept turn → Refusal refused failure → failed failure turn)
    (ending : Meets kept
      (do
        kit.activate scope.entry.id chosen.scope
        kit.finish scope.entry.id chosen.action)
      answered failed) :
    Meets kept (kit.carryOut chosen scope) answered failed := by
  have passes {α : Type} {first : Run Turn α} {next : α → Run Turn Progress}
      (start : Keeps kept (Refusal refused) first)
      (rest : ∀ value, Meets kept (next value) answered failed) :
      Meets kept (first >>= next) answered failed :=
    meets_keeps_bind start failures rest
  have functions (calls : List Call) := keeps_hook (hosts.functions calls)
  have validators (calls : List Call) := keeps_hook (hosts.validators calls)
  unfold carryOut
  refine passes (amendScope_keeps bears fun _ => rfl) fun _ => ?_
  refine passes (keeps_hook (leavingStep_keeps hosts.availability _)) fun leaving => ?_
  refine passes (validators _) fun _ => ?_
  refine passes (leaveStep_keeps hosts.functions _ _) fun _ => ?_
  refine passes (functions _) fun _ => ?_
  refine passes (selectOutcome_keeps hosts.guards _ _) fun outcome => ?_
  refine passes (validators _) fun _ => ?_
  refine passes (functions _) fun _ => ?_
  refine passes (takeOutcome_keeps bears closes hosts _ _ _) fun _ => ?_
  refine passes (functions _) fun _ => ?_
  refine passes (functions _) fun _ => ?_
  exact ending

end Stages

/-! ### The state of the entry -/

section Moving

variable (moves : ∀ finishedStatus entryId target actionId caller, Keeps kept refused (do
  let _ ← Turn.onWorld (Lifecycle.move finishedStatus entryId target actionId caller)
  Turn.amendScope fun scope => { scope with entry := { scope.entry with state := target } }))

include moves

theorem activate_keeps (entryId : EntryId) (declared : ActionScope) :
    Keeps kept refused (kit.activate entryId declared) := by
  unfold activate
  refine keeps_bind scopeNow_keeps fun scope => ?_
  split
  · exact moves _ entryId .activated 0 _
  · exact keeps_pure ()

theorem finish_keeps (entryId : EntryId) (action : Action) :
    Keeps kept refused (kit.finish entryId action) := by
  unfold finish
  split
  · refine keeps_bind scopeNow_keeps fun scope => ?_
    dsimp only
    unfold Lifecycle.complete
    rw [← bind_assoc]
    exact keeps_bind (moves _ entryId .completed action.id _) fun _ => keeps_pure _
  · exact keeps_pure _

end Moving

/-- The execution of an action keeps a property of worlds that its writes, its closings, its hooks
and the moves of the entry keep, once the action has begun. -/
theorem execute_meets {kept : World → Prop} {refused admitted : Failure → Prop}
    (bears : Turn.Bears (fun _ => True) fun turn => kept turn.world)
    (closes : ∀ step actionId status,
      Keeps (fun turn => kept turn.world) (Refusal refused) (closeStep step actionId status))
    (hosts : kit.Hosts refused fun turn => kept turn.world)
    (moved : ∀ finishedStatus entryId target actionId caller,
      Keeps kept admitted (Lifecycle.move finishedStatus entryId target actionId caller))
    (allowed : ∀ failure, Refusal refused failure → admitted failure) (chosen : ScopedAction)
    (turn : Turn) (begins : kept (turn.world.note [.actionBegun turn.scope.entry.id chosen.key])) :
    Meets (· = turn) (kit.execute chosen) (fun _ after => kept after.world)
      fun failure after => kept after.world ∧ admitted failure := by
  have moves (finishedStatus : String) (entryId : EntryId) (target : EntryState)
      (actionId : ActionId) (caller : Option String) :
      Keeps (fun turn => kept turn.world) admitted (do
        let _ ← Turn.onWorld (Lifecycle.move finishedStatus entryId target actionId caller)
        Turn.amendScope fun scope =>
          { scope with entry := { scope.entry with state := target } }) :=
    keeps_bind (Turn.onWorld_keeps (moved _ _ _ _ _)) fun _ => keeps_change fun _ holds => holds
  rw [execute_eq]
  refine meets_scopeNow_bind fun now same => ?_
  subst same
  refine meets_bind_via (fun _ after => kept after.world) ?_ fun _ => ?_
  · refine meets_within fun begun same => meets_change fun world here => ?_
    rw [here, same]
    exact begins
  · refine carryOut_meets bears closes hosts (fun _ _ holds was => ⟨holds, allowed _ was⟩) ?_
    exact keeps_bind (activate_keeps moves _ _) fun _ => finish_keeps moves _ _

end Toolkit

end Caseflow
