import Caseflow.Proofs.Parallel
import Caseflow.Proofs.BuiltinHooks
import Caseflow.Proofs.Runs
import Caseflow.Proofs.ChainLimits
/-! The isolation of entries. What a call on an entry looks at, the scope that it builds, the
guards, validators and functions it runs, the steps it closes and creates and the actions that
follow on their own are all about this entry. So nothing of another entry decides what a call comes
to, and no call changes another entry. -/
namespace Caseflow

open Run

namespace Builtin

/-- The built-in functions are about the entry at hand. -/
theorem functions_local :
    Extensions.Yields (fun _ => True) Function.Local extensions.function := by
  have none : Extensions.Yields (fun _ => True) Function.Local (Extensions.make ∅ .function) :=
    fun _ _ => trivial
  have setsCaller : Function.Local setCaller := fun _ _ => .look fun _ _ _ => .assign .done
  have setsProperty : Function.Local setProperty := by
    intro id given
    unfold setProperty
    split
    · exact .fail _
    · exact .putProperty .done
  have setsOwner : Function.Local mostRecentOwner := by
    intro id given
    unfold mostRecentOwner
    split
    · exact .fail _
    · refine .look fun scope _ own => .ask own fun answer => ?_
      cases answer with
      | error error => exact .fail _
      | ok history =>
        simp only
        split
        · exact .assign .done
        · exact .done
  exact Extensions.yields_insert (Extensions.yields_insert (Extensions.yields_insert none
    "set-caller" setsCaller) "set-property" setsProperty) "most-recent-owner" setsOwner

end Builtin

namespace Toolkit

variable {kit : Toolkit} {id : EntryId} {start other : World}

/-! ### Hooks -/

theorem textNow_alike (template : String) :
    Alike (Turn.Parallel id start other) (kit.textNow template) fun _ => True :=
  alike_read_bind (fun _ _ parallel => by rw [parallel.scope, parallel.properties])
    fun _ _ _ => alike_done trivial

theorem oldStatus_alike (outcome : Outcome) :
    Alike (Turn.Parallel id start other) (kit.oldStatus outcome) fun _ => True :=
  alike_bind (textNow_alike _) fun _ _ => alike_done trivial

theorem runValidators_alike (calls : List Call) :
    Alike (Turn.Parallel id start other) (kit.runValidators calls) fun _ => True := by
  refine alike_each fun call _ => ?_
  refine alike_read_bind (fun _ _ parallel => by rw [parallel.scope, parallel.properties])
    fun left _ _ => Turn.onWorld_alike ?_
  exact World.looks_alike (callValidator_looks kit.extensions.refuses_any _ _)

theorem passesNow_alike (tree : Option Conditions) (stepId : StepDefId) :
    Alike (Turn.Parallel id start other) (kit.passesNow tree stepId) fun _ => True := by
  refine alike_read_bind (fun _ _ parallel => by rw [parallel.scope, parallel.properties])
    fun left _ _ => Turn.onWorld_alike ?_
  exact World.looks_alike (treePasses_looks kit.extensions.refuses_any tree)

theorem isAvailable_alike (candidate : ScopedAction) (stepId : StepDefId) :
    Alike (Turn.Parallel id start other) (kit.isAvailable candidate stepId) fun _ => True := by
  refine alike_read_bind
    (fun _ _ parallel => by rw [parallel.scope, parallel.properties, parallel.known])
    fun left _ _ => ?_
  split
  · exact alike_done trivial
  · refine alike_bind (Turn.onWorld_alike (World.looks_alike
      (mayFire_looks kit.extensions.refuses_any _))) fun available _ => ?_
    refine alike_bind (alike_change fun left right parallel => ?_) fun _ _ => alike_done trivial
    exact { parallel with known := congrArg (·.learn candidate.key available) parallel.known }

section Functions

variable (functions : Extensions.Yields (fun _ => True) Function.Local kit.extensions.function)

include functions

theorem callFunction_alike (type : String) (args : Args) :
    Alike (Turn.Parallel id start other) (kit.callFunction type args) fun _ => True := by
  refine alike_bind Turn.scopeNow_alike fun scope _ => ?_
  refine alike_bind (alike_ofExcept fun function made => functions.of_ok made)
    fun function isLocal => ?_
  have notes : Looks (fun _ => True) _ :=
    looks_record_call .function type args scope.view
  exact alike_bind (Turn.onWorld_alike (World.looks_alike notes)) fun _ _ =>
    Turn.perform_alike (isLocal id args)

theorem runFunctions_alike (calls : List Call) :
    Alike (Turn.Parallel id start other) (kit.runFunctions calls) fun _ => True := by
  refine alike_each fun call _ => ?_
  exact alike_read_bind (fun _ _ parallel => by rw [parallel.scope, parallel.properties])
    fun left _ _ => callFunction_alike functions _ _

end Functions

/-! ### The selection -/

theorem firstAvailable_alike (candidates : List (ScopedAction × StepDefId)) :
    Alike (Turn.Parallel id start other) (kit.firstAvailable candidates) fun _ => True := by
  induction candidates with
  | nil => exact alike_done trivial
  | cons candidate rest ih =>
    refine alike_andThen (isAvailable_alike _ _) fun available _ => ?_
    split
    · exact alike_done trivial
    · exact ih

theorem firstOffering_alike (blueprint : Blueprint) (actionId : ActionId) {steps : List Step}
    (own : ∀ step ∈ steps, step.entryId = id) :
    Alike (Turn.Parallel id start other) (kit.firstOffering blueprint actionId steps)
      fun found => ∀ step ∈ found, step.entryId = id := by
  induction steps with
  | nil => exact alike_done nofun
  | cons step rest ih =>
    have others := ih fun later member => own later (List.mem_cons_of_mem _ member)
    unfold firstOffering
    split
    · exact others
    · refine alike_andThen (isAvailable_alike _ _) fun available _ => ?_
      split
      · refine alike_done fun found same => ?_
        cases same
        exact own step (List.mem_cons_self ..)
      · exact others

theorem leavingStep_alike (actionId : ActionId) :
    Alike (Turn.Parallel id start other) (kit.leavingStep actionId)
      fun found => ∀ step ∈ found, step.entryId = id := by
  refine alike_bind Turn.scopeNow_alike fun scope own => ?_
  split
  · rename_i only same
    refine alike_done fun found isOnly => ?_
    cases isOnly
    exact own.2 only (by rw [same]; exact List.mem_singleton.mpr rfl)
  · exact firstOffering_alike _ _ own.2

theorem firstPassing_alike (stepId : StepDefId) (outcomes : List ConditionalOutcome) :
    Alike (Turn.Parallel id start other) (kit.firstPassing stepId outcomes) fun _ => True := by
  induction outcomes with
  | nil => exact alike_done trivial
  | cons conditional rest ih =>
    refine alike_andThen (passesNow_alike _ _) fun passed _ => ?_
    split
    · exact alike_done trivial
    · exact ih

theorem selectOutcome_alike (action : Action) (stepId : StepDefId) :
    Alike (Turn.Parallel id start other) (kit.selectOutcome action stepId) fun _ => True := by
  refine alike_bind (firstPassing_alike _ _) fun found _ => ?_
  split
  · exact alike_done trivial
  · exact alike_ofOption fun _ _ => trivial

/-! ### The steps of a transition -/

theorem closeStep_alike {step : Step} (own : step.entryId = id) (actionId : ActionId)
    (status : String) :
    Alike (Turn.Parallel id start other) (closeStep step actionId status) fun _ => True := by
  refine alike_read_bind (fun _ _ parallel => by rw [parallel.scope, parallel.worlds.now])
    fun left _ _ => ?_
  refine alike_bind (Turn.onWorld_alike (World.plain_alike (.markFinished step _) own)) fun _ _ => ?_
  refine alike_bind (Turn.onWorld_alike (World.plain_alike (.moveToHistory step) own)) fun _ _ => ?_
  exact alike_done trivial

theorem enteredStep_alike (actionId : ActionId) (leaving : Option Step) (target : Target) :
    Alike (Turn.Parallel id start other) (enteredStep actionId leaving target) fun _ => True := by
  unfold enteredStep
  split
  · split
    · exact alike_ofOption fun _ _ => trivial
    · exact alike_done trivial
  · exact alike_fail _

theorem plannedStep_same {left right : Turn} (parallel : Turn.Parallel id start other left right)
    (outcome : Outcome) (defId : StepDefId) (previous : List StepId) :
    kit.plannedStep outcome defId previous left = kit.plannedStep outcome defId previous right := by
  unfold plannedStep
  rw [parallel.scope, parallel.properties, parallel.worlds.now]

section Transition

variable (functions : Extensions.Yields (fun _ => True) Function.Local kit.extensions.function)
  {leaving : Option Step} (own : ∀ step ∈ leaving, step.entryId = id)

include functions own

theorem enterStep_alike (outcome : Outcome) (actionId : ActionId) (closeLeaving : Bool)
    (previous : List StepId) :
    Alike (Turn.Parallel id start other)
      (kit.enterStep outcome actionId leaving closeLeaving previous) fun _ => True := by
  unfold enterStep
  refine alike_bind (enteredStep_alike _ _ _) fun defId _ => ?_
  refine alike_read_bind (fun _ _ parallel => by
    rw [parallel.scope, plannedStep_same parallel]) fun left _ parallel => ?_
  refine alike_bind (alike_ofOption fun _ _ => trivial) fun definition _ => ?_
  have landing : Alike (Turn.Parallel id start other) (do
      let created ← Turn.onWorld (World.createStep (kit.plannedStep outcome defId previous left))
      Turn.amendScope fun scope =>
        { scope with
          createdStep := some created
          currentSteps :=
            if leaving.isNone then scope.currentSteps ++ [created] else scope.currentSteps }
      kit.runFunctions definition.preFunctions) fun _ => True := by
    refine alike_bind (Turn.onWorld_alike (World.createStep_alike parallel.entry))
      fun created isOwn => ?_
    refine alike_bind (Turn.amendScope_alike (fun _ same => same) fun scope shown => ?_)
      fun _ _ => runFunctions_alike functions _
    intro step member
    dsimp only at member
    split at member
    · rcases List.mem_append.mp member with old | new
      · exact shown step old
      · exact List.mem_singleton.mp new ▸ isOwn
    · exact shown step member
  dsimp only
  split
  · cases leaving with
    | none => exact landing
    | some step =>
      refine alike_bind (oldStatus_alike outcome) fun status _ => ?_
      exact alike_bind (closeStep_alike (own step rfl) actionId status) fun _ _ => landing
  · exact landing

theorem takePlain_alike (action : Action) (outcome : Outcome) :
    Alike (Turn.Parallel id start other) (kit.takePlain action outcome leaving) fun _ => True := by
  unfold takePlain
  split
  · cases leaving with
    | none => exact alike_done trivial
    | some step =>
      refine alike_bind (oldStatus_alike outcome) fun status _ => ?_
      exact alike_bind (closeStep_alike (own step rfl) action.id status) fun _ _ =>
        alike_done trivial
  · exact enterStep_alike functions own _ _ _ _

theorem enterSiblings_alike (actionId : ActionId) (isFirst : Bool) (outcomes : List Outcome) :
    Alike (Turn.Parallel id start other) (kit.enterSiblings actionId leaving isFirst outcomes)
      fun _ => True := by
  induction outcomes generalizing isFirst with
  | nil => exact alike_done trivial
  | cons outcome rest ih =>
    exact alike_andThen (enterStep_alike functions own _ _ _ _) fun _ _ => ih false

theorem takeSplit_alike (splitId : NodeId) (action : Action) :
    Alike (Turn.Parallel id start other) (kit.takeSplit splitId action leaving) fun _ => True := by
  unfold takeSplit
  refine alike_bind Turn.scopeNow_alike fun scope _ => ?_
  refine alike_bind (alike_ofOption fun _ _ => trivial) fun split _ => ?_
  refine alike_bind (runValidators_alike _) fun _ _ => ?_
  refine alike_bind (runFunctions_alike functions _) fun _ _ => ?_
  have after : Alike (Turn.Parallel id start other) _ _ :=
    runFunctions_alike functions (split.outcomes.flatMap (·.postFunctions))
  dsimp only
  split
  · exact alike_bind (enterSiblings_alike functions own _ _ _) fun _ _ => after
  · exact after

omit functions own in
theorem showBranches_alike (branches : Option Branches) :
    Alike (Turn.Parallel id start other) (showBranches branches) fun _ => True :=
  Turn.amendScope_alike (fun _ same => same) fun _ shown => shown

omit functions own in
theorem retire_alike {steps : List Step} (own : ∀ step ∈ steps, step.entryId = id) :
    Alike (Turn.Parallel id start other) (retire steps) fun _ => True :=
  alike_each fun step member =>
    Turn.onWorld_alike (World.plain_alike (.moveToHistory step) (own step member))

omit functions in
theorem arrive_alike (action : Action) (outcome : Outcome) :
    Alike (Turn.Parallel id start other) (takeJoin.arrive kit action outcome leaving)
      fun _ => True := by
  unfold takeJoin.arrive
  cases leaving with
  | none => exact alike_done trivial
  | some step =>
    refine alike_bind (oldStatus_alike outcome) fun status _ => ?_
    exact alike_bind (closeStep_alike (own step rfl) _ _) fun _ _ => alike_done trivial

theorem takeJoin_alike (joinId : NodeId) (action : Action) (outcome : Outcome) :
    Alike (Turn.Parallel id start other) (kit.takeJoin joinId action outcome leaving)
      fun _ => True := by
  unfold takeJoin
  refine alike_bind Turn.scopeNow_alike fun scope shown => ?_
  refine alike_bind (alike_ofOption fun _ _ => trivial) fun join _ => ?_
  refine alike_bind (alike_ofOption fun _ _ => trivial) fun joined _ => ?_
  refine alike_bind (arrive_alike own action outcome) fun arrived _ => ?_
  have looks : Alike (World.Parallel id start other) (World.historySteps scope.entry.id) _ :=
    World.plain_alike (.historySteps scope.entry.id) shown.1
  refine alike_bind (Turn.onWorld_alike looks) fun history _ => ?_
  refine alike_bind (showBranches_alike _) fun _ _ => ?_
  refine alike_bind (passesNow_alike _ _) fun passed _ => ?_
  have hides : Alike (Turn.Parallel id start other) _ _ := showBranches_alike none
  dsimp only
  split
  · refine alike_bind (runValidators_alike _) fun _ _ => ?_
    refine alike_bind (runFunctions_alike functions _) fun _ _ => ?_
    refine alike_bind (retire_alike fun step member => shown.2 step (List.mem_of_mem_filter member))
      fun _ _ => ?_
    have after := alike_bind (runFunctions_alike functions joined.postFunctions) fun _ _ => hides
    split
    · exact alike_bind (enterStep_alike functions own _ _ _ _) fun _ _ => after
    · exact after
  · exact hides

theorem takeOutcome_alike (action : Action) (outcome : Outcome) :
    Alike (Turn.Parallel id start other) (kit.takeOutcome action outcome leaving)
      fun _ => True := by
  unfold takeOutcome
  split
  · exact takeSplit_alike functions own _ _
  · exact takeJoin_alike functions own _ _ _
  · exact takePlain_alike functions own _ _

omit own in
theorem leaveStep_alike (blueprint : Blueprint) (leaving : Option Step) :
    Alike (Turn.Parallel id start other) (kit.leaveStep blueprint leaving) fun _ => True := by
  cases leaving with
  | none => exact alike_done trivial
  | some step =>
    exact alike_bind (alike_ofOption fun _ _ => trivial) fun _ _ => runFunctions_alike functions _

omit functions own in
theorem activate_alike (declared : ActionScope) :
    Alike (Turn.Parallel id start other) (kit.activate id declared) fun _ => True := by
  unfold activate
  refine alike_bind Turn.scopeNow_alike fun scope _ => ?_
  split
  · refine alike_bind (Turn.onWorld_alike (Lifecycle.move_alike _ _ _ _)) fun _ _ => ?_
    exact Turn.amendScope_alike (fun _ same => same) fun _ shown => shown
  · exact alike_done trivial

omit functions own in
theorem finish_alike (action : Action) :
    Alike (Turn.Parallel id start other) (kit.finish id action) fun _ => True := by
  unfold finish
  split
  · refine alike_bind Turn.scopeNow_alike fun scope _ => ?_
    refine alike_bind (Turn.onWorld_alike (Lifecycle.move_alike _ _ _ _)) fun _ _ => ?_
    refine alike_bind (Turn.amendScope_alike (fun _ same => same) fun _ shown => shown)
      fun _ _ => alike_done trivial
  · exact alike_done trivial

omit own in
/-- The execution of an action on the entry cannot tell the turns apart. -/
theorem execute_alike (chosen : ScopedAction) :
    Alike (Turn.Parallel id start other) (kit.execute chosen) fun _ => True := by
  have runs (calls : List Call) :
      Alike (Turn.Parallel id start other) (kit.runFunctions calls) fun _ => True :=
    runFunctions_alike functions calls
  have checks (calls : List Call) :
      Alike (Turn.Parallel id start other) (kit.runValidators calls) fun _ => True :=
    runValidators_alike calls
  have begins (key : ActionKey) :
      Alike (World.Parallel id start other) (World.record (.actionBegun id key)) fun _ => True :=
    alike_change fun _ _ parallel => parallel.note _
  unfold execute
  refine alike_bind Turn.scopeNow_alike fun scope shown => ?_
  obtain ⟨here, -⟩ := shown
  dsimp only
  rw [here]
  refine alike_bind (Turn.onWorld_alike (begins _)) fun _ _ => ?_
  refine alike_bind (Turn.amendScope_alike (fun _ same => same) fun _ shown => shown) fun _ _ => ?_
  refine alike_bind (leavingStep_alike _) fun leaving own => ?_
  refine alike_bind (checks _) fun _ _ => ?_
  refine alike_bind (leaveStep_alike functions _ _) fun _ _ => ?_
  refine alike_bind (runs _) fun _ _ => ?_
  refine alike_bind (selectOutcome_alike _ _) fun outcome _ => ?_
  refine alike_bind (checks _) fun _ _ => ?_
  refine alike_bind (runs _) fun _ _ => ?_
  refine alike_bind (takeOutcome_alike functions own _ _) fun _ _ => ?_
  refine alike_bind (runs _) fun _ _ => ?_
  refine alike_bind (runs _) fun _ _ => ?_
  exact alike_bind (activate_alike _) fun _ _ => finish_alike _

end Transition

end Toolkit

/-! ### Calls -/

namespace Engine

variable {engine : Engine} {id : EntryId} {start other : World} {inputs : Values}

/-- A turn begins in parallel where its world does. -/
theorem turn_alike {α : Type} {fact : α → Prop} {scope : Scope} {computation : Run Turn α}
    (here : scope.entry.id = id) (shown : ∀ step ∈ scope.currentSteps, step.entryId = id)
    (alike : Alike (Turn.Parallel id start other) computation fact) :
    Alike (World.Parallel id start other) (turn scope id computation) fact := by
  intro left right worlds
  obtain ⟨same, turns, holds⟩ := alike { world := left, scope, home := id }
    { world := right, scope, home := id } ⟨worlds, rfl, rfl, rfl, rfl, here, shown⟩
  exact ⟨same, turns.worlds, holds⟩

/-- The scope of a call shows the entry and the steps that it is built from. -/
theorem scope_alike (properties : Values) (entry : Entry) (blueprint : Blueprint)
    (steps : List Step) :
    Alike (World.Parallel id start other) (engine.scope properties entry blueprint steps inputs)
      fun scope => scope.entry = entry ∧ scope.currentSteps = steps := by
  have looks : Alike (World.Parallel id start other)
      (engine.scope properties entry blueprint steps inputs) fun _ => True :=
    World.looks_alike (Toolkit.buildScope_looks engine.kit.extensions.refuses_any _ inputs)
  intro left right worlds
  obtain ⟨same, there, -⟩ := looks left right worlds
  refine ⟨same, there, fun scope answered => ?_⟩
  obtain ⟨bindings, built⟩ := Toolkit.buildScope_frame answered
  rw [built]
  exact ⟨rfl, rfl⟩

section Calls

variable (standard : engine.Standard)

theorem settle_alike (actionId : ActionId) (progress : Progress) :
    Alike (World.Parallel id start other) (engine.settle id actionId inputs progress)
      fun _ => True := by
  cases progress with
  | finished => exact alike_done trivial
  | continued =>
    unfold settle
    refine alike_bind World.findEntry_alike fun entry here => ?_
    split
    · exact alike_done trivial
    refine alike_bind (alike_ofExcept fun _ _ => trivial) fun blueprint _ => ?_
    refine alike_bind World.currentSteps_alike fun steps own => ?_
    split
    · exact alike_bind (Lifecycle.move_alike _ _ _ _) fun _ _ => alike_done trivial
    refine alike_bind (World.plain_alike (.properties id) rfl) fun properties _ => ?_
    refine alike_bind (scope_alike properties entry blueprint steps) fun scope built => ?_
    refine alike_bind (turn_alike (by rw [built.1, here]) (by rw [built.2]; exact own)
      (Toolkit.firstAvailable_alike _)) fun _ _ => alike_done trivial

include standard

theorem Standard.functions_local :
    Extensions.Yields (fun _ => True) Function.Local engine.kit.extensions.function :=
  standard ▸ Builtin.functions_local

theorem act_alike (actionId : ActionId) :
    Alike (World.Parallel id start other) (engine.act id inputs actionId) fun _ => True := by
  unfold act
  refine alike_bind World.findEntry_alike fun entry here => ?_
  split
  · exact alike_fail _
  refine alike_bind (alike_ofExcept fun _ _ => trivial) fun blueprint _ => ?_
  refine alike_bind World.currentSteps_alike fun steps own => ?_
  refine alike_bind (World.plain_alike (.properties id) rfl) fun properties _ => ?_
  refine alike_bind (scope_alike properties entry blueprint steps) fun scope built => ?_
  have executes : Alike (Turn.Parallel id start other) (do
      let found ← engine.kit.findRequested blueprint steps actionId
      let chosen ← Run.ofOption (.actionNotAvailable actionId id) found
      engine.kit.execute chosen) fun _ => True := by
    refine alike_bind (Toolkit.firstAvailable_alike _) fun found _ => ?_
    exact alike_bind (alike_ofOption fun _ _ => trivial) fun chosen _ =>
      Toolkit.execute_alike standard.functions_local chosen
  exact alike_bind (turn_alike (by rw [built.1, here]) (by rw [built.2]; exact own) executes)
    fun progress _ => settle_alike actionId progress

/-- So does the initial action of a new entry, which has no steps. -/
theorem runInitial_alike {entry : Entry} (here : entry.id = id) (blueprint : Blueprint)
    (action : Action) :
    Alike (World.Parallel id start other) (engine.runInitial entry blueprint action inputs)
      fun _ => True := by
  subst here
  unfold runInitial
  refine alike_bind (World.plain_alike (.properties entry.id) rfl) fun properties _ => ?_
  refine alike_bind (scope_alike properties entry blueprint []) fun scope built => ?_
  refine alike_bind (World.looks_alike (Toolkit.treePasses_looks
    engine.kit.extensions.refuses_any action.restriction)) fun allowed _ => ?_
  split
  · exact alike_fail _
  refine alike_bind (turn_alike (by rw [built.1]) (by rw [built.2]; exact List.forall_mem_nil _)
    (Toolkit.execute_alike standard.functions_local _)) fun progress _ => ?_
  exact settle_alike action.id progress

theorem chain_alike (limit : Nat) (next : Option ActionId) :
    Alike (World.Parallel id start other) (engine.chain id inputs limit next) fun _ => True := by
  induction limit generalizing next with
  | zero =>
    cases next with
    | none => exact alike_done trivial
    | some number => exact alike_fail _
  | succ limit ih =>
    cases next with
    | none => exact alike_done trivial
    | some number => exact alike_andThen (act_alike standard number) fun next _ => ih next

end Calls

end Engine

/-- The replies to one call in two worlds are the same, and the worlds after it show the same of the
entry again; all that was changed is that entry. -/
structure Reply.Parallel {α : Type} (id : EntryId) (left right : World) (reply other : Reply α) :
    Prop where
  result : reply.result = other.result
  rollback : reply.rollback = other.rollback
  worlds : World.Parallel id left right reply.world other.world

theorem Reply.parallel_ofRun {α : Type} {id : EntryId} {left right : World} (marks : Failure → Bool)
    {computation : Run World α}
    (alike : Alike (World.Parallel id left right) computation fun _ => True)
    (parallel : World.Parallel id left right left right) :
    Reply.Parallel id left right (.ofRun marks computation left) (.ofRun marks computation right) := by
  obtain ⟨same, worlds, -⟩ := alike left right parallel
  unfold Reply.ofRun
  revert same worlds
  generalize computation left = first
  generalize computation right = second
  intro same worlds
  obtain ⟨result, after⟩ := first
  obtain ⟨resultToo, afterToo⟩ := second
  obtain rfl : result = resultToo := same
  cases result with
  | ok value => exact ⟨rfl, rfl, worlds⟩
  | error failure => exact ⟨rfl, rfl, worlds⟩

namespace Engine

variable {engine : Engine} {id : EntryId}

section Isolation

variable {left right : World} (agree : World.Agree id left right) (filed : left.store.Filed id)

include agree filed

theorem doAction_parallel (standard : engine.Standard) (actionId : ActionId) (inputs : Values) :
    Reply.Parallel id left right (engine.doAction id actionId inputs left)
      (engine.doAction id actionId inputs right) := by
  refine Reply.parallel_ofRun _ ?_ (agree.parallel filed)
  exact alike_andThen (act_alike standard actionId) fun next _ => chain_alike standard _ next

theorem changeState_parallel (engine : Engine) (target : EntryState) :
    Reply.Parallel id left right (engine.changeState id target left)
      (engine.changeState id target right) := by
  refine Reply.parallel_ofRun _ ?_ (agree.parallel filed)
  exact alike_bind (Lifecycle.move_alike _ _ _ _) fun _ _ => alike_done trivial

/-- A call on an entry reads and writes that entry only, whether it succeeds or fails and whatever
actions follow on their own. In two worlds that agree on the entry and on the number of the next
step it comes to the same, and they agree again after it; nothing of any other entry has
changed. -/
theorem calls_isolated (standard : engine.Standard) :
    (∀ actionId inputs, Reply.Parallel id left right (engine.doAction id actionId inputs left)
      (engine.doAction id actionId inputs right)) ∧
    ∀ target, Reply.Parallel id left right (engine.changeState id target left)
      (engine.changeState id target right) :=
  ⟨doAction_parallel agree filed standard, engine.changeState_parallel agree filed⟩

end Isolation

end Engine

/-- Two entries of the relay. -/
def relayPair : World :=
  relayEngine.perform relayWorld (.start "relay" 1 ∅)

/-- The same, once the second entry was completed. -/
def relayAlone : World :=
  relayEngine.perform relayPair (.changeState 2 .completed)

private theorem relayEngine_standard : relayEngine.Standard := rfl

private theorem relayPair_orderly : Orderly relayPair.store relayPair.journal := by
  have leads : World.Leads {} relayPair :=
    .call (.call .here relayEngine_standard _) relayEngine_standard _
  exact World.Reachable.orderly ⟨{}, ⟨0, 0⟩, leads⟩

private theorem relayPair_inOrder : relayPair.outages.verdict = fun _ _ => none := by
  have started : Orderly relayWorld.store relayWorld.journal :=
    World.Reachable.orderly ⟨{}, ⟨0, 0⟩, .call .here relayEngine_standard _⟩
  have new : Orderly ({} : World).store ({} : World).journal := .new
  unfold relayPair
  rw [Engine.perform_verdict relayEngine_standard started]
  unfold relayWorld
  rw [Engine.perform_verdict relayEngine_standard new]

private theorem relayPair_agrees : World.Agree 1 relayPair relayAlone := by
  have others : relayAlone.store.record? 1 = relayPair.store.record? 1 := by
    have call := relayEngine.changeState_parallel (.refl 2 relayPair) (relayPair_orderly.filed 2)
      .completed
    unfold relayAlone Engine.perform
    exact call.worlds.leaves 1 (by decide)
  refine ⟨⟨others.symm, by decide +kernel⟩, fun method passed => ?_, by decide +kernel⟩
  unfold relayAlone
  rw [Engine.perform_verdict relayEngine_standard relayPair_orderly, relayPair_inOrder]

/-- The relay of the first entry runs past the second one, whatever has become of that. -/
theorem relay_isolated :
    World.Agree 1 relayPair relayAlone ∧ relayPair.store.Filed 1 ∧
      ((relayPair.store.findEntry? 2).map (·.state) = some .activated ∧
        (relayAlone.store.findEntry? 2).map (·.state) = some .completed) ∧
      Reply.Parallel 1 relayPair relayAlone (relayEngine.doAction 1 10 ∅ relayPair)
        (relayEngine.doAction 1 10 ∅ relayAlone) ∧
      (relayEngine.doAction 1 10 ∅ relayPair).result = .ok () := by
  have filed : relayPair.store.Filed 1 := relayPair_orderly.filed 1
  have isolated := Engine.calls_isolated relayPair_agrees filed relayEngine_standard
  refine ⟨relayPair_agrees, filed, ⟨by decide +kernel, by decide +kernel⟩, isolated.1 10 ∅, ?_⟩
  exact ok_of_eval (by decide +kernel)

end Caseflow
