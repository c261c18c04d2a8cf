import Caseflow.Proofs.Gatherings
import Caseflow.Proofs.Stages
/-! The functions that a computation calls. The journal of a turn tells of every call of a
function, in order. Most parts of an execution call none; those that do call the functions that the
blueprint lists, one after another, and a part that fails has called the first of them. So the
functions of a sequence are those of its parts, put together. -/
namespace Caseflow

open Run

/-- The event tells of the call of a function. -/
def Event.isFunctionCall : Event → Bool
  | .extensionCalled .function _ _ _ => true
  | _ => false

/-- A change of the store is no call. -/
theorem StoreRequest.events_calm (request : StoreRequest) (answer : request.Answer) :
    ∀ event ∈ request.events answer, Event.isFunctionCall event = false := by
  intro event member
  cases request with
  | createEntry | setEntryState | createStep | markFinished | moveToHistory =>
    obtain rfl := List.mem_singleton.mp member
    rfl
  | findEntry | currentSteps | historySteps | properties | query => cases member

/-! ### What calls no function -/

namespace World

variable {start world after : World}

/-- Since `start` no function has been called. -/
def Calm (start world : World) : Prop :=
  ∃ events, world.journal = start.journal ++ events ∧
    ∀ event ∈ events, Event.isFunctionCall event = false

theorem Calm.refl (world : World) : world.Calm world :=
  ⟨[], (List.append_nil _).symm, by simp⟩

theorem Calm.grown {events : List Event} (calm : start.Calm world)
    (journal : after.journal = world.journal ++ events)
    (none : ∀ event ∈ events, Event.isFunctionCall event = false) : start.Calm after := by
  obtain ⟨earlier, told, areNone⟩ := calm
  refine ⟨earlier ++ events, by rw [journal, told, List.append_assoc], fun event member => ?_⟩
  exact (List.mem_append.mp member).elim (areNone event) (none event)

/-- Whether it succeeds or fails, the computation calls no function. -/
abbrev StaysCalm {α : Type} (start : World) (computation : Run World α) : Prop :=
  Keeps start.Calm (fun _ => True) computation

theorem record_calm {event : Event} (isNone : Event.isFunctionCall event = false) :
    start.StaysCalm (World.record event) :=
  keeps_change fun _ calm => calm.grown rfl (by simpa using isNone)

theorem request_calm (request : StoreRequest) : start.StaysCalm (Run.request request) := by
  refine keeps_request (fun _ => trivial) fun world answer after calm served => ?_
  cases served with
  | refused | absent => exact calm.grown (List.append_nil _).symm (by simp)
  | answered value store done => exact calm.grown rfl (request.events_calm value)

theorem move_calm (finishedStatus : String) (entryId : EntryId) (target : EntryState)
    (actionId : ActionId) (caller : Option String) :
    start.StaysCalm (Lifecycle.move finishedStatus entryId target actionId caller) :=
  Lifecycle.move_keeps (fun _ => trivial) (fun _ _ _ => trivial) (fun request _ => request_calm request)
    _ _ _ _ _

end World

namespace Toolkit

variable {kit : Toolkit} {start : World} {scope : Scope} {properties : Values} {stepId : StepDefId}

theorem callValidator_calm (type : String) (args : Args) :
    start.StaysCalm (kit.callValidator scope properties type args) :=
  keeps_ofExcept_bind (fun _ _ => trivial) fun _ _ =>
    keeps_bind (World.record_calm rfl) fun _ => keeps_ofExcept fun _ _ => trivial

theorem checkPasses_calm (check : Check) :
    start.StaysCalm (kit.checkPasses scope properties stepId check) := by
  refine keeps_bind (keeps_ofExcept_bind (fun _ _ => trivial) fun _ _ => ?_) fun _ => keeps_pure _
  exact keeps_bind (World.record_calm rfl) fun _ => keeps_ofExcept fun _ _ => trivial

mutual

theorem conditionPasses_calm : (condition : Condition) →
    start.StaysCalm (kit.conditionPasses scope properties stepId condition)
  | .leaf check => by
    rw [conditionPasses]
    exact checkPasses_calm check
  | .group combinator [] => by
    rw [conditionPasses]
    exact keeps_done true
  | .group combinator (child :: rest) => by
    rw [conditionPasses]
    · exact childrenPass_calm combinator (child :: rest)
    · simp

theorem childrenPass_calm (combinator : Combinator) : (children : List Condition) →
    start.StaysCalm (kit.childrenPass scope properties stepId combinator children)
  | [] => by
    rw [childrenPass]
    exact keeps_done _
  | child :: rest => by
    rw [childrenPass]
    refine keeps_andThen (conditionPasses_calm child) fun passed => ?_
    split
    · exact keeps_done false
    · exact keeps_done true
    · exact childrenPass_calm combinator rest

end

theorem treePasses_calm : (tree : Option Conditions) →
    start.StaysCalm (kit.treePasses scope properties stepId tree)
  | none => keeps_done true
  | some tree => conditionPasses_calm tree.nested

theorem mayFire_calm (action : Action) :
    start.StaysCalm (kit.mayFire scope properties stepId action) := by
  refine keeps_bind (treePasses_calm _) fun allowed => ?_
  cases allowed with
  | true => exact treePasses_calm _
  | false => exact keeps_pure false

end Toolkit

namespace Turn

variable {start turn : Turn} {α : Type}

/-- Since `start` no function has been called, and the workflow is the same. -/
structure Calm (start turn : Turn) : Prop where
  blueprint : turn.scope.blueprint = start.scope.blueprint
  world : start.world.Calm turn.world

theorem Calm.refl (turn : Turn) : turn.Calm turn :=
  ⟨rfl, .refl _⟩

/-- Whether it succeeds or fails, the computation calls no function. -/
abbrev StaysCalm {α : Type} (start : Turn) (computation : Run Turn α) : Prop :=
  Keeps start.Calm (fun _ => True) computation

theorem onWorld_calm {computation : Run World α}
    (calm : start.world.StaysCalm computation) : start.StaysCalm (onWorld computation) :=
  meets_within fun _ held => meets_mono calm (fun _ same => same ▸ held.world)
    (fun _ _ ends => ⟨held.blueprint, ends⟩) fun _ _ ends => ⟨⟨held.blueprint, ends.1⟩, trivial⟩

theorem amendScope_calm {amend : Scope → Scope}
    (same : ∀ scope, (amend scope).blueprint = scope.blueprint) :
    start.StaysCalm (amendScope amend) :=
  keeps_change fun turn calm => ⟨(same turn.scope).trans calm.blueprint, calm.world⟩

theorem request_calm (request : StoreRequest) :
    start.StaysCalm (onWorld (Run.request request)) :=
  onWorld_calm (World.request_calm request)

end Turn

/-- Of the scope the program changes variables only. -/
inductive Program.Confined : Program → Prop
  | done : Confined .done
  | fail (failure : Failure) : Confined (.fail failure)
  | look {next : Scope → Values → Program}
      (rest : ∀ scope properties, Confined (next scope properties)) : Confined (.look next)
  | amend {change : Scope → Scope} {next : Program}
      (within : ∀ scope, ∃ bindings, change scope = { scope with bindings })
      (rest : Confined next) : Confined (.amend change next)
  | putProperty {name : String} {value : Json} {next : Program} (rest : Confined next) :
      Confined (.putProperty name value next)
  | dropProperty {name : String} {next : Program} (rest : Confined next) :
      Confined (.dropProperty name next)
  | ask {request : StoreRequest} {next : Except StoreError request.Answer → Program}
      (rest : ∀ answer, Confined (next answer)) : Confined (.ask request next)

theorem Program.Modest.confined {admitted : Failure → Prop} {program : Program}
    (modest : program.Modest admitted) : program.Confined := by
  induction modest with
  | done => exact .done
  | fail allowed => exact .fail _
  | look rest ih => exact .look ih
  | assign rest ih => exact .amend (fun _ => ⟨_, rfl⟩) ih
  | putProperty rest ih => exact .putProperty ih
  | dropProperty rest ih => exact .dropProperty ih
  | history rest ih => exact .ask ih

/-- Of the scope the functions among the extensions change variables only. -/
def Extensions.Confined (extensions : Extensions) : Prop :=
  Extensions.Yields (fun _ => True) (fun function => ∀ given, (function given).Confined)
    extensions.function

theorem Extensions.Modest.confined {admitted : ExtensionKind → Failure → Prop}
    {extensions : Extensions} (modest : extensions.Modest admitted) : extensions.Confined :=
  (modest.functions.widen fun _ _ => trivial).mono fun _ programs given => (programs given).confined

/-- A function calls no function. -/
theorem Turn.perform_calm {start : Turn} {program : Program} (confined : program.Confined) :
    start.StaysCalm (Turn.perform program) := by
  induction confined with
  | done => exact keeps_done ()
  | fail failure => exact keeps_fail trivial
  | look rest ih => exact keeps_andThen keeps_read fun turn => ih turn.scope turn.properties
  | amend within rest ih =>
    refine keeps_andThen (Turn.amendScope_calm fun scope => ?_) fun _ => ih
    obtain ⟨bindings, same⟩ := within scope
    rw [same]
  | putProperty rest ih =>
    exact keeps_andThen (keeps_change fun _ calm => ⟨calm.blueprint, calm.world⟩) fun _ => ih
  | dropProperty rest ih =>
    exact keeps_andThen (keeps_change fun _ calm => ⟨calm.blueprint, calm.world⟩) fun _ => ih
  | @ask request next rest ih =>
    refine keeps_andThen (Turn.meets_answerOf fun turn answer after calm served => ?_) ih
    refine ⟨calm.blueprint, ?_⟩
    cases served with
    | refused | absent => exact calm.world.grown (List.append_nil _).symm (by simp)
    | answered value store done => exact calm.world.grown rfl (request.events_calm value)

namespace Toolkit

variable {kit : Toolkit} {start : Turn} {action : Action} {outcome : Outcome}
  {leaving : Option Step}

theorem runValidators_calm (calls : List Call) : start.StaysCalm (kit.runValidators calls) :=
  keeps_each fun _ _ => keeps_bind keeps_read fun _ => Turn.onWorld_calm (callValidator_calm _ _)

theorem passesNow_calm (tree : Option Conditions) (stepId : StepDefId) :
    start.StaysCalm (kit.passesNow tree stepId) :=
  keeps_bind keeps_read fun _ => Turn.onWorld_calm (treePasses_calm _)

theorem isAvailable_calm (candidate : ScopedAction) (stepId : StepDefId) :
    start.StaysCalm (kit.isAvailable candidate stepId) := by
  unfold isAvailable
  refine keeps_bind keeps_read fun turn => ?_
  split
  · exact keeps_pure _
  · refine keeps_bind (Turn.onWorld_calm (mayFire_calm _)) fun _ => ?_
    exact keeps_bind (keeps_change fun _ calm => ⟨calm.blueprint, calm.world⟩) fun _ => keeps_pure _

theorem leavingStep_calm (actionId : ActionId) : start.StaysCalm (kit.leavingStep actionId) :=
  leavingStep_keeps isAvailable_calm actionId

theorem elect_calm (action : Action) (leaving : Option Step) :
    start.StaysCalm (kit.elect action leaving) :=
  keeps_mono (selectOutcome_keeps passesNow_calm action _) fun _ _ => trivial

theorem closeStep_calm (step : Step) (actionId : ActionId) (status : String) :
    start.StaysCalm (closeStep step actionId status) := by
  refine keeps_bind keeps_read fun turn => ?_
  refine keeps_bind (Turn.request_calm _) fun finished => ?_
  exact keeps_bind (Turn.request_calm _) fun _ => keeps_pure finished

theorem retire_calm (steps : List Step) : start.StaysCalm (retire steps) :=
  keeps_each fun _ _ => Turn.request_calm _

theorem showBranches_calm (branches : Option Branches) : start.StaysCalm (showBranches branches) :=
  Turn.amendScope_calm fun _ => rfl

theorem gather_calm (joinId : NodeId) (action : Action) (outcome : Outcome) (leaving : Option Step) :
    start.StaysCalm (kit.gather joinId action outcome leaving) := by
  have arrives : start.StaysCalm (takeJoin.arrive kit action outcome leaving) :=
    keeps_mono (arrive_keeps (fun step actionId status =>
      keeps_hook (closeStep_calm step actionId status)) action outcome leaving) fun _ _ => trivial
  unfold gather
  refine keeps_bind scopeNow_keeps fun scope => ?_
  refine keeps_bind (keeps_ofOption trivial) fun join => ?_
  refine keeps_bind (keeps_ofOption trivial) fun joined => ?_
  refine keeps_bind arrives fun arrived => ?_
  refine keeps_bind (Turn.request_calm _) fun history => ?_
  refine keeps_bind (showBranches_calm _) fun _ => ?_
  exact keeps_bind (passesNow_calm _ _) fun passed => keeps_pure _

/-- How the action leaves the state of the entry calls no function. -/
theorem settle_calm (entryId : EntryId) (declared : ActionScope) (action : Action) :
    start.StaysCalm (do
      kit.activate entryId declared
      kit.finish entryId action) := by
  have moves (finishedStatus : String) (entryId : EntryId) (target : EntryState)
      (actionId : ActionId) (caller : Option String) : start.StaysCalm (do
        let _ ← Turn.onWorld (Lifecycle.move finishedStatus entryId target actionId caller)
        Turn.amendScope fun scope =>
          { scope with entry := { scope.entry with state := target } }) :=
    keeps_bind (Turn.onWorld_calm (World.move_calm _ _ _ _ _)) fun _ =>
      Turn.amendScope_calm fun _ => rfl
  exact keeps_bind (activate_keeps moves _ _) fun _ => finish_keeps moves _ _

end Toolkit

/-! ### What calls functions -/

namespace Toolkit

/-- The event tells of the call of the function, with its arguments as they read in some scope. -/
def Invokes (kit : Toolkit) (call : Call) (event : Event) : Prop :=
  ∃ scope properties,
    event = .extensionCalled .function call.type (kit.resolver.args scope properties call.args) scope.view

/-- Since `start` just these functions have been called, in this order, and the workflow is the
same. -/
structure Called (kit : Toolkit) (start : Turn) (calls : List Call) (turn : Turn) : Prop where
  blueprint : turn.scope.blueprint = start.scope.blueprint
  journal : ∃ events, turn.world.journal = start.world.journal ++ events ∧
    List.Forall₂ kit.Invokes calls (events.filter Event.isFunctionCall)

/-- Started in the turn, the computation calls just these functions, in this order. If it fails, it
has called the first of them. -/
def Calls {α : Type} (kit : Toolkit) (calls : List Call) (computation : Run Turn α) (turn : Turn) :
    Prop :=
  match computation turn with
  | (.ok _, after) => kit.Called turn calls after
  | (.error _, after) => ∃ first, first <+: calls ∧ kit.Called turn first after

variable {kit : Toolkit} {start turn middle after : Turn} {calls more : List Call} {α β : Type}

theorem called_of_calm (calm : start.Calm turn) : kit.Called start [] turn := by
  obtain ⟨events, journal, areNone⟩ := calm.world
  refine ⟨calm.blueprint, events, journal, ?_⟩
  rw [List.filter_eq_nil_iff.mpr fun event member => by simp [areNone event member]]
  exact .nil

theorem Called.trans (first : kit.Called start calls middle) (rest : kit.Called middle more after) :
    kit.Called start (calls ++ more) after := by
  obtain ⟨events, journal, made⟩ := first.journal
  obtain ⟨later, journalLater, madeLater⟩ := rest.journal
  refine ⟨rest.blueprint.trans first.blueprint, events ++ later, ?_, ?_⟩
  · rw [journalLater, journal, List.append_assoc]
  · rw [List.filter_append]
    exact List.rel_append made madeLater

namespace Calls

theorem answer {computation : Run Turn α} {value : α}
    (makes : kit.Calls calls computation turn) (ran : computation turn = (.ok value, after)) :
    kit.Called turn calls after := by
  unfold Calls at makes
  rw [ran] at makes
  exact makes

theorem failure {computation : Run Turn α} {failure : Failure}
    (makes : kit.Calls calls computation turn) (ran : computation turn = (.error failure, after)) :
    ∃ first, first <+: calls ∧ kit.Called turn first after := by
  unfold Calls at makes
  rw [ran] at makes
  exact makes

/-- A computation is known by how it ends. -/
theorem of_ends {computation : Run Turn α}
    (answers : ∀ value after, computation turn = (.ok value, after) → kit.Called turn calls after)
    (failures : ∀ failure after, computation turn = (.error failure, after) →
      ∃ first, first <+: calls ∧ kit.Called turn first after) :
    kit.Calls calls computation turn := by
  unfold Calls
  cases ran : computation turn with
  | mk result after =>
    cases result with
    | ok value => exact answers value after ran
    | error failure => exact failures failure after ran

/-- Where no function is called, the list of them is empty. -/
theorem of_calm {computation : Run Turn α} (calm : turn.StaysCalm computation) :
    kit.Calls [] computation turn := by
  refine of_ends (fun value after ran => ?_) fun failure after ran => ⟨[], List.nil_prefix, ?_⟩
  · exact called_of_calm (calm.answer (.refl _) ran)
  · exact called_of_calm (calm.failure (.refl _) ran).1

/-- What fails at once calls the first none of any functions. -/
theorem of_fail (failure : Failure) (calls : List Call) :
    kit.Calls calls (fail failure : Run Turn α) turn :=
  ⟨[], List.nil_prefix, called_of_calm (.refl _)⟩

/-- The functions of a sequence are those of the first part and those of the rest, where it comes
to the rest. -/
theorem bind {first : Run Turn α} {next : α → Run Turn β} (begins : kit.Calls calls first turn)
    (rest : ∀ value middle, first turn = (.ok value, middle) → kit.Calls more (next value) middle) :
    kit.Calls (calls ++ more) (first >>= next) turn := by
  refine of_ends (fun value after ran => ?_) fun failure after ran => ?_
  · obtain ⟨answer, middle, reached, follows⟩ := of_andThen_ok ran
    exact (begins.answer reached).trans ((rest answer middle reached).answer follows)
  · rcases of_andThen_error ran with early | ⟨answer, middle, reached, late⟩
    · obtain ⟨made, among, called⟩ := begins.failure early
      exact ⟨made, among.trans (List.prefix_append _ _), called⟩
    · obtain ⟨made, among, called⟩ := (rest answer middle reached).failure late
      exact ⟨calls ++ made, (List.prefix_append_right_inj _).mpr among,
        (begins.answer reached).trans called⟩

/-- A part that calls nothing may come first. -/
theorem calm_bind {first : Run Turn α} {next : α → Run Turn β} (calm : turn.StaysCalm first)
    (rest : ∀ value middle, first turn = (.ok value, middle) → kit.Calls calls (next value) middle) :
    kit.Calls calls (first >>= next) turn :=
  bind (of_calm calm) rest

/-- A part that calls nothing may come last. -/
theorem bind_calm {first : Run Turn α} {next : α → Run Turn β} (begins : kit.Calls calls first turn)
    (calm : ∀ value turn, Turn.StaysCalm turn (next value)) :
    kit.Calls calls (first >>= next) turn := by
  have all := bind begins fun value middle _ => of_calm (calm value middle)
  rwa [List.append_nil] at all

/-- What is there is gone on with. -/
theorem ofOption_bind {failure : Failure} {found : Option α} {next : α → Run Turn β}
    (rest : ∀ value, found = some value → kit.Calls calls (next value) turn) :
    kit.Calls calls (ofOption failure found >>= next) turn := by
  cases found with
  | some value => exact rest value rfl
  | none => exact of_fail failure calls

/-- What is made is gone on with. -/
theorem ofExcept_bind {result : Except Failure α} {next : α → Run Turn β}
    (rest : ∀ value, result = .ok value → kit.Calls calls (next value) turn) :
    kit.Calls calls (ofExcept result >>= next) turn := by
  cases result with
  | ok value => exact rest value rfl
  | error failure => exact of_fail failure calls

/-- What reads the turn goes on with it. -/
theorem read_bind {next : Turn → Run Turn β} (rest : kit.Calls calls (next turn) turn) :
    kit.Calls calls (read >>= next) turn :=
  rest

theorem scopeNow_bind {next : Scope → Run Turn β} (rest : kit.Calls calls (next turn.scope) turn) :
    kit.Calls calls (Turn.scopeNow >>= next) turn :=
  rest

end Calls

section Functions

variable (confined : kit.extensions.Confined)

include confined

/-- A function that is called is told by the journal. -/
theorem call_calls (call : Call) (turn : Turn) : kit.Calls [call] (do
    let turn ← Run.read
    kit.callFunction call.type (kit.resolver.args turn.scope turn.properties call.args)) turn := by
  unfold callFunction
  refine .read_bind (.scopeNow_bind (.ofExcept_bind fun function made => ?_))
  refine .bind_calm ?_ fun _ turn => Turn.perform_calm (confined.of_ok made _)
  exact ⟨rfl, _, rfl, .cons ⟨turn.scope, turn.properties, rfl⟩ .nil⟩

theorem runFunctions_calls (calls : List Call) (turn : Turn) :
    kit.Calls calls (kit.runFunctions calls) turn := by
  unfold runFunctions
  induction calls generalizing turn with
  | nil => exact .of_calm (keeps_done ())
  | cons call rest ih =>
    have first := call_calls confined call turn
    exact first.bind fun _ middle _ => ih middle

end Functions

end Toolkit

end Caseflow
