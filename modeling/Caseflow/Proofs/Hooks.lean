import Caseflow.Engine.Selection
import Caseflow.Engine.Transition
import Caseflow.Proofs.Fitting
import Caseflow.Proofs.Looking
/-! What hooks do to a turn. Functions of the modest kind set variables and properties and read the
history; guards and validators only look. So between two steps of a transition everything but the
variables, the properties of the entry and the notes on calls stays as it was, and a property of
turns that does not depend on those is kept by every hook. -/
namespace Caseflow

/-- The program sets variables and properties, reads the scope, the properties and the history, and
does nothing else; what it fails with of its own is admitted. -/
inductive Program.Modest (admitted : Failure → Prop) : Program → Prop where
  | done : Modest admitted .done
  | fail {failure : Failure} (allowed : admitted failure) : Modest admitted (.fail failure)
  | look {next : Scope → Values → Program}
      (rest : ∀ scope properties, Modest admitted (next scope properties)) :
      Modest admitted (.look next)
  | assign {name : String} {value : Json} {next : Program} (rest : Modest admitted next) :
      Modest admitted (.amend (·.assign name value) next)
  | putProperty {name : String} {value : Json} {next : Program} (rest : Modest admitted next) :
      Modest admitted (.putProperty name value next)
  | dropProperty {name : String} {next : Program} (rest : Modest admitted next) :
      Modest admitted (.dropProperty name next)
  | history {entry : EntryId} {next : Except StoreError (List Step) → Program}
      (rest : ∀ answer, Modest admitted (next answer)) :
      Modest admitted (.ask (.historySteps entry) next)

/-- The extensions refuse in admitted ways, and their functions run modest programs. -/
structure Extensions.Modest (admitted : ExtensionKind → Failure → Prop) (extensions : Extensions) :
    Prop extends extensions.Refuses admitted where
  functions : Extensions.Yields (admitted .function)
    (fun function => ∀ given, (function given).Modest (admitted .function)) extensions.function

namespace Turn

/-- What hooks may change: variables, properties of the entry at hand, notes on calls, and what is
known about the availability of actions. -/
structure Hooked (before after : Turn) : Prop where
  home : after.home = before.home
  scope : ∃ bindings, after.scope = { before.scope with bindings }
  store : ∃ change, after.world.store = before.world.store.modifyProperties before.home change
  now : after.world.now = before.world.now
  verdict : after.world.outages.verdict = before.world.outages.verdict
  journal : ∃ calls, after.world.journal = before.world.journal ++ calls ∧
    ∀ event ∈ calls, Event.isCall event = true
  proceeds : before.world.Proceeds after.world

theorem Hooked.refl (turn : Turn) : Hooked turn turn where
  home := rfl
  scope := ⟨_, rfl⟩
  store := ⟨_, (Store.modifyProperties_id _).symm⟩
  now := rfl
  verdict := rfl
  journal := ⟨[], (List.append_nil _).symm, by simp⟩
  proceeds := .here

theorem Hooked.trans {first second third : Turn} (left : Hooked first second)
    (right : Hooked second third) : Hooked first third where
  home := right.home.trans left.home
  scope := by
    obtain ⟨_, set⟩ := left.scope
    obtain ⟨bindings, setAgain⟩ := right.scope
    exact ⟨bindings, by rw [setAgain, set]⟩
  store := by
    obtain ⟨_, changed⟩ := left.store
    obtain ⟨_, changedAgain⟩ := right.store
    exact ⟨_, by rw [changedAgain, changed, left.home, Store.modifyProperties_modifyProperties]⟩
  now := right.now.trans left.now
  verdict := right.verdict.trans left.verdict
  journal := by
    obtain ⟨calls, noted, areCalls⟩ := left.journal
    obtain ⟨more, notedMore, areMore⟩ := right.journal
    refine ⟨calls ++ more, by rw [notedMore, noted, List.append_assoc], fun event member => ?_⟩
    exact (List.mem_append.mp member).elim (areCalls event) (areMore event)
  proceeds := left.proceeds.trans right.proceeds

theorem hooked_note (turn : Turn) {calls : List Event}
    (noted : ∀ event ∈ calls, Event.isCall event = true) :
    Hooked turn { turn with world := turn.world.note calls } where
  home := rfl
  scope := ⟨_, rfl⟩
  store := ⟨_, (Store.modifyProperties_id _).symm⟩
  now := rfl
  verdict := rfl
  journal := ⟨calls, rfl, noted⟩
  proceeds := .noted .here calls

theorem hooked_known (turn : Turn) (known : Availability) :
    Hooked turn { turn with known } where
  home := rfl
  scope := ⟨_, rfl⟩
  store := ⟨_, (Store.modifyProperties_id _).symm⟩
  now := rfl
  verdict := rfl
  journal := ⟨[], (List.append_nil _).symm, by simp⟩
  proceeds := .here

theorem hooked_assign (turn : Turn) (name : String) (value : Json) :
    Hooked turn { turn with scope := turn.scope.assign name value } where
  home := rfl
  scope := ⟨_, rfl⟩
  store := ⟨_, (Store.modifyProperties_id _).symm⟩
  now := rfl
  verdict := rfl
  journal := ⟨[], (List.append_nil _).symm, by simp⟩
  proceeds := .here

theorem hooked_properties (turn : Turn) (change : Values → Values) :
    Hooked turn
      { turn with
        world := { turn.world with store := turn.world.store.modifyProperties turn.home change } }
    where
  home := rfl
  scope := ⟨_, rfl⟩
  store := ⟨_, rfl⟩
  now := rfl
  verdict := rfl
  journal := ⟨[], (List.append_nil _).symm, by simp⟩
  proceeds := .properties .here turn.home change

theorem hooked_history (turn : Turn) {entry : EntryId} {after : World}
    {answer : Except StoreError (StoreRequest.historySteps entry).Answer}
    (served : World.Served turn.world (.historySteps entry) answer after) :
    Hooked turn { turn with world := after } where
  home := rfl
  scope := ⟨_, rfl⟩
  store := ⟨_, (World.historySteps_served served).1.trans (Store.modifyProperties_id _).symm⟩
  now := World.now_of_served served
  verdict := World.verdict_of_served served
  journal := ⟨[], (World.historySteps_served served).2.1.trans (List.append_nil _).symm, by simp⟩
  proceeds := .asked .here (by trivial) served

/-- The property does not depend on what hooks change. -/
def Stable (kept : Turn → Prop) : Prop :=
  ∀ ⦃before after⦄, Hooked before after → kept before → kept after

open Run

variable {kept : Turn → Prop} {admitted : Failure → Prop} {α : Type}

theorem meets_answerOf {request : StoreRequest} {before : Turn → Prop}
    {answered : Except StoreError request.Answer → Turn → Prop} {failed : Failure → Turn → Prop}
    (answers : ∀ turn answer after, before turn → World.Served turn.world request answer after →
      answered answer { turn with world := after }) :
    Meets before (answerOf request) answered failed :=
  fun turn holds => answers turn _ _ holds (turn.world.ask_served request)

section Stable

variable (stable : Stable kept)

include stable

theorem keeps_onWorld_looks {computation : Run World α} (looks : Looks admitted computation) :
    Keeps kept admitted (onWorld computation) := by
  obtain ⟨answer, calls, noted, allowed, reached⟩ := looks
  refine meets_within fun turn holds => ?_
  rintro _ rfl
  have after := stable (hooked_note turn noted) holds
  rw [reached]
  cases answer with
  | ok value => exact after
  | error failure => exact ⟨after, allowed failure rfl⟩

/-- A modest program is a hook. -/
theorem perform_keeps {program : Program} (modest : program.Modest admitted) :
    Keeps kept admitted (perform program) := by
  induction modest with
  | done => exact keeps_done ()
  | fail allowed => exact keeps_fail allowed
  | look rest ih => exact keeps_andThen keeps_read fun turn => ih turn.scope turn.properties
  | assign rest ih =>
    refine keeps_andThen (keeps_change fun turn holds => ?_) fun _ => ih
    exact stable (hooked_assign turn _ _) holds
  | putProperty rest ih =>
    refine keeps_andThen (keeps_change fun turn holds => ?_) fun _ => ih
    exact stable (hooked_properties turn _) holds
  | dropProperty rest ih =>
    refine keeps_andThen (keeps_change fun turn holds => ?_) fun _ => ih
    exact stable (hooked_properties turn _) holds
  | history rest ih =>
    refine keeps_andThen (meets_answerOf fun turn answer after holds served => ?_) ih
    exact stable (hooked_history turn served) holds

end Stable

end Turn

namespace Toolkit

open Run

variable {kit : Toolkit} {admitted : ExtensionKind → Failure → Prop} {kept : Turn → Prop}

theorem scopeNow_keeps {refused : Failure → Prop} : Keeps kept refused Turn.scopeNow :=
  keeps_bind keeps_read fun turn => keeps_pure turn.scope

theorem textNow_keeps {refused : Failure → Prop} (template : String) :
    Keeps kept refused (kit.textNow template) :=
  keeps_bind keeps_read fun turn => keeps_pure (kit.resolver.text turn.scope turn.properties template)

theorem oldStatus_keeps {refused : Failure → Prop} (outcome : Outcome) :
    Keeps kept refused (kit.oldStatus outcome) := by
  unfold oldStatus
  exact keeps_bind (textNow_keeps _) fun _ => keeps_pure _

section Functions

variable {refused : Failure → Prop} (stable : Turn.Stable kept)
  (functions : Extensions.Yields refused
    (fun function => ∀ given, Keeps kept refused (Turn.perform (function given)))
    kit.extensions.function)

include stable functions

theorem callFunction_keeps (type : String) (args : Args) :
    Keeps kept refused (kit.callFunction type args) := by
  unfold callFunction
  refine keeps_bind scopeNow_keeps fun scope => ?_
  refine keeps_ofExcept_bind (functions.of_error type args) fun function made => ?_
  refine keeps_bind (Turn.keeps_onWorld_looks stable (looks_record_call _ _ _ _)) fun _ => ?_
  exact functions.of_ok made args

/-- Functions whose programs keep a property keep it one after another. -/
theorem runFunctions_keeps (calls : List Call) :
    Keeps kept refused (kit.runFunctions calls) := by
  unfold runFunctions
  refine keeps_each fun call _ => ?_
  exact keeps_bind keeps_read fun _ => callFunction_keeps stable functions _ _

end Functions

section Looks

variable (stable : Turn.Stable kept) (refuses : kit.extensions.Refuses admitted)

include stable refuses

theorem runValidators_keeps (calls : List Call) :
    Keeps kept (admitted .validator) (kit.runValidators calls) := by
  unfold runValidators
  refine keeps_each fun call _ => keeps_bind keeps_read fun _ => ?_
  exact Turn.keeps_onWorld_looks stable (callValidator_looks refuses _ _)

theorem passesNow_keeps (tree : Option Conditions) (stepId : StepDefId) :
    Keeps kept (admitted .condition) (kit.passesNow tree stepId) := by
  unfold passesNow
  exact keeps_bind keeps_read fun _ => Turn.keeps_onWorld_looks stable (treePasses_looks refuses _)

theorem isAvailable_keeps (candidate : ScopedAction) (stepId : StepDefId) :
    Keeps kept (admitted .condition) (kit.isAvailable candidate stepId) := by
  unfold isAvailable
  refine keeps_bind keeps_read fun turn => ?_
  split
  · exact keeps_pure _
  · refine keeps_bind (Turn.keeps_onWorld_looks stable (mayFire_looks refuses _)) fun _ => ?_
    refine keeps_bind (keeps_change fun turn holds => ?_) fun _ => keeps_pure _
    exact stable (Turn.hooked_known turn _) holds

end Looks

/-- The hooks of the toolkit keep the property of turns, and refuse in the given ways only. -/
structure Hosts (kit : Toolkit) (refused : Failure → Prop) (kept : Turn → Prop) : Prop where
  functions : ∀ calls, Keeps kept refused (kit.runFunctions calls)
  validators : ∀ calls, Keeps kept refused (kit.runValidators calls)
  guards : ∀ tree stepId, Keeps kept refused (kit.passesNow tree stepId)
  availability : ∀ candidate stepId, Keeps kept refused (kit.isAvailable candidate stepId)

/-- Modest extensions keep whatever does not depend on what hooks change. -/
theorem hosts_of_modest (stable : Turn.Stable kept) (modest : kit.extensions.Modest admitted) :
    kit.Hosts (fun failure => ∃ kind, admitted kind failure) kept where
  functions calls := by
    have functions := modest.functions.mono fun _ modest given =>
      Turn.perform_keeps stable (modest given)
    exact keeps_mono (runFunctions_keeps stable functions calls) fun _ was => ⟨_, was⟩
  validators calls :=
    keeps_mono (runValidators_keeps stable modest.toRefuses calls) fun _ was => ⟨_, was⟩
  guards tree stepId :=
    keeps_mono (passesNow_keeps stable modest.toRefuses tree stepId) fun _ was => ⟨_, was⟩
  availability candidate stepId :=
    keeps_mono (isAvailable_keeps stable modest.toRefuses candidate stepId) fun _ was => ⟨_, was⟩

section Availability

variable {refused : Failure → Prop}
  (availability : ∀ candidate stepId, Keeps kept refused (kit.isAvailable candidate stepId))

include availability

theorem firstOffering_keeps (blueprint : Blueprint) (actionId : ActionId) (steps : List Step) :
    Keeps kept refused (kit.firstOffering blueprint actionId steps) := by
  induction steps with
  | nil => exact keeps_done none
  | cons step rest ih =>
    unfold firstOffering
    split
    · exact ih
    · refine keeps_andThen (availability _ _) fun available => ?_
      cases available with
      | true => exact keeps_done _
      | false => exact ih

theorem leavingStep_keeps (actionId : ActionId) :
    Keeps kept refused (kit.leavingStep actionId) := by
  unfold leavingStep
  refine keeps_bind scopeNow_keeps fun scope => ?_
  split
  · exact keeps_pure _
  · exact firstOffering_keeps availability _ _ _

end Availability

theorem firstPassing_keeps {refused : Failure → Prop}
    (guards : ∀ tree stepId, Keeps kept refused (kit.passesNow tree stepId)) (stepId : StepDefId)
    (outcomes : List ConditionalOutcome) :
    Keeps kept refused (kit.firstPassing stepId outcomes) := by
  induction outcomes with
  | nil => exact keeps_done none
  | cons conditional rest ih =>
    unfold firstPassing
    refine keeps_andThen (guards _ _) fun passed => ?_
    cases passed with
    | true => exact keeps_done _
    | false => exact ih

end Toolkit

end Caseflow
