import Caseflow.Engine.Toolkit
import Caseflow.Extension.Builtin
import Caseflow.Proofs.Contract
/-! Guards, validators and registers only look. Whatever is computed from them has the same answer
in every world and leaves behind nothing but notes on the calls made. This is what makes an
evaluation repeatable: asking again, at another time of the same call, gives the same answer. -/
namespace Caseflow

/-- The event tells of a call of an extension. -/
def Event.isCall : Event → Bool
  | .extensionCalled _ _ _ _ => true
  | _ => false

namespace Run

variable {α β : Type} {admitted : Failure → Prop}

/-- The computation only looks, and fails in admitted ways only. -/
def Looks (admitted : Failure → Prop) (computation : Run World α) : Prop :=
  ∃ answer calls, (∀ event ∈ calls, Event.isCall event = true) ∧
    (∀ failure, answer = .error failure → admitted failure) ∧
    ∀ world, computation world = (answer, world.note calls)

theorem looks_ofExcept {result : Except Failure α}
    (allowed : ∀ failure, result = .error failure → admitted failure) :
    Looks admitted (ofExcept result) :=
  ⟨result, [], by simp, allowed, fun world => by simp [ofExcept, World.note]⟩

theorem looks_done (value : α) : Looks admitted (done value) :=
  ⟨.ok value, [], by simp, by simp, fun world => by simp [done, World.note]⟩

theorem looks_fail {failure : Failure} (allowed : admitted failure) :
    Looks admitted (fail failure : Run World α) :=
  ⟨.error failure, [], by simp, fun _ same => by cases same; exact allowed,
    fun world => by simp [fail, World.note]⟩

theorem looks_andThen {first : Run World α} {next : α → Run World β} (start : Looks admitted first)
    (rest : ∀ value, Looks admitted (next value)) : Looks admitted (andThen first next) := by
  obtain ⟨answer, calls, noted, allowed, reached⟩ := start
  cases answer with
  | error failure =>
    refine ⟨.error failure, calls, noted, fun _ same => allowed _ (by simpa using same), ?_⟩
    exact fun world => andThen_error (reached world)
  | ok value =>
    obtain ⟨later, more, notedMore, allowedMore, reachedMore⟩ := rest value
    refine ⟨later, calls ++ more, ?_, allowedMore, fun world => ?_⟩
    · intro event member
      exact (List.mem_append.mp member).elim (noted event) (notedMore event)
    · rw [andThen_ok (reached world), reachedMore]
      simp [World.note]

theorem looks_ofExcept_andThen {result : Except Failure α} {next : α → Run World β}
    (allowed : ∀ failure, result = .error failure → admitted failure)
    (rest : ∀ value, result = .ok value → Looks admitted (next value)) :
    Looks admitted (andThen (ofExcept result) next) := by
  cases result with
  | ok value => exact rest value rfl
  | error failure => exact looks_fail (allowed failure rfl)

/-- The answer of a computation that only looks is the same in every world. -/
theorem answer_of_looks {computation : Run World α} (looks : Looks admitted computation)
    (world other : World) : (computation world).1 = (computation other).1 := by
  obtain ⟨answer, calls, -, -, reached⟩ := looks
  rw [reached, reached]

/-- What does not depend on notes about calls is kept by a look. -/
theorem keeps_of_looks {kept : World → Prop} {computation : Run World α}
    (looks : Looks admitted computation)
    (stays : ∀ world calls, kept world → (∀ event ∈ calls, Event.isCall event = true) →
      kept (world.note calls)) : Keeps kept admitted computation := by
  obtain ⟨answer, calls, noted, allowed, reached⟩ := looks
  intro world holds
  rw [reached]
  cases answer with
  | ok value => exact stays world calls holds noted
  | error failure => exact ⟨stays world calls holds noted, allowed failure rfl⟩

end Run

namespace Extensions

variable {α : Type} {refused : Failure → Prop} {fit : α → Prop}
  {find : String → Args → Except Failure α}

/-- The search fails in admitted ways, and all it finds is fit. -/
def Yields (refused : Failure → Prop) (fit : α → Prop)
    (find : String → Args → Except Failure α) : Prop :=
  ∀ type args,
    match find type args with
    | .ok found => fit found
    | .error failure => refused failure

theorem Yields.of_error (yields : Yields refused fit find) (type : String) (args : Args)
    (failure : Failure) (failed : find type args = .error failure) : refused failure := by
  have answer := yields type args
  rwa [failed] at answer

theorem Yields.mono {fitter : α → Prop} (yields : Yields refused fit find)
    (enough : ∀ found, fit found → fitter found) : Yields refused fitter find := by
  intro type args
  have answer := yields type args
  split at answer
  · exact enough _ answer
  · exact answer

theorem Yields.widen {admitted : Failure → Prop} (yields : Yields refused fit find)
    (allowed : ∀ failure, refused failure → admitted failure) : Yields admitted fit find := by
  intro type args
  have answer := yields type args
  split at answer
  · exact answer
  · exact allowed _ answer

theorem Yields.of_ok (yields : Yields refused fit find) {type : String} {args : Args} {found : α}
    (made : find type args = .ok found) : fit found := by
  have answer := yields type args
  rwa [made] at answer

/-- What guards, validators and registers fail with, in the making and in use, is admitted for their
kind. -/
structure Refuses (admitted : ExtensionKind → Failure → Prop) (extensions : Extensions) :
    Prop where
  guards : Yields (admitted .condition)
    (fun guard => ∀ scope given properties failure,
      guard scope given properties = .error failure → admitted .condition failure)
    extensions.guard
  validators : Yields (admitted .validator)
    (fun validator => ∀ scope given properties failure,
      validator scope given properties = .error failure → admitted .validator failure)
    extensions.validator
  registers : Yields (admitted .register)
    (fun register => ∀ caller entry given properties failure,
      register caller entry given properties = .error failure → admitted .register failure)
    extensions.register

/-- Any failure is admitted of any extensions. -/
theorem refuses_any (extensions : Extensions) : extensions.Refuses fun _ _ => True := by
  constructor
  all_goals
    intro type args
    split
    · simp
    · trivial

theorem Refuses.mono {admitted also : ExtensionKind → Failure → Prop} {extensions : Extensions}
    (refuses : extensions.Refuses admitted)
    (allowed : ∀ kind failure, admitted kind failure → also kind failure) :
    extensions.Refuses also where
  guards := (refuses.guards.widen (allowed _)).mono
    fun _ refusals scope given properties failure failed =>
      allowed _ _ (refusals scope given properties failure failed)
  validators := (refuses.validators.widen (allowed _)).mono
    fun _ refusals scope given properties failure failed =>
      allowed _ _ (refusals scope given properties failure failed)
  registers := (refuses.registers.widen (allowed _)).mono
    fun _ refusals caller entry given properties failure failed =>
      allowed _ _ (refusals caller entry given properties failure failed)

end Extensions

namespace Toolkit

open Run

variable {kit : Toolkit} {admitted : ExtensionKind → Failure → Prop} {scope : Scope}
  {properties : Values} {stepId : StepDefId}

theorem looks_record_call {refused : Failure → Prop} (kind : ExtensionKind) (type : String)
    (args : Args) (view : ScopeView) :
    Looks refused (World.record (.extensionCalled kind type args view)) :=
  ⟨.ok (), _, by simp [Event.isCall], by simp, fun _ => rfl⟩

section Calls

variable (refuses : kit.extensions.Refuses admitted)

include refuses

theorem callGuard_looks (type : String) (args : Args) :
    Looks (admitted .condition) (kit.callGuard scope properties type args) :=
  looks_ofExcept_andThen (refuses.guards.of_error type args) fun _ made =>
    looks_andThen (looks_record_call ..) fun _ =>
      looks_ofExcept (refuses.guards.of_ok made scope args properties)

theorem callValidator_looks (type : String) (args : Args) :
    Looks (admitted .validator) (kit.callValidator scope properties type args) :=
  looks_ofExcept_andThen (refuses.validators.of_error type args) fun _ made =>
    looks_andThen (looks_record_call ..) fun _ =>
      looks_ofExcept (refuses.validators.of_ok made scope args properties)

theorem callRegister_looks (type : String) (args : Args) :
    Looks (admitted .register) (kit.callRegister scope properties type args) :=
  looks_ofExcept_andThen (refuses.registers.of_error type args) fun _ made =>
    looks_andThen (looks_record_call ..) fun _ =>
      looks_ofExcept (refuses.registers.of_ok made scope.caller scope.entry args properties)

theorem checkPasses_looks (check : Check) :
    Looks (admitted .condition) (kit.checkPasses scope properties stepId check) :=
  looks_andThen (callGuard_looks refuses ..) fun _ => looks_done _

end Calls

mutual

theorem conditionPasses_looks (refuses : kit.extensions.Refuses admitted) : (condition : Condition) →
    Looks (admitted .condition) (kit.conditionPasses scope properties stepId condition)
  | .leaf check => by
    rw [conditionPasses]
    exact checkPasses_looks refuses check
  | .group combinator [] => by
    rw [conditionPasses]
    exact looks_done true
  | .group combinator (child :: rest) => by
    rw [conditionPasses]
    · exact childrenPass_looks refuses combinator (child :: rest)
    · simp

theorem childrenPass_looks (refuses : kit.extensions.Refuses admitted)
    (combinator : Combinator) : (children : List Condition) →
    Looks (admitted .condition) (kit.childrenPass scope properties stepId combinator children)
  | [] => by
    rw [childrenPass]
    exact looks_done _
  | child :: rest => by
    rw [childrenPass]
    refine looks_andThen (conditionPasses_looks refuses child) fun passed => ?_
    split
    · exact looks_done false
    · exact looks_done true
    · exact childrenPass_looks refuses combinator rest

end

section Trees

variable (refuses : kit.extensions.Refuses admitted)

include refuses

theorem treePasses_looks : (tree : Option Conditions) →
    Looks (admitted .condition) (kit.treePasses scope properties stepId tree)
  | none => looks_done true
  | some tree => conditionPasses_looks refuses tree.nested

theorem mayFire_looks (action : Action) :
    Looks (admitted .condition) (kit.mayFire scope properties stepId action) := by
  refine looks_andThen (treePasses_looks refuses _) fun allowed => ?_
  cases allowed with
  | true => exact treePasses_looks refuses _
  | false => exact looks_done false

theorem addRegisters_looks (registers : List RegisterCall) (scope : Scope) :
    Looks (admitted .register) (buildScope.addRegisters kit properties scope registers) := by
  induction registers generalizing scope with
  | nil => exact looks_done scope
  | cons register rest ih =>
    exact looks_andThen (callRegister_looks refuses ..) fun value => ih _

theorem buildScope_looks (scope : Scope) (inputs : Values) :
    Looks (admitted .register) (kit.buildScope properties scope inputs) :=
  addRegisters_looks refuses _ _

end Trees

private theorem addRegisters_frame {registers : List RegisterCall} {scope built : Scope}
    {world : World}
    (done : (buildScope.addRegisters kit properties scope registers world).1 = .ok built) :
    ∃ bindings, built = { scope with bindings } := by
  induction registers generalizing scope world with
  | nil =>
    cases done
    exact ⟨_, rfl⟩
  | cons register rest ih =>
    simp only [buildScope.addRegisters, andThen] at done
    split at done
    · obtain ⟨bindings, same⟩ := ih done
      exact ⟨bindings, same⟩
    · cases done

/-- Inputs and registers set variables and nothing else. -/
theorem buildScope_frame {scope built : Scope} {inputs : Values} {world : World}
    (done : (kit.buildScope properties scope inputs world).1 = .ok built) :
    ∃ bindings, built = { scope with bindings } := by
  obtain ⟨bindings, same⟩ := addRegisters_frame done
  exact ⟨bindings, same⟩

end Toolkit

end Caseflow
