import Caseflow.Proofs.Looking
import Caseflow.Proofs.Substitution
/-! Calls that do not tell entries apart. A text is interpolated by the roots of its references, so
it comes to the same in scopes that agree on those. Scopes that differ in the entry only, which is
of the same workflow, agree on all names but the two that stand for the entry; and of the built-in
guards and registers only the guard on an input can be asked for one of these by name. So the
registers of a workflow and a tree of conditions that stay away from the two names come to the same
for both entries, down to the failure. -/
namespace Caseflow

open Run

/-- The names that stand for the entry of a scope, or for its number. -/
def Scope.entryNames : List String :=
  ["entry", "entryId"]

/-- No argument is interpolated by the entry. -/
def Args.SpareEntry (args : Args) : Prop :=
  ∀ pair ∈ args.pairs, ∀ root ∈ Interpolation.roots pair.2, root ∉ Scope.entryNames

instance (args : Args) : Decidable args.SpareEntry :=
  inferInstanceAs (Decidable (∀ pair ∈ args.pairs, ∀ root ∈ Interpolation.roots pair.2,
    root ∉ Scope.entryNames))

/-! ### Scopes that differ in the entry -/

/-- The scopes are the same, except that they are about different entries of one workflow. -/
def Scope.Twins (left right : Scope) : Prop :=
  ∃ entry, entry.workflow = left.entry.workflow ∧ right = { left with entry }

namespace Scope.Twins

variable {left right : Scope} (twins : left.Twins right)

include twins

/-- The scopes agree on every name that does not stand for the entry. -/
theorem lookup? {name : String} (other : name ∉ entryNames) :
    left.lookup? name = right.lookup? name := by
  obtain ⟨entry, workflow, rfl⟩ := twins
  have apart : name ≠ "entry" ∧ name ≠ "entryId" := by simpa [entryNames] using other
  unfold Scope.lookup?
  split
  · unfold reserved?
    split <;> simp_all
  · rfl

theorem assign (name : String) (value : Json) :
    (left.assign name value).Twins (right.assign name value) := by
  obtain ⟨entry, workflow, rfl⟩ := twins
  exact ⟨entry, workflow, rfl⟩

theorem bound (inputs : List (String × Json)) :
    ({ left with bindings := left.bindings.insertMany inputs } : Scope).Twins
      { right with bindings := right.bindings.insertMany inputs } := by
  obtain ⟨entry, workflow, rfl⟩ := twins
  exact ⟨entry, workflow, rfl⟩

theorem blueprint : right.blueprint = left.blueprint := by
  obtain ⟨entry, -, rfl⟩ := twins
  rfl

theorem caller : right.caller = left.caller := by
  obtain ⟨entry, -, rfl⟩ := twins
  rfl

/-- Arguments that spare the entry are interpolated alike. -/
theorem args {args : Args} (spare : args.SpareEntry) (properties : Values) :
    Resolver.args Interpolation.resolve left properties args =
      Resolver.args Interpolation.resolve right properties args :=
  Interpolation.args_agree fun pair member root read => by
    rw [Interpolation.root?, Interpolation.root?, twins.lookup? (spare pair member root read)]

end Scope.Twins

/-! ### The built-in extensions -/

/-- Among makers to which one has been added, its name finds that one and every other name what it
found before. -/
theorem Extensions.make_insert {α : Type} (makers : SortedMap String (Args → Except Failure α))
    (kind : ExtensionKind) (name : String) (maker : Args → Except Failure α) (type : String)
    (args : Args) :
    make (makers.insert name maker) kind type args =
      if type = name then maker args else make makers kind type args := by
  by_cases same : type = name
  · subst same
    simp [make]
  · simp [make, SortedMap.get?_insert_of_ne _ same, same]

namespace Builtin

variable {left right : Scope} {type : String} {args : Args}

/-- What is required is given. -/
theorem given_of_required {name value : String} (required : requiredArg type name args = .ok value) :
    args.get? name = some value := by
  unfold requiredArg at required
  split at required
  · rename_i given
    split at required
    · cases required
    · cases required
      exact given
  · cases required

/-- The guard on an input tells entries apart only where it is asked for the entry by name. -/
theorem input_twins (twins : left.Twins right)
    (spared : ∀ name ∈ args.get? "name", name ∉ Scope.entryNames) (properties : Values) :
    input left args properties = input right args properties := by
  unfold input
  cases required : requiredArg "input" "name" args with
  | error failure => simp only [bind, Except.bind]
  | ok name =>
    have same := twins.lookup? (spared name (given_of_required required))
    simp only [bind, Except.bind, same]

/-- No other built-in guard tells them apart. -/
theorem guard_twins (twins : left.Twins right) {guard : Guard}
    (made : extensions.guard type args = .ok guard)
    (spared : type = "input" → ∀ name ∈ args.get? "name", name ∉ Scope.entryNames)
    (properties : Values) : guard left args properties = guard right args properties := by
  simp only [Extensions.guard, extensions, Extensions.addGuard, Extensions.addGuardMaker,
    Extensions.addFunction, Extensions.addFunctionMaker, Extensions.addValidator,
    Extensions.addValidatorMaker, Extensions.addRegister, Extensions.addRegisterMaker,
    Extensions.make_insert] at made
  split at made
  · rename_i isInput
    cases made
    exact input_twins twins (spared isInput) properties
  · obtain ⟨entry, -, rfl⟩ := twins
    repeat
      split at made
      · cases made
        rfl
    cases made

/-- The built-in register looks at no entry. -/
theorem register_entryless {register : Register}
    (made : extensions.register type args = .ok register) (caller : Option String)
    (entry other : Entry) (properties : Values) :
    register caller entry args properties = register caller other args properties := by
  simp only [Extensions.register, extensions, Extensions.addGuard, Extensions.addGuardMaker,
    Extensions.addFunction, Extensions.addFunctionMaker, Extensions.addValidator,
    Extensions.addValidatorMaker, Extensions.addRegister, Extensions.addRegisterMaker,
    Extensions.make_insert] at made
  split at made
  · cases made
    rfl
  · cases made

end Builtin

/-! ### Two computations with the same answers -/

namespace Run

variable {σ α β : Type} {related : α → α → Prop} {akin : β → β → Prop}

/-- The results are the same failure, or related answers. -/
inductive Echoed (related : α → α → Prop) : Except Failure α → Except Failure α → Prop where
  | answered {left right : α} (holds : related left right) : Echoed related (.ok left) (.ok right)
  | failed (failure : Failure) : Echoed related (.error failure) (.error failure)

/-- Wherever the two computations are started, their results are the same failure or related
answers. -/
def Echoes (related : α → α → Prop) (first second : Run σ α) : Prop :=
  ∀ here there, Echoed related (first here).1 (second there).1

theorem echoes_done {left right : α} (holds : related left right) :
    Echoes related (done left : Run σ α) (done right) :=
  fun _ _ => .answered holds

theorem echoes_ofExcept (result : Except Failure α) :
    Echoes (· = ·) (ofExcept result : Run σ α) (ofExcept result) := by
  intro here there
  cases result with
  | ok value => exact .answered rfl
  | error failure => exact .failed failure

/-- What follows is about answers that the first part gives. -/
theorem echoes_andThen {first second : Run σ α} {next other : α → Run σ β}
    (start : Echoes related first second)
    (rest : ∀ left right, (∃ state, (first state).1 = .ok left) → related left right →
      Echoes akin (next left) (other right)) :
    Echoes akin (andThen first next) (andThen second other) := by
  intro here there
  have echoed := start here there
  cases reached : first here with
  | mk result middle =>
    cases reachedToo : second there with
    | mk resultToo middleToo =>
      rw [reached, reachedToo] at echoed
      cases echoed with
      | failed failure =>
        rw [andThen_error reached, andThen_error reachedToo]
        exact .failed failure
      | @answered left right holds =>
        rw [andThen_ok reached, andThen_ok reachedToo]
        exact rest left right ⟨here, by rw [reached]⟩ holds middle middleToo

/-- Notes tell nothing apart. -/
theorem echoes_record (first second : Event) :
    Echoes (fun _ _ => True) (World.record first) (World.record second) :=
  fun _ _ => .answered trivial

/-- Computations with the same answers have the same results. -/
theorem Echoes.same {first second : Run σ α} (echoes : Echoes (· = ·) first second)
    (here there : σ) : (first here).1 = (second there).1 := by
  have echoed := echoes here there
  revert echoed
  generalize (first here).1 = left
  generalize (second there).1 = right
  rintro (same | failure)
  · rw [same]
  · rfl

end Run

/-! ### Registers and conditions -/

namespace Condition

mutual

/-- The guards of a condition, from left to right. -/
def checks : Condition → List Check
  | .leaf check => [check]
  | .group _ children => checksOfAll children

def checksOfAll : List Condition → List Check
  | [] => []
  | child :: rest => child.checks ++ checksOfAll rest

end

end Condition

namespace Toolkit

variable {kit : Toolkit} {left right : Scope} {properties : Values}

/-- The guard stays away from the entry: no argument is interpolated by it, and if it is the guard
on an input, its name does not come to one of the entry in the scope. -/
structure SparesEntry (kit : Toolkit) (scope : Scope) (properties : Values) (call : Call) : Prop where
  args : call.args.SpareEntry
  named : call.type = "input" →
    ∀ name ∈ (kit.resolver.args scope properties call.args).get? "name", name ∉ Scope.entryNames

instance (kit : Toolkit) (scope : Scope) (properties : Values) (call : Call) :
    Decidable (kit.SparesEntry scope properties call) :=
  decidable_of_iff (call.args.SpareEntry ∧ (call.type = "input" →
      ∀ name ∈ (kit.resolver.args scope properties call.args).get? "name", name ∉ Scope.entryNames))
    ⟨fun spares => ⟨spares.1, spares.2⟩, fun spares => ⟨spares.args, spares.named⟩⟩

theorem get?_withStepId {name : String} (other : name ≠ stepIdName) (stepId : StepDefId)
    (args : Args) : (withStepId stepId args).get? name = args.get? name := by
  unfold withStepId
  split
  · split
    · exact SortedMap.get?_insert_of_ne _ other _
    · rfl
  · rfl

section Calls

variable (standard : kit.extensions = Builtin.extensions)
  (plain : kit.resolver = Interpolation.resolve)

include standard

theorem callGuard_echoes (twins : left.Twins right) {type : String} {args : Args}
    (spared : type = "input" → ∀ name ∈ args.get? "name", name ∉ Scope.entryNames) :
    Echoes (· = ·) (kit.callGuard left properties type args)
      (kit.callGuard right properties type args) := by
  refine echoes_andThen (echoes_ofExcept _) fun guard other made same => ?_
  subst same
  obtain ⟨_, made⟩ := made
  refine echoes_andThen (echoes_record _ _) fun _ _ _ _ => ?_
  have found : Builtin.extensions.guard type args = .ok guard := standard ▸ made
  rw [Builtin.guard_twins twins found spared properties]
  exact echoes_ofExcept _

theorem callRegister_echoes (twins : left.Twins right) (type : String) (args : Args) :
    Echoes (· = ·) (kit.callRegister left properties type args)
      (kit.callRegister right properties type args) := by
  refine echoes_andThen (echoes_ofExcept _) fun register other made same => ?_
  subst same
  obtain ⟨_, made⟩ := made
  refine echoes_andThen (echoes_record _ _) fun _ _ _ _ => ?_
  have found : Builtin.extensions.register type args = .ok register := standard ▸ made
  rw [twins.caller, Builtin.register_entryless found _ left.entry right.entry]
  exact echoes_ofExcept _

include plain

theorem checkPasses_echoes (twins : left.Twins right) (stepId : StepDefId) {check : Check}
    (spares : kit.SparesEntry left properties check.call) :
    Echoes (· = ·) (kit.checkPasses left properties stepId check)
      (kit.checkPasses right properties stepId check) := by
  have same : kit.guardArgs right properties stepId check.call.args =
      kit.guardArgs left properties stepId check.call.args := by
    unfold guardArgs
    rw [plain, twins.args spares.args]
  unfold checkPasses
  rw [same]
  refine echoes_andThen (callGuard_echoes standard twins fun isInput name given => ?_)
    fun passed other _ equal => ?_
  · rw [guardArgs, get?_withStepId (by decide)] at given
    exact spares.named isInput name given
  · subst equal
    exact echoes_done rfl

end Calls

mutual

theorem conditionPasses_echoes (standard : kit.extensions = Builtin.extensions)
    (plain : kit.resolver = Interpolation.resolve) (twins : left.Twins right) (stepId : StepDefId) :
    (condition : Condition) →
    (∀ check ∈ condition.checks, kit.SparesEntry left properties check.call) →
    Echoes (· = ·) (kit.conditionPasses left properties stepId condition)
      (kit.conditionPasses right properties stepId condition)
  | .leaf check => fun spare => by
    rw [conditionPasses, conditionPasses]
    exact checkPasses_echoes standard plain twins stepId (spare check (by simp [Condition.checks]))
  | .group combinator [] => fun _ => by
    rw [conditionPasses, conditionPasses]
    exact echoes_done rfl
  | .group combinator (child :: rest) => fun spare => by
    rw [conditionPasses, conditionPasses]
    · exact childrenPass_echoes standard plain twins stepId combinator (child :: rest) (by
        simpa [Condition.checks] using spare)
    · simp
    · simp

theorem childrenPass_echoes (standard : kit.extensions = Builtin.extensions)
    (plain : kit.resolver = Interpolation.resolve) (twins : left.Twins right) (stepId : StepDefId)
    (combinator : Combinator) : (children : List Condition) →
    (∀ check ∈ Condition.checksOfAll children, kit.SparesEntry left properties check.call) →
    Echoes (· = ·) (kit.childrenPass left properties stepId combinator children)
      (kit.childrenPass right properties stepId combinator children)
  | [] => fun _ => by
    rw [childrenPass, childrenPass]
    exact echoes_done rfl
  | child :: rest => fun spare => by
    have first := conditionPasses_echoes standard plain twins stepId child fun check member =>
      spare check (List.mem_append_left _ member)
    have others := childrenPass_echoes standard plain twins stepId combinator rest fun check member =>
      spare check (List.mem_append_right _ member)
    rw [childrenPass, childrenPass]
    refine echoes_andThen first fun passed other _ same => ?_
    subst same
    split
    · exact echoes_done rfl
    · exact echoes_done rfl
    · exact others

end

section Trees

variable (standard : kit.extensions = Builtin.extensions)
  (plain : kit.resolver = Interpolation.resolve)

include standard plain

/-- A tree whose guards stay away from the entry passes for both, or fails alike. -/
theorem treePasses_echoes (twins : left.Twins right) (stepId : StepDefId)
    {tree : Option Conditions}
    (spare : ∀ conditions ∈ tree, ∀ check ∈ conditions.nested.checks,
      kit.SparesEntry left properties check.call) :
    Echoes (· = ·) (kit.treePasses left properties stepId tree)
      (kit.treePasses right properties stepId tree) := by
  cases tree with
  | none => exact echoes_done rfl
  | some conditions =>
    exact conditionPasses_echoes standard plain twins stepId conditions.nested (spare conditions rfl)

theorem addRegisters_echoes {registers : List RegisterCall}
    (spare : ∀ register ∈ registers, register.args.SpareEntry) (twins : left.Twins right) :
    Echoes Scope.Twins (buildScope.addRegisters kit properties left registers)
      (buildScope.addRegisters kit properties right registers) := by
  induction registers generalizing left right with
  | nil => exact echoes_done twins
  | cons register rest ih =>
    have same := twins.args (spare register (List.mem_cons_self ..)) properties
    simp only [buildScope.addRegisters]
    rw [plain, same]
    refine echoes_andThen (callRegister_echoes standard twins _ _) fun value other _ equal => ?_
    subst equal
    exact ih (fun later member => spare later (List.mem_cons_of_mem _ member))
      (twins.assign register.name value)

/-- Registers whose arguments spare the entry give both scopes the same variables. -/
theorem buildScope_echoes (spare : ∀ register ∈ left.blueprint.registers, register.args.SpareEntry)
    (twins : left.Twins right) (inputs : Values) :
    Echoes Scope.Twins (kit.buildScope properties left inputs)
      (kit.buildScope properties right inputs) := by
  have begun := twins.bound inputs.pairs
  unfold buildScope
  rw [twins.blueprint] at begun ⊢
  exact addRegisters_echoes standard plain spare begun

end Trees

end Toolkit

end Caseflow
