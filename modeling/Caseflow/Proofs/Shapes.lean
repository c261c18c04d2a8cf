import Caseflow.Proofs.FittingCalls
import Caseflow.Proofs.Lookups
import Caseflow.Proofs.Upholding
/-! Where a call fails for the shape of a blueprint. Neither the selection of an action nor the
settling after it can fail so, and neither can a chain of actions that grows too long. A call fails
for the shape of a blueprint just where the execution of one of its actions does, and it ends in
the world that this execution leaves. -/
namespace Caseflow

open Run

/-- What never fails for the shape of a blueprint does not fail so in any world. -/
theorem Run.not_failed_of_shapeless {σ α : Type} {kept : σ → Prop} {computation : Run σ α}
    (keeps : Keeps kept (fun failure => failure.ofShape = false) computation) {state after : σ}
    (holds : kept state) {failure : Failure} (shape : failure.ofShape = true) :
    computation state ≠ (.error failure, after) := by
  intro failed
  have ends := keeps state holds
  rw [failed] at ends
  have shapeless : failure.ofShape = false := ends.2
  rw [shape] at shapeless
  cases shapeless

/-- The property of stores survives every request but the creation of a step. -/
def Store.Lasts (kept : Store → Prop) : Prop :=
  ∀ world request answer after, kept world.store → (∀ new, request ≠ .createStep new) →
    World.Served world request answer after → kept after.store

namespace Engine

variable {engine : Engine} {entryId : EntryId} {inputs : Values} {number : ActionId}
  {failure : Failure}

theorem unknown_shapeless {workflow : String}
    (unknown : engine.catalog.get workflow = .error failure) : failure.ofShape = false := by
  obtain rfl := Catalog.get_fails unknown
  rfl

theorem uninitiated_shapeless {workflow : String}
    (missing : engine.initialAction workflow number = .error failure) : failure.ofShape = false := by
  obtain ⟨-, rfl⟩ | ⟨_, -, -, rfl⟩ := nothing_to_start missing <;> rfl

/-- An entry is started with an action of its blueprint. -/
theorem declared_of_initial {workflow : String} {blueprint : Blueprint} {action : Action}
    (found : engine.initialAction workflow number = .ok (blueprint, action)) :
    action ∈ blueprint.allActions :=
  Blueprint.mem_allActions_of_initial (initial_of_found found).2

/-- A call is not turned down for the shape of a blueprint. -/
theorem Declined.shapeless {start : World}
    (declined : Declined engine Builtin.Refusal entryId inputs number start failure) :
    failure.ofShape = false := by
  cases declined with
  | notFound cause => cases cause <;> rfl
  | inactive entry found idle => rfl
  | unknown entry found failed => exact unknown_shapeless failed
  | store error => rfl
  | hook kind was => exact was.shapeless
  | unavailable scope known sees denied => rfl

section Standard

variable {kept : Store → Prop} (lasts : Store.Lasts kept) (standard : engine.Standard)

include lasts

theorem request_lasting {request : StoreRequest} (nothing : ∀ new, request ≠ .createStep new) :
    Keeps (fun world => kept world.store) (fun failure => failure.ofShape = false)
      (Run.request request) :=
  keeps_request (fun _ => rfl) fun world answer after holds served =>
    lasts world request answer after holds nothing served

omit lasts in
theorem looks_lasting {α : Type} {kind : ExtensionKind} {computation : Run World α}
    (looks : Looks (Builtin.Refusal kind) computation) :
    Keeps (fun world => kept world.store) (fun failure => failure.ofShape = false) computation :=
  keeps_mono (keeps_of_looks looks fun _ _ holds _ => holds) fun _ refusal => refusal.shapeless

theorem move_lasting (finishedStatus : String) (entryId : EntryId) (target : EntryState)
    (actionId : ActionId) (caller : Option String) :
    Keeps (fun world => kept world.store) (fun failure => failure.ofShape = false)
      (Lifecycle.move finishedStatus entryId target actionId caller) :=
  Lifecycle.move_keeps (fun _ => rfl) (fun _ _ _ => rfl)
    (fun _ nothing => request_lasting lasts nothing) _ _ _ _ _

include standard

omit lasts in
/-- No reason that a call has of its own is the shape of a blueprint. -/
theorem Standard.admits_shapeless : engine.Admits fun failure => failure.ofShape = false where
  store _ := rfl
  absent _ := rfl
  inactive _ _ := rfl
  unknown := unknown_shapeless
  unavailable _ _ := rfl
  endless _ := rfl
  hooks := standard.modest.toRefuses.mono fun _ _ refusal => refusal.shapeless

/-- Settling an entry creates no step and looks nothing up that could be missing. -/
theorem settle_lasting (progress : Progress) :
    Keeps (fun world => kept world.store) (fun failure => failure.ofShape = false)
      (engine.settle entryId number inputs progress) := by
  refine standard.admits_shapeless.settle_keeps (fun {start world} holds observed => ?_)
    (move_lasting lasts) number progress
  show kept world.store
  rw [observed.store]
  exact holds

/-- So does the judgement of an initial action. -/
theorem initiate_lasting (entry : Entry) (blueprint : Blueprint) (action : Action) :
    Keeps (fun world => kept world.store) (fun failure => failure.ofShape = false)
      (engine.initiate entry blueprint action inputs) := by
  have refuses : engine.kit.extensions.Refuses Builtin.Refusal := standard.modest.toRefuses
  unfold initiate
  refine keeps_bind (request_lasting lasts nofun) fun properties => ?_
  refine keeps_bind (looks_lasting (Toolkit.buildScope_looks refuses _ inputs)) fun scope => ?_
  refine keeps_bind (looks_lasting (Toolkit.treePasses_looks refuses _)) fun allowed => ?_
  split
  · exact keeps_fail rfl
  · refine meets_watch fun world holds => meets_done ?_
    rintro _ rfl
    exact holds

end Standard

/-! ### A call fails where one of its executions does -/

private theorem lasts_anyway : Store.Lasts fun _ => True :=
  fun _ _ _ _ _ _ _ => trivial

/-- A start answers the new entry where the initial action and those that follow it succeed. -/
theorem startEntry_result {workflow : String} {blueprint : Blueprint} {action : Action}
    {entry : Entry} {world created : World}
    (found : engine.initialAction workflow number = .ok (blueprint, action))
    (creates : World.createEntry workflow world = (.ok entry, created)) :
    (engine.startEntry workflow number inputs world).result =
      (andThen (engine.runInitial entry blueprint action inputs)
        (engine.chain entry.id inputs engine.kit.settings.maxAutoChainDepth) created).1.map
          fun _ => entry.id := by
  rw [startEntry_created found creates, Reply.result_ofRun, andThen_done]

section Executions

variable (standard : engine.Standard) (shape : failure.ofShape = true) {world after : World}

include standard shape

/-- Carrying on with a selected action fails for the shape where its execution does. -/
theorem carryOn_fails_iff {selected : ScopedAction × Turn} :
    engine.carryOn entryId inputs number selected world = (.error failure, after) ↔
      ∃ last, engine.kit.execute selected.1 selected.2 = (.error failure, last) ∧
        last.world = after := by
  unfold carryOn
  rw [bind_eq]
  unfold andThen resume
  cases executed : engine.kit.execute selected.1 selected.2 with
  | mk result last =>
    cases result with
    | error other => simp
    | ok progress =>
      have settled : engine.settle entryId number inputs progress last.world ≠
          (.error failure, after) :=
        not_failed_of_shapeless (settle_lasting lasts_anyway standard progress) trivial shape
      simpa using settled

/-- What picks an action without failing for the shape, and then carries on with it, fails for the
shape where the execution of the action does. -/
theorem picked_fails_iff {pick : Run World (ScopedAction × Turn)}
    (shapeless : ∀ other failed, pick world = (.error other, failed) → other.ofShape = false) :
    (pick >>= engine.carryOn entryId inputs number) world = (.error failure, after) ↔
      ∃ selected ∈ (pick world).1.toOption.toList, ∃ last,
        engine.kit.execute selected.1 selected.2 = (.error failure, last) ∧ last.world = after := by
  rw [bind_eq]
  cases picked : pick world with
  | mk result middle =>
    cases result with
    | ok selected =>
      rw [andThen_ok picked, carryOn_fails_iff standard shape]
      simp [Except.toOption]
    | error other =>
      rw [andThen_error picked]
      have apart : other ≠ failure := by
        rintro rfl
        rw [shapeless other middle picked] at shape
        cases shape
      simp [Except.toOption, apart]

theorem act_fails_iff :
    engine.act entryId inputs number world = (.error failure, after) ↔
      ∃ selected ∈ engine.selection entryId inputs number world, ∃ last,
        engine.kit.execute selected.1 selected.2 = (.error failure, last) ∧ last.world = after := by
  rw [act_eq, picked_fails_iff standard shape, selection]
  intro other failed declined
  have observes : Meets (World.Observed world) (engine.select entryId inputs number) _ _ :=
    select_observes standard.modest.toRefuses world
  have ends := observes world (.refl world)
  rw [declined] at ends
  exact ends.2.shapeless

/-- A call and the actions that follow it on their own fail for the shape where one of the
executions does. -/
theorem executions_fail_iff (limit : Nat) :
    Run.andThen (engine.act entryId inputs number) (engine.chain entryId inputs limit) world =
        (.error failure, after) ↔
      ∃ execution ∈ engine.executions entryId inputs limit number world, ∃ last,
        engine.kit.execute execution.1 execution.2 = (.error failure, last) ∧
          last.world = after := by
  have acts {number : ActionId} {world : World} :
      engine.act entryId inputs number world = (.error failure, after) ↔ _ :=
    act_fails_iff standard shape
  have exceeded (limit : Nat) : Failure.chainLimitExceeded limit ≠ failure := by
    rintro rfl
    cases shape
  induction limit generalizing number world with
  | zero =>
    unfold executions
    rw [← acts]
    unfold andThen
    cases engine.act entryId inputs number world with
    | mk result middle =>
      cases result with
      | error other => simp
      | ok next => cases next <;> simp [chain, Run.done, Run.fail, exceeded]
  | succ limit ih =>
    unfold executions
    simp only [List.mem_append, or_and_right, exists_or]
    rw [← acts]
    unfold andThen
    cases engine.act entryId inputs number world with
    | mk result middle =>
      cases result with
      | error other => simp
      | ok next =>
        cases next with
        | none => simp [chain, Run.done]
        | some following => simpa [chain] using ih

/-- A call on an entry fails for the shape where one of its executions does, and ends there. -/
theorem doAction_fails_iff :
    (engine.doAction entryId number inputs world).result = .error failure ↔
      ∃ execution ∈
          engine.executions entryId inputs engine.kit.settings.maxAutoChainDepth number world,
        ∃ last, engine.kit.execute execution.1 execution.2 = (.error failure, last) ∧
          last.world = (engine.doAction entryId number inputs world).world := by
  rw [← executions_fail_iff standard shape]
  unfold doAction
  constructor
  · exact fun failed => (Reply.of_failed failed).1
  · intro failed
    unfold Reply.ofRun at failed ⊢
    rw [failed]

/-- A chain of actions fails for the shape where one of its executions does. -/
theorem chained_fails_iff (limit : Nat) (next : Option ActionId) :
    engine.chain entryId inputs limit next world = (.error failure, after) ↔
      ∃ execution ∈ engine.chained entryId inputs limit (.ok next, world), ∃ last,
        engine.kit.execute execution.1 execution.2 = (.error failure, last) ∧
          last.world = after := by
  cases next with
  | none => cases limit <;> simp [chain, chained, Run.done]
  | some number =>
    cases limit with
    | zero =>
      have exceeded : Failure.chainLimitExceeded engine.kit.settings.maxAutoChainDepth ≠ failure := by
        rintro rfl
        cases shape
      simp [chain, chained, Run.fail, exceeded]
    | succ limit => exact executions_fail_iff standard shape limit

theorem initiated_fails_iff (entry : Entry) (blueprint : Blueprint) (action : Action) :
    engine.runInitial entry blueprint action inputs world = (.error failure, after) ↔
      ∃ selected ∈ (engine.initiate entry blueprint action inputs world).1.toOption.toList, ∃ last,
        engine.kit.execute selected.1 selected.2 = (.error failure, last) ∧
          last.world = after := by
  rw [runInitial_eq, picked_fails_iff standard shape]
  intro other failed declined
  have judges : Keeps _ _ (engine.initiate entry blueprint action inputs) :=
    initiate_lasting lasts_anyway standard entry blueprint action
  have ends := judges world trivial
  rw [declined] at ends
  exact ends.2

/-- The initial action and those that follow it fail for the shape where one of the executions
does. -/
theorem initial_fails_iff (entry : Entry) (blueprint : Blueprint) (action : Action) (limit : Nat) :
    andThen (engine.runInitial entry blueprint action inputs) (engine.chain entry.id inputs limit)
        world = (.error failure, after) ↔
      ∃ execution ∈ (engine.initiate entry blueprint action inputs world).1.toOption.toList ++
          engine.chained entry.id inputs limit
            (engine.runInitial entry blueprint action inputs world),
        ∃ last, engine.kit.execute execution.1 execution.2 = (.error failure, last) ∧
          last.world = after := by
  simp only [List.mem_append, or_and_right, exists_or]
  rw [← initiated_fails_iff standard shape]
  unfold andThen
  cases engine.runInitial entry blueprint action inputs world with
  | mk result middle =>
    cases result with
    | error other => cases limit <;> simp [chained]
    | ok next => simpa using chained_fails_iff standard shape limit next

/-- The start of an entry fails for the shape where one of its executions does, and ends there. -/
theorem startEntry_fails_iff {workflow : String} :
    (engine.startEntry workflow number inputs world).result = .error failure ↔
      ∃ execution ∈ engine.startExecutions workflow number inputs world,
        ∃ last, engine.kit.execute execution.1 execution.2 = (.error failure, last) ∧
          last.world = (engine.startEntry workflow number inputs world).world := by
  cases found : engine.initialAction workflow number with
  | error missing =>
    have apart : missing ≠ failure := by
      rintro rfl
      rw [uninitiated_shapeless found] at shape
      cases shape
    simp [startEntry, startExecutions, found, apart]
  | ok held =>
    obtain ⟨blueprint, action⟩ := held
    cases creates : World.createEntry workflow world with
    | mk result created =>
      cases result with
      | error refused =>
        have asks : Keeps _ _ (World.createEntry workflow) := request_lasting lasts_anyway nofun
        have apart : refused ≠ failure := by
          rintro rfl
          exact not_failed_of_shapeless asks trivial shape creates
        rw [startEntry_refused found creates]
        simp [startExecutions, found, creates, apart]
      | ok entry =>
        rw [startEntry_result found creates, startEntry_world found creates]
        unfold startExecutions
        rw [found]
        dsimp only
        rw [creates, ← initial_fails_iff standard shape]
        generalize andThen _ _ created = ran
        obtain ⟨result, after⟩ := ran
        cases result <;> simp [Except.map]

end Executions

end Engine

end Caseflow
