import Caseflow.Proofs.FailedStarts
import Caseflow.Proofs.Twins
/-! Forecasts. Whether an entry could be started is judged on an entry that is never stored, and
when it is started, on the new one. As long as neither the registers of the workflow nor the
restriction of the action ask for the entry, the two judgements agree. So a start that is forecast
to be refused fails and creates no step, and one that is forecast to be granted does not fail
because there is no such workflow or because the caller is barred, however far it gets. -/
namespace Caseflow

open Run

/-- The failure refuses a start: there is no such workflow, or the caller is barred. -/
def Failure.deniesStart : Failure → Bool
  | .workflowNotFound _ => true
  | .unauthorized _ _ _ => true
  | _ => false

/-- No built-in extension refuses a start in the place of the engine. -/
theorem Builtin.Refusal.deniesNoStart {kind : ExtensionKind} {failure : Failure}
    (refusal : Refusal kind failure) : failure.deniesStart = false := by
  cases refusal <;> rfl

/-! ### Entries keep their workflow -/

namespace Store

variable {id : EntryId} {workflow : String} {store after : Store}

/-- The entry is stored, as one of the workflow. -/
def Runs (id : EntryId) (workflow : String) (store : Store) : Prop :=
  ∃ entry, store.findEntry? id = some entry ∧ entry.workflow = workflow

theorem Runs.answered {now : Instant} {request : StoreRequest} {value : request.Answer}
    (runs : store.Runs id workflow) (done : store.answer now request = .ok (value, after)) :
    after.Runs id workflow := by
  obtain ⟨entry, found, named⟩ := runs
  cases request with
  | createEntry name =>
    obtain ⟨-, rfl⟩ := createEntry_eq done
    obtain ⟨record, held, rfl⟩ := Option.map_eq_some_iff.mp found
    refine ⟨record.entry, ?_, named⟩
    unfold record? at held
    simp [Store.findEntry?, record?, held]
  | createStep new => exact ⟨entry, (findEntry?_createStep done id).trans found, named⟩
  | markFinished handle closing => exact ⟨entry, (findEntry?_markFinished done id).trans found, named⟩
  | setEntryState other state =>
    obtain ⟨_, set, same⟩ := exists_of_map_eq_ok done
    cases same
    refine ⟨_, (findEntry?_setEntryState set id).trans (by rw [found]; rfl), ?_⟩
    split <;> exact named
  | moveToHistory handle =>
    obtain ⟨_, moved, same⟩ := exists_of_map_eq_ok done
    cases same
    exact ⟨entry, (findEntry?_moveToHistory moved id).trans found, named⟩
  | properties other =>
    obtain ⟨_, -, same⟩ := exists_of_map_eq_ok done
    cases same
    exact ⟨entry, found, named⟩
  | findEntry | currentSteps | historySteps | query =>
    cases done
    exact ⟨entry, found, named⟩

/-- An entry that is stored stays one of its workflow, whatever happens. -/
theorem runs_endures (id : EntryId) (workflow : String) :
    World.Enduring (fun _ => True) fun world => world.store.Runs id workflow where
  calls _ _ := trivial
  served runs served := by
    cases served with
    | refused error => exact runs
    | answered value store done => exact runs.answered done
    | absent value lost met => exact runs
  written := by
    rintro world entry change ⟨stored, found, named⟩
    exact ⟨stored, (findEntry?_modifyProperties ..).trans found, named⟩
  passed _ _ _ runs _ := runs

end Store

namespace Engine

variable {engine : Engine} {entryId : EntryId} {inputs : Values} {workflow : String}
  {blueprint : Blueprint} {action : Action}

/-! ### What can be said of a started entry -/

section Started

variable (standard : engine.Standard) (known : engine.catalog.get workflow = .ok blueprint)

theorem move_denies_no_start (finishedStatus : String) (id : EntryId) (target : EntryState)
    (actionId : ActionId) (caller : Option String) :
    Keeps (fun world => world.store.Runs entryId workflow)
      (fun failure => failure.deniesStart = false)
      (Lifecycle.move finishedStatus id target actionId caller) :=
  Lifecycle.move_keeps (fun _ => rfl) (fun _ _ _ => rfl)
    (fun _ _ => keeps_request (fun _ => rfl) fun _ _ _ runs served =>
      (Store.runs_endures entryId workflow).served runs served) _ _ _ _ _

include standard

theorem hooks_deny_no_start :
    engine.kit.extensions.Refuses fun _ failure => failure.deniesStart = false :=
  standard.modest.toRefuses.mono fun _ _ refusal => refusal.deniesNoStart

/-- The execution of an action refuses no start. -/
theorem execute_denies_no_start (chosen : ScopedAction) {turn : Turn}
    (runs : turn.world.store.Runs entryId workflow) :
    Meets (· = turn) (engine.kit.execute chosen)
      (fun _ after => after.world.store.Runs entryId workflow)
      fun failure after => after.world.store.Runs entryId workflow ∧ failure.deniesStart = false := by
  have endures := Store.runs_endures entryId workflow
  have hosts : engine.kit.Hosts (fun failure => ∃ kind, Builtin.Refusal kind failure)
      fun turn => turn.world.store.Runs entryId workflow := by
    refine Toolkit.hosts_of_modest (fun before after hooked here => ?_) standard.modest
    obtain ⟨change, written⟩ := hooked.store
    have kept : Store.Runs entryId workflow (before.world.store.modifyProperties before.home change) :=
      endures.written before.home change here
    rw [written]
    exact kept
  refine Toolkit.execute_meets endures.carried.toBears (Toolkit.closeStep_keeps endures.carried) hosts
    move_denies_no_start ?_ chosen turn runs
  rintro failure (⟨kind, refusal⟩ | _ | _ | _ | _)
  · exact refusal.deniesNoStart
  all_goals rfl

include known

omit standard in
/-- A stored entry of a known workflow finds its blueprint. -/
theorem blueprint_of_runs {world : World} {entry : Entry} {failure : Failure}
    (runs : world.store.Runs entryId workflow) (found : world.store.findEntry? entryId = some entry)
    (failed : engine.catalog.get entry.workflow = .error failure) : False := by
  obtain ⟨stored, isStored, named⟩ := runs
  obtain rfl : stored = entry := Option.some.inj (isStored.symm.trans found)
  rw [named, known] at failed
  cases failed

theorem carryOn_denies_no_start (actionId : ActionId) (selected : ScopedAction × Turn) :
    Meets (fun world => selected.2.world = world ∧ world.store.Runs entryId workflow)
      (engine.carryOn entryId inputs actionId selected)
      (fun _ world => world.store.Runs entryId workflow)
      fun failure world => world.store.Runs entryId workflow ∧ failure.deniesStart = false := by
  refine meets_from fun start ends => ?_
  obtain ⟨rfl, runs⟩ := ends
  have executes : Meets (· = selected.2.world) (resume selected.2 (engine.kit.execute selected.1))
      (fun _ world => world.store.Runs entryId workflow)
      fun failure world => world.store.Runs entryId workflow ∧ failure.deniesStart = false :=
    meets_resume (execute_denies_no_start standard selected.1 runs)
  have absent : (Failure.entryNotFound entryId).deniesStart = false := rfl
  refine meets_bind executes fun progress => ?_
  exact settle_keeps_stored (fun _ => rfl) absent (hooks_deny_no_start standard)
    (fun runs found failed => (blueprint_of_runs known runs found failed).elim)
    (Store.runs_endures entryId workflow).observed move_denies_no_start actionId progress

/-- An action on an entry of a known workflow refuses no start. -/
theorem act_denies_no_start (actionId : ActionId) :
    Keeps (fun world => world.store.Runs entryId workflow) (fun failure => failure.deniesStart = false)
      (engine.act entryId inputs actionId) := by
  have observed {start world : World} (runs : start.store.Runs entryId workflow)
      (looked : World.Observed start world) : world.store.Runs entryId workflow :=
    (Store.runs_endures entryId workflow).observed runs looked
  rw [act_eq]
  refine meets_from fun start runs => ?_
  have selects : Meets (World.Observed start) (engine.select entryId inputs actionId) _ _ :=
    select_observes (hooks_deny_no_start standard) start
  refine meets_bind (meets_mono (meets_at selects (.refl start)) (fun _ same => same)
    (fun reached world ends => ?_) fun failure world ends => ⟨observed runs ends.1, ?_⟩)
    fun selected => carryOn_denies_no_start standard known actionId selected
  · obtain ⟨rfl, selected⟩ := ends
    exact ⟨rfl, observed runs selected.observed⟩
  · cases ends.2 with
    | notFound cause => cases cause <;> rfl
    | inactive entry found idle => rfl
    | unknown entry found failed => exact (blueprint_of_runs known runs found failed).elim
    | store error => rfl
    | hook kind was => exact was
    | unavailable scope learned sees denied => rfl

theorem chain_denies_no_start (limit : Nat) (next : Option ActionId) :
    Keeps (fun world => world.store.Runs entryId workflow) (fun failure => failure.deniesStart = false)
      (engine.chain entryId inputs limit next) := by
  induction limit generalizing next with
  | zero =>
    cases next with
    | none => exact keeps_done ()
    | some number => exact keeps_fail rfl
  | succ limit ih =>
    cases next with
    | none => exact keeps_done ()
    | some number => exact keeps_andThen (act_denies_no_start standard known number) fun next => ih next

end Started

/-! ### The judgement of a start -/

/-- The judgement of an initial action on an entry that has neither steps nor properties. -/
def judge (engine : Engine) (entry : Entry) (blueprint : Blueprint) (action : Action)
    (inputs : Values) : Run World Bool := do
  let scope ← engine.scope ∅ entry blueprint [] inputs
  engine.kit.treePasses scope ∅ 0 action.restriction

/-- The entry that a start is judged on before there is one. -/
def placeholder (workflow : String) (now : Instant) : Entry :=
  ⟨0, workflow, .created, now⟩

/-- Neither the registers of the workflow nor, in the scope they make up, the restriction of the
action ask for the entry. -/
structure SparesEntry (engine : Engine) (blueprint : Blueprint) (action : Action) (entry : Entry)
    (inputs : Values) : Prop where
  registers : ∀ register ∈ blueprint.registers, register.args.SpareEntry
  restriction : ∀ scope, (∃ world, (engine.scope ∅ entry blueprint [] inputs world).1 = .ok scope) →
    ∀ conditions ∈ action.restriction, ∀ check ∈ conditions.nested.checks,
      engine.kit.SparesEntry scope ∅ check.call

/-- A judgement that does not ask for the entry is the same on any other entry of the workflow. -/
theorem judge_echoes (standard : engine.Standard)
    (plain : engine.kit.resolver = Interpolation.resolve) {entry : Entry}
    (spares : engine.SparesEntry blueprint action entry inputs) {other : Entry}
    (workflow : other.workflow = entry.workflow) :
    Echoes (· = ·) (engine.judge entry blueprint action inputs)
      (engine.judge other blueprint action inputs) := by
  have twins : Scope.Twins
      { caller := engine.caller, entry, blueprint, currentSteps := [] }
      { caller := engine.caller, entry := other, blueprint, currentSteps := [] } :=
    ⟨other, workflow, rfl⟩
  apply echoes_andThen (Toolkit.buildScope_echoes standard plain spares.registers twins inputs)
  intro left right built twins
  exact Toolkit.treePasses_echoes standard plain twins 0 (spares.restriction left built)

theorem judge_looks (entry : Entry) (blueprint : Blueprint) (action : Action) (inputs : Values) :
    Looks (fun _ => True) (engine.judge entry blueprint action inputs) := by
  have refuses := engine.kit.extensions.refuses_any
  apply looks_andThen (Toolkit.buildScope_looks refuses _ inputs)
  intro scope
  exact Toolkit.treePasses_looks refuses action.restriction

/-- The forecast is the judgement on the placeholder, where that does not fail. -/
theorem canStart_eq {actionId : ActionId} (world : World)
    (found : engine.initialAction workflow actionId = .ok (blueprint, action)) :
    engine.canStart workflow actionId inputs world =
      orElse false (engine.judge (placeholder workflow world.now) blueprint action inputs) world := by
  unfold canStart
  rw [found]
  rfl

/-- The forecast is yes just where the placeholder is judged well. -/
theorem canStart_iff {actionId : ActionId} {world : World}
    (found : engine.initialAction workflow actionId = .ok (blueprint, action)) :
    (engine.canStart workflow actionId inputs world).1 = .ok true ↔
      (engine.judge (placeholder workflow world.now) blueprint action inputs world).1 = .ok true := by
  rw [canStart_eq world found]
  unfold orElse
  split
  · rename_i reached
    rw [reached]
  · rename_i reached
    rw [reached]
    simp

theorem canStart_unknown {actionId : ActionId} {failure : Failure} (world : World)
    (missing : engine.initialAction workflow actionId = .error failure) :
    engine.canStart workflow actionId inputs world = (.ok false, world) := by
  unfold canStart
  rw [missing]
  rfl

/-- A forecast is always given, and leaves nothing behind but notes on the calls made for it. -/
theorem canStart_answers (engine : Engine) (workflow : String) (actionId : ActionId) (inputs : Values)
    (world : World) :
    ∃ answer calls, (∀ event ∈ calls, Event.isCall event = true) ∧
      engine.canStart workflow actionId inputs world = (.ok answer, world.note calls) := by
  cases found : engine.initialAction workflow actionId with
  | error failure =>
    refine ⟨false, [], by simp, ?_⟩
    simpa [World.note] using canStart_unknown world found
  | ok held =>
    obtain ⟨blueprint, action⟩ := held
    have looks : Looks _ (engine.judge (placeholder workflow world.now) blueprint action inputs) :=
      judge_looks ..
    obtain ⟨result, calls, areCalls, -, reached⟩ := looks
    rw [canStart_eq world found, orElse, reached]
    cases result with
    | ok answer => exact ⟨answer, calls, areCalls, rfl⟩
    | error failure => exact ⟨false, calls, areCalls, rfl⟩

/-! ### The judgement on the new entry -/

section Created

variable {entry : Entry} {created : World} (bare : created.store.propertiesOf entry.id = ∅)

include bare

/-- What is initiated has been judged well. -/
theorem judged_of_initiated {reached : ScopedAction × Turn} {after : World}
    (initiated : engine.initiate entry blueprint action inputs created = (.ok reached, after)) :
    ∃ world, (engine.judge entry blueprint action inputs world).1 = .ok true := by
  unfold initiate at initiated
  obtain ⟨properties, looked, read, rest⟩ := of_andThen_ok initiated
  have listed := ((World.properties_observes created entry.id).answer (.refl created) read).1
  rw [bare] at listed
  subst listed
  obtain ⟨scope, shown, built, judges⟩ := of_andThen_ok rest
  obtain ⟨allowed, judged, passes, picks⟩ := of_andThen_ok judges
  cases allowed with
  | false => cases picks
  | true =>
    refine ⟨looked, ?_⟩
    unfold judge
    rw [bind_eq, andThen_ok built, passes]

/-- Where the entry is judged well, only the store can keep it from being initiated. -/
theorem initiate_judged (well : ∀ world, (engine.judge entry blueprint action inputs world).1 = .ok true)
    {failure : Failure} {after : World}
    (failed : engine.initiate entry blueprint action inputs created = (.error failure, after)) :
    ∃ error, failure = .store error := by
  unfold initiate at failed
  cases read : World.properties entry.id created with
  | mk result looked =>
    have observes := World.properties_observes created entry.id
    cases result with
    | error refused =>
      rw [bind_eq, andThen_error read] at failed
      cases failed
      exact (observes.failure (.refl created) read).2
    | ok properties =>
      have listed := (observes.answer (.refl created) read).1
      rw [bare] at listed
      subst listed
      rw [bind_eq, andThen_ok read] at failed
      have judged := well looked
      unfold judge at judged
      cases built : engine.scope ∅ entry blueprint [] inputs looked with
      | mk result shown =>
        cases result with
        | error refused =>
          rw [bind_eq, andThen_error built] at judged
          cases judged
        | ok scope =>
          rw [bind_eq, andThen_ok built] at failed judged
          cases passes : engine.kit.treePasses scope ∅ 0 action.restriction shown with
          | mk result last =>
            rw [passes] at judged
            cases judged
            rw [bind_eq, andThen_ok passes] at failed
            cases failed

/-- A new entry that is judged well is not refused, however far its start gets. -/
theorem start_grants (standard : engine.Standard) (known : engine.catalog.get workflow = .ok blueprint)
    (runs : created.store.Runs entry.id workflow)
    (well : ∀ world, (engine.judge entry blueprint action inputs world).1 = .ok true) :
    Meets (· = created)
      (andThen (engine.runInitial entry blueprint action inputs)
        (engine.chain entry.id inputs engine.kit.settings.maxAutoChainDepth))
      (fun _ _ => True) (fun failure _ => failure.deniesStart = false) := by
  have observed {world : World} (looked : World.Observed created world) :
      world.store.Runs entry.id workflow :=
    (Store.runs_endures entry.id workflow).observed runs looked
  have observes : Meets (World.Observed created) (engine.initiate entry blueprint action inputs) _ _ :=
    initiate_observes engine.kit.extensions.refuses_any created
  have initiates : Meets (· = created) (engine.initiate entry blueprint action inputs)
      (fun reached world => reached.2.world = world ∧ world.store.Runs entry.id workflow)
      (fun failure _ => failure.deniesStart = false) := by
    intro start same
    subst same
    cases initiated : engine.initiate entry blueprint action inputs start with
    | mk result after =>
      cases result with
      | ok reached =>
        obtain ⟨rfl, shown⟩ := observes.answer (.refl start) initiated
        exact ⟨rfl, observed shown.observed⟩
      | error failure =>
        obtain ⟨error, rfl⟩ := initiate_judged bare well initiated
        rfl
  have initial : Meets (· = created) (engine.runInitial entry blueprint action inputs)
      (fun _ world => world.store.Runs entry.id workflow)
      (fun failure _ => failure.deniesStart = false) := by
    rw [runInitial_eq]
    apply meets_bind initiates
    intro selected
    exact meets_failures (carryOn_denies_no_start standard known action.id selected)
      fun _ _ ends => ends.2
  apply meets_andThen initial
  intro next
  exact meets_mono (chain_denies_no_start standard known _ next) (fun _ runs => runs)
    (fun _ _ _ => trivial) fun _ _ ends => ends.2

end Created

/-- A start fails where the new entry is not initiated, and leaves the world as it was found
then. -/
theorem startEntry_uninitiated {actionId : ActionId} {entry : Entry} {world created after : World}
    {failure : Failure}
    (found : engine.initialAction workflow actionId = .ok (blueprint, action))
    (creates : World.createEntry workflow world = (.ok entry, created))
    (failed : engine.initiate entry blueprint action inputs created = (.error failure, after)) :
    engine.startEntry workflow actionId inputs world = ⟨.error failure, after, true⟩ := by
  have stopped : engine.runInitial entry blueprint action inputs created = (.error failure, after) := by
    rw [runInitial_eq, bind_eq, andThen_error failed]
  rw [startEntry_created found creates]
  unfold Reply.ofRun
  rw [andThen_error (andThen_error stopped)]

/-! ### What a forecast tells -/

/-- No step has been created: the store is as it was, or has just the bare entry more. -/
def Fruitless (workflow : String) (world after : World) : Prop :=
  after.store = world.store ∨
    after.store =
      { world.store with
        records := world.store.records ++
          [{ entry := ⟨world.store.records.length + 1, workflow, .created, world.now⟩ }] }

section Foretold

variable {actionId : ActionId} {world : World} (standard : engine.Standard)
  (plain : engine.kit.resolver = Interpolation.resolve)
  (spares : engine.SparesEntry blueprint action (placeholder workflow world.now) inputs)
  (numbered : world.store.Numbered)

include numbered in
/-- A new entry is of the workflow, and has no properties. -/
theorem created_bare {entry : Entry} {created : World}
    (creates : World.createEntry workflow world = (.ok entry, created)) :
    entry.workflow = workflow ∧ created.store.propertiesOf entry.id = ∅ ∧
      created.store.Runs entry.id workflow := by
  have done := (World.createEntry_creates world workflow).answer rfl creates
  obtain ⟨isNew, -⟩ := Store.createEntry_eq done
  have named : entry.workflow = workflow := by rw [isNew]
  refine ⟨named, ?_, entry, ?_, named⟩
  · rw [Store.propertiesOf, Store.record?_createEntry numbered done, if_pos rfl]
    rfl
  · rw [Store.findEntry?_createEntry numbered done, if_pos rfl]

include standard plain spares numbered

/-- Where the placeholder is not judged well, the start fails and comes to nothing. -/
theorem start_refused (found : engine.initialAction workflow actionId = .ok (blueprint, action))
    (refused : (engine.judge (placeholder workflow world.now) blueprint action inputs world).1 ≠
      .ok true) :
    (∃ failure, (engine.startEntry workflow actionId inputs world).result = .error failure) ∧
      Fruitless workflow world (engine.startEntry workflow actionId inputs world).world := by
  cases creates : World.createEntry workflow world with
  | mk result created =>
    cases result with
    | error failure =>
      obtain ⟨same, -⟩ := (World.createEntry_creates world workflow).failure rfl creates
      rw [startEntry_refused found creates]
      exact ⟨⟨failure, rfl⟩, .inl same⟩
    | ok entry =>
      obtain ⟨named, bare, -⟩ := created_bare numbered creates
      have echoes := judge_echoes standard plain spares named
      have observes : Meets (World.Observed created)
          (engine.initiate entry blueprint action inputs) _ _ :=
        initiate_observes engine.kit.extensions.refuses_any created
      cases initiated : engine.initiate entry blueprint action inputs created with
      | mk result after =>
        cases result with
        | ok reached =>
          obtain ⟨other, well⟩ := judged_of_initiated bare initiated
          exact absurd ((echoes.same world other).trans well) refused
        | error failure =>
          have done := (World.createEntry_creates world workflow).answer rfl creates
          obtain ⟨rfl, stored⟩ := Store.createEntry_eq done
          have same : after.store = created.store := (observes.failure (.refl created) initiated).store
          rw [startEntry_uninitiated found creates initiated]
          exact ⟨⟨failure, rfl⟩, .inr (same.trans stored)⟩

/-- Where it is judged well, the start is not refused. -/
theorem start_not_denied (found : engine.initialAction workflow actionId = .ok (blueprint, action))
    (granted : (engine.judge (placeholder workflow world.now) blueprint action inputs world).1 =
      .ok true) {failure : Failure}
    (failed : (engine.startEntry workflow actionId inputs world).result = .error failure) :
    failure.deniesStart = false := by
  have exits := failedStart_of_failed failed
  revert exits
  generalize engine.startEntry workflow actionId inputs world = reply
  intro exits
  cases exits with
  | unknown missing =>
    rw [found] at missing
    cases missing
  | uncreated _ refused =>
    obtain ⟨-, error, rfl⟩ := (World.createEntry_creates world workflow).failure rfl refused
    rfl
  | @unfinished _ _ entry created after foundToo creates fails =>
    obtain ⟨rfl, rfl⟩ : blueprint = _ ∧ action = _ := by simpa [found] using foundToo
    obtain ⟨named, bare, runs⟩ := created_bare numbered creates
    have echoes := judge_echoes standard plain spares named
    have well (other : World) : (engine.judge entry blueprint action inputs other).1 = .ok true :=
      (echoes.same world other).symm.trans granted
    have known : engine.catalog.get workflow = .ok blueprint := known_of_initial found
    exact (start_grants bare standard known runs well).failure rfl fails

end Foretold

/-- A forecast on whatever has happened to a new store. It is always given, changes nothing, and
marks no work as failed. If the answer is no, the start fails and creates no step; if it is yes,
the start fails, if at all, neither because there is no such workflow nor because the caller is
barred. -/
theorem canStart_foretells (engine : Engine) (standard : engine.Standard)
    (plain : engine.kit.resolver = Interpolation.resolve) (workflow : String) (actionId : ActionId)
    (inputs : Values) (happenings : List Happening)
    (spares : ∀ blueprint action, engine.initialAction workflow actionId = .ok (blueprint, action) →
      engine.SparesEntry blueprint action
        (placeholder workflow (World.through {} happenings).now) inputs) :
    let world := World.through {} happenings
    let reply := engine.startEntry workflow actionId inputs world
    ∃ answer calls, engine.canStart workflow actionId inputs world = (.ok answer, world.note calls) ∧
      (∀ event ∈ calls, Event.isCall event = true) ∧
      (∀ marks, (Reply.ofRun marks (engine.canStart workflow actionId inputs) world).rollback = false) ∧
      (answer = false →
        (∃ failure, reply.result = .error failure) ∧ Fruitless workflow world reply.world) ∧
      (answer = true → ∀ failure, reply.result = .error failure →
        (∀ name, failure ≠ .workflowNotFound name) ∧
          ∀ caller name action, failure ≠ .unauthorized caller name action) := by
  intro world reply
  have new : ({} : World).store.Booked 0 0 := .new
  have numbered : world.store.Numbered := (World.booked_through new happenings).numbered
  obtain ⟨answer, calls, areCalls, answered⟩ := canStart_answers engine workflow actionId inputs world
  refine ⟨answer, calls, answered, areCalls, fun marks => ?_, ?_, ?_⟩
  · unfold Reply.ofRun
    rw [answered]
  · rintro rfl
    cases found : engine.initialAction workflow actionId with
    | error failure =>
      have turnedDown : reply = ⟨.error failure, world, false⟩ := by
        unfold reply startEntry
        rw [found]
      rw [turnedDown]
      exact ⟨⟨failure, rfl⟩, .inl rfl⟩
    | ok held =>
      obtain ⟨blueprint, action⟩ := held
      apply start_refused standard plain (spares blueprint action found) numbered found
      intro granted
      have foretold := (canStart_iff found).mpr granted
      rw [answered] at foretold
      cases foretold
  · rintro rfl failure failed
    have foretold : (engine.canStart workflow actionId inputs world).1 = .ok true := by rw [answered]
    cases found : engine.initialAction workflow actionId with
    | error missing =>
      rw [canStart_unknown world found] at foretold
      cases foretold
    | ok held =>
      obtain ⟨blueprint, action⟩ := held
      have granted := (canStart_iff found).mp foretold
      have allowed := start_not_denied standard plain (spares blueprint action found) numbered found
        granted failed
      constructor
      · rintro name rfl
        cases allowed
      · rintro caller name action rfl
        cases allowed

end Engine

/-- A workflow that Ann may start if the field she names has the right value. -/
def gated : Blueprint where
  name := "gated"
  registers := [{ name := "limit", type := "property", args := .ofList [("name", "${caller}")] }]
  initialActions :=
    [{ id := 1
       restriction := some
         { children :=
            [.leaf { call := { type := "caller", args := .ofList [("caller", "ann")] } },
             .leaf
               { call := { type := "input", args := .ofList [("name", "${field}"), ("value", "5")] } }] }
       validators := [{ type := "required-inputs", args := .ofList [("names", "contract")] }]
       unconditionalOutcome := some { target := .step 1 } }]
  steps := [{ id := 1 }]

/-- An engine that knows it. -/
def gatedEngine : Engine where
  catalog := ((default : Catalog).register gated).toOption.getD default
  caller := some "ben"

/-- What Ann names. -/
def gatedInputs : Values := .ofList [("amount", .str "5"), ("field", .str "amount")]

/-- The same engine for Ann. -/
def annsEngine : Engine :=
  gatedEngine.asCaller (some "ann")

/-- A judgement spares the entry if it does so in the scope that is built for it in one world. -/
private theorem sparesEntry_of_eval {engine : Engine} {blueprint : Blueprint} {action : Action}
    {entry : Entry} {inputs : Values}
    (registers : ∀ register ∈ blueprint.registers, register.args.SpareEntry)
    (restriction : (match (engine.scope ∅ entry blueprint [] inputs default).1 with
      | .ok scope => decide (∀ conditions ∈ action.restriction, ∀ check ∈ conditions.nested.checks,
          engine.kit.SparesEntry scope ∅ check.call)
      | .error _ => true) = true) :
    engine.SparesEntry blueprint action entry inputs := by
  refine ⟨registers, fun scope built => ?_⟩
  obtain ⟨world, built⟩ := built
  have looks : Looks (fun _ => True) (engine.scope ∅ entry blueprint [] inputs) :=
    Toolkit.buildScope_looks engine.kit.extensions.refuses_any _ inputs
  rw [answer_of_looks looks default world, built] at restriction
  exact of_decide_eq_true restriction

/-- Ben is refused as forecast. Ann is not, and fails for what her contract lacks. -/
theorem gated_foretold :
    let world := World.through {} World.staging
    let forBen := gatedEngine.startEntry "gated" 1 gatedInputs world
    let forAnn := annsEngine.startEntry "gated" 1 gatedInputs world
    (gatedEngine.canStart "gated" 1 gatedInputs world).1 = .ok false ∧
      (∃ failure, forBen.result = .error failure) ∧ Engine.Fruitless "gated" world forBen.world ∧
      (annsEngine.canStart "gated" 1 gatedInputs world).1 = .ok true ∧
      ∃ failure, forAnn.result = .error failure ∧ (∀ name, failure ≠ .workflowNotFound name) ∧
        ∀ caller name action, failure ≠ .unauthorized caller name action := by
  intro world forBen forAnn
  have found : gatedEngine.initialAction "gated" 1 = .ok (gated, gated.initialActions.head!) := rfl
  have foundToo : annsEngine.initialAction "gated" 1 = .ok (gated, gated.initialActions.head!) := rfl
  have refused : (gatedEngine.canStart "gated" 1 gatedInputs world).1 = .ok false :=
    ok_of_eval (by decide +kernel)
  have granted : (annsEngine.canStart "gated" 1 gatedInputs world).1 = .ok true :=
    ok_of_eval (by decide +kernel)
  have failed : forAnn.result = .error (.invalidInput "missing required inputs: 1"
      (.ofList [("contract", "required")])) := failed_of_eval (by decide +kernel)
  have bens := Engine.canStart_foretells gatedEngine rfl rfl "gated" 1 gatedInputs World.staging (by
    rintro blueprint action same
    rw [found] at same
    cases same
    exact sparesEntry_of_eval (by decide +kernel) (by decide +kernel))
  have anns := Engine.canStart_foretells annsEngine rfl rfl "gated" 1 gatedInputs World.staging (by
    rintro blueprint action same
    rw [foundToo] at same
    cases same
    exact sparesEntry_of_eval (by decide +kernel) (by decide +kernel))
  obtain ⟨answer, calls, answered, -, -, no, -⟩ := bens
  obtain ⟨answerToo, callsToo, answeredToo, -, -, -, yes⟩ := anns
  rw [answered] at refused
  rw [answeredToo] at granted
  cases refused
  cases granted
  have nothing := no rfl
  refine ⟨congrArg Prod.fst answered, nothing.1, nothing.2, congrArg Prod.fst answeredToo, _, failed, ?_⟩
  exact yes rfl _ failed

end Caseflow
