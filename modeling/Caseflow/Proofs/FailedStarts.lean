import Caseflow.Proofs.Histories
import Caseflow.Proofs.Isolation
import Caseflow.Proofs.Shapes
/-! Starts that fail. A start can be turned down before anything happens, for a workflow or an
action that there is not; or the creation of the entry fails; or what is done with the new entry
does, at any point up to the last action that follows on its own. Only the first leaves the work of
the caller standing. The built-in extensions leave all other entries alone, so a new entry is all
that a failure can leave behind, and a bare one where the caller was barred. -/
namespace Caseflow

open Run

/-- The caller is barred from what was asked for. -/
def Failure.isUnauthorized : Failure → Bool
  | .unauthorized _ _ _ => true
  | _ => false

/-- No built-in extension judges the caller in the place of the engine. -/
theorem Builtin.Refusal.authorized {kind : ExtensionKind} {failure : Failure}
    (refusal : Refusal kind failure) : failure.isUnauthorized = false := by
  cases refusal <;> rfl

/-- A failure because the caller is barred has left the store as it was. -/
def World.UnwrittenIfBarred (start : World) (failure : Failure) (after : World) : Prop :=
  failure.isUnauthorized = true → after.store = start.store

/-! ### New entries -/

namespace Store

variable {store after : Store}

theorem id_of_index (numbered : store.Numbered) {index : Nat} (within : index < store.records.length) :
    store.records[index].entry.id = index + 1 := by
  have ids : (store.records.map (·.entry.id))[index]? =
      (List.range' 1 store.records.length)[index]? := by
    rw [numbered]
  simpa [within, Nat.add_comm] using ids

/-- The records stand in the order of their numbers. -/
theorem record?_succ (numbered : store.Numbered) (index : Nat) :
    store.record? (index + 1) = store.records[index]? := by
  by_cases within : index < store.records.length
  · rw [List.getElem?_eq_getElem within, record?, List.find?_eq_some_iff_getElem]
    refine ⟨by simp [id_of_index numbered within], index, within, rfl, fun earlier before => ?_⟩
    simp [id_of_index numbered (Nat.lt_trans before within), Nat.ne_of_lt before]
  · rw [List.getElem?_eq_none (Nat.le_of_not_lt within), record?, List.find?_eq_none]
    intro record member
    obtain ⟨place, inside, rfl⟩ := List.getElem_of_mem member
    have apart : place ≠ index := fun same => within (same ▸ inside)
    simp [id_of_index numbered inside, apart]

/-- A store that shows of every number but the next one what was there before has the same records,
and at most one more. -/
theorem Numbered.grown (numbered : store.Numbered) (numberedAfter : after.Numbered)
    (leaves : ∀ id, id ≠ store.records.length + 1 → after.record? id = store.record? id) :
    ∃ added, added.length ≤ 1 ∧ after.records = store.records ++ added := by
  have others (index : Nat) (apart : index ≠ store.records.length) :
      after.records[index]? = store.records[index]? := by
    rw [← record?_succ numberedAfter, ← record?_succ numbered]
    exact leaves (index + 1) fun same => apart (Nat.succ.inj same)
  refine ⟨after.records.drop store.records.length, ?_, ?_⟩
  · have beyond : after.records[store.records.length + 1]? = none := by
      rw [others _ (Nat.succ_ne_self _)]
      exact List.getElem?_eq_none (Nat.le_succ _)
    rw [List.length_drop]
    have short := List.getElem?_eq_none_iff.mp beyond
    omega
  · have first : after.records.take store.records.length = store.records := by
      apply List.ext_getElem?
      intro index
      by_cases within : index < store.records.length
      · rw [List.getElem?_take_of_lt within, others index (Nat.ne_of_lt within)]
      · rw [List.getElem?_take_eq_none (Nat.le_of_not_lt within),
          List.getElem?_eq_none (Nat.le_of_not_lt within)]
    calc after.records
        = after.records.take store.records.length ++ after.records.drop store.records.length :=
          (List.take_append_drop _ _).symm
      _ = store.records ++ after.records.drop store.records.length := by rw [first]

end Store

/-- An entry is created as the store says, or the store refuses and stays as it is. -/
theorem World.createEntry_creates (world : World) (workflow : String) :
    Meets (· = world) (World.createEntry workflow)
      (fun entry created => world.store.createEntry workflow world.now = .ok (entry, created.store))
      fun failure after => after.store = world.store ∧ ∃ error, failure = .store error := by
  refine meets_request (fun start entry created same served => ?_) fun start error after same served => ?_
  · subst same
    cases served with
    | answered entry store done => exact done
    | absent entry lost => cases lost
  · subst same
    cases served with
    | refused error => exact ⟨rfl, error, rfl⟩

namespace Engine

variable {engine : Engine} {workflow : String} {actionId : ActionId} {inputs : Values}
  {world : World} {failure : Failure} {reply : Reply EntryId}

/-! ### The exits of a start -/

/-- How a start fails, and how it replies: there is nothing to start; or no entry is created, which
marks the work if the failure asks for it; or something fails for the new entry, which always
does. -/
inductive FailedStart (engine : Engine) (workflow : String) (actionId : ActionId) (inputs : Values)
    (world : World) (failure : Failure) : Reply EntryId → Prop where
  | unknown (missing : engine.initialAction workflow actionId = .error failure) :
      FailedStart engine workflow actionId inputs world failure ⟨.error failure, world, false⟩
  | uncreated {blueprint : Blueprint} {action : Action} {after : World}
      (found : engine.initialAction workflow actionId = .ok (blueprint, action))
      (refused : World.createEntry workflow world = (.error failure, after)) :
      FailedStart engine workflow actionId inputs world failure
        ⟨.error failure, after, failure.requiresRollback⟩
  | unfinished {blueprint : Blueprint} {action : Action} {entry : Entry} {created after : World}
      (found : engine.initialAction workflow actionId = .ok (blueprint, action))
      (creates : World.createEntry workflow world = (.ok entry, created))
      (fails : andThen (engine.runInitial entry blueprint action inputs)
        (engine.chain entry.id inputs engine.kit.settings.maxAutoChainDepth) created =
          (.error failure, after)) :
      FailedStart engine workflow actionId inputs world failure ⟨.error failure, after, true⟩

theorem failedStart_of_failed
    (failed : (engine.startEntry workflow actionId inputs world).result = .error failure) :
    FailedStart engine workflow actionId inputs world failure
      (engine.startEntry workflow actionId inputs world) := by
  cases found : engine.initialAction workflow actionId with
  | error missing =>
    have turnedDown : engine.startEntry workflow actionId inputs world =
        ⟨.error missing, world, false⟩ := by
      unfold startEntry
      rw [found]
    rw [turnedDown] at failed ⊢
    cases failed
    exact .unknown found
  | ok held =>
    obtain ⟨blueprint, action⟩ := held
    cases creates : World.createEntry workflow world with
    | mk result created =>
      cases result with
      | error refused =>
        rw [startEntry_refused found creates] at failed ⊢
        cases failed
        obtain ⟨-, error, rfl⟩ := (World.createEntry_creates world workflow).failure rfl creates
        exact .uncreated found creates
      | ok entry =>
        rw [startEntry_created found creates] at failed ⊢
        unfold Reply.ofRun at failed ⊢
        rw [andThen_done] at failed ⊢
        cases ran : andThen (engine.runInitial entry blueprint action inputs)
            (engine.chain entry.id inputs engine.kit.settings.maxAutoChainDepth) created with
        | mk result after =>
          rw [ran] at failed
          cases result with
          | ok value => cases failed
          | error other =>
            cases failed
            exact .unfinished found creates ran

/-! ### What a failure tells -/

theorem unknown_authorized (unknown : engine.catalog.get workflow = .error failure) :
    failure.isUnauthorized = false := by
  obtain rfl := Catalog.get_fails unknown
  rfl

theorem uninitiated_authorized
    (missing : engine.initialAction workflow actionId = .error failure) :
    failure.isUnauthorized = false := by
  obtain ⟨-, rfl⟩ | ⟨_, -, -, rfl⟩ := nothing_to_start missing <;> rfl

theorem moves_authorized (finishedStatus : String) (entryId : EntryId) (target : EntryState)
    (actionId : ActionId) (caller : Option String) :
    Keeps (fun _ => True) (fun failure => failure.isUnauthorized = false)
      (Lifecycle.move finishedStatus entryId target actionId caller) :=
  Lifecycle.move_keeps (fun _ => rfl) (fun _ _ _ => rfl)
    (fun _ _ => keeps_request (fun _ => rfl) fun _ _ _ _ _ => trivial) _ _ _ _ _

/-- Nothing but the judgement of an initial action fails because the caller is barred. -/
theorem Standard.authorizes (standard : engine.Standard) :
    engine.Upholds (fun _ => True) fun failure => failure.isUnauthorized = false where
  store _ := rfl
  absent _ := rfl
  inactive _ _ := rfl
  unknown := unknown_authorized
  unavailable _ _ := rfl
  endless _ := rfl
  hooks := standard.modest.toRefuses.mono fun _ _ refusal => refusal.authorized
  looked _ _ := trivial
  executed chosen turn _ := by
    have anything : World.Enduring (fun _ => True) fun _ => True :=
      ⟨fun _ _ => trivial, fun _ _ => trivial, fun _ _ _ => trivial, fun _ _ _ _ _ => trivial⟩
    have hosts : engine.kit.Hosts (fun failure => ∃ kind, Builtin.Refusal kind failure)
        fun _ => True :=
      Toolkit.hosts_of_modest (fun _ _ _ _ => trivial) standard.modest
    refine Toolkit.execute_meets anything.carried.toBears
      (Toolkit.closeStep_keeps anything.carried) hosts moves_authorized ?_ chosen turn trivial
    rintro failure (⟨kind, refusal⟩ | _ | _ | _ | _)
    · exact refusal.authorized
    all_goals rfl
  moved := moves_authorized

/-- Where the caller is barred from starting a new entry, nothing has been written to it. -/
theorem start_unwritten_if_barred (standard : engine.Standard) (entry : Entry) (blueprint : Blueprint)
    (action : Action) (created : World) :
    Meets (· = created)
      (andThen (engine.runInitial entry blueprint action inputs)
        (engine.chain entry.id inputs engine.kit.settings.maxAutoChainDepth))
      (fun _ _ => True) created.UnwrittenIfBarred := by
  have authorizes := standard.authorizes
  have never {failure : Failure} {after : World} (ends : True ∧ failure.isUnauthorized = false) :
      created.UnwrittenIfBarred failure after := by
    intro unauthorized
    rw [ends.2] at unauthorized
    cases unauthorized
  have judges : Meets (World.Observed created) (engine.initiate entry blueprint action inputs) _ _ :=
    initiate_observes engine.kit.extensions.refuses_any created
  have judged : Meets (· = created) (engine.initiate entry blueprint action inputs)
      (fun reached world => reached.2.world = world ∧ True) created.UnwrittenIfBarred :=
    meets_mono (meets_at judges (.refl created)) (fun _ same => same)
      (fun _ _ ends => ⟨ends.1, trivial⟩) fun _ _ observed _ => observed.store
  have initial : Meets (· = created) (engine.runInitial entry blueprint action inputs)
      (fun _ _ => True) created.UnwrittenIfBarred := by
    rw [runInitial_eq]
    apply meets_bind judged
    intro selected
    exact meets_failures (authorizes.carryOn_keeps action.id selected) fun _ _ => never
  apply meets_andThen initial
  intro next
  exact meets_failures (authorizes.chain_keeps _ next) fun _ _ => never

namespace FailedStart

/-- Only what there is nothing to start for is not marked, and it has done nothing. -/
theorem marked (failed : FailedStart engine workflow actionId inputs world failure reply) :
    (engine.catalog.get workflow = .error failure ∧ failure = .workflowNotFound workflow ∨
        ∃ blueprint, engine.catalog.get workflow = .ok blueprint ∧
          (∀ action ∈ blueprint.initialActions, action.id ≠ actionId) ∧
          failure = .notInitialAction actionId workflow) ∧
      reply.world = world ∧ reply.rollback = false ∨
    reply.rollback = true := by
  cases failed with
  | unknown missing =>
    have why := nothing_to_start missing
    apply Or.inl
    constructor
    · apply why.imp_right
      rintro ⟨blueprint, known, absent, cause⟩
      refine ⟨blueprint, known, fun action member => ?_, cause⟩
      simpa using List.find?_eq_none.mp absent action member
    · exact ⟨rfl, rfl⟩
  | uncreated found refused =>
    obtain ⟨-, error, rfl⟩ := (World.createEntry_creates world workflow).failure rfl refused
    exact .inr rfl
  | unfinished found creates fails => exact .inr rfl

/-- A start that fails leaves all numbers but the next one as they were. -/
theorem leaves (standard : engine.Standard) (numbered : world.store.Numbered)
    (failed : FailedStart engine workflow actionId inputs world failure reply) (id : EntryId)
    (apart : id ≠ world.store.records.length + 1) :
    reply.world.store.record? id = world.store.record? id := by
  cases failed with
  | unknown missing => rfl
  | uncreated found refused =>
    obtain ⟨same, -⟩ := (World.createEntry_creates world workflow).failure rfl refused
    exact congrArg (·.record? id) same
  | @unfinished blueprint action entry created after found creates fails =>
    have done := (World.createEntry_creates world workflow).answer rfl creates
    have number : entry.id = world.store.records.length + 1 :=
      congrArg Entry.id (Store.createEntry_eq done).1
    have filed : created.store.Filed entry.id := by
      unfold Store.Filed
      rw [Store.currentSteps_createEntry numbered done, if_pos rfl]
      exact List.forall_mem_nil _
    have alike : Alike (World.Parallel entry.id created created)
        (andThen (engine.runInitial entry blueprint action inputs)
          (engine.chain entry.id inputs engine.kit.settings.maxAutoChainDepth)) fun _ => True :=
      alike_andThen (runInitial_alike standard rfl blueprint action) fun next _ =>
        chain_alike standard _ next
    obtain ⟨-, worlds, -⟩ := alike created created ((World.Agree.refl _ created).parallel filed)
    rw [fails] at worlds
    calc after.store.record? id
        = created.store.record? id := worlds.leaves id (number ▸ apart)
      _ = world.store.record? id := by
          rw [Store.record?_createEntry numbered done, if_neg (number ▸ apart)]

/-- Where the caller is barred, there is the bare new entry, and nothing else has changed. -/
theorem bare (standard : engine.Standard)
    (failed : FailedStart engine workflow actionId inputs world failure reply)
    (unauthorized : failure.isUnauthorized = true) :
    reply.world.store =
      { world.store with
        records := world.store.records ++
          [{ entry := ⟨world.store.records.length + 1, workflow, .created, world.now⟩ }] } := by
  cases failed with
  | unknown missing =>
    rw [uninitiated_authorized missing] at unauthorized
    cases unauthorized
  | uncreated found refused =>
    obtain ⟨-, error, rfl⟩ := (World.createEntry_creates world workflow).failure rfl refused
    cases unauthorized
  | @unfinished blueprint action entry created after found creates fails =>
    have done := (World.createEntry_creates world workflow).answer rfl creates
    obtain ⟨isNew, stored⟩ := Store.createEntry_eq done
    have same : after.store = created.store :=
      (start_unwritten_if_barred standard entry blueprint action created).failure rfl fails unauthorized
    show after.store = _
    rw [same, stored, isNew]

end FailedStart

/-- A start on whatever has happened to a new store, wherever the store falls out of order. If it
fails, then either there is no such workflow, or none of its initial actions has the number, and
nothing has happened at all; or the work of the caller is marked. With the built-in extensions at
most one entry has been added in any case, and all others are as they were; and if the caller was
barred, it has been added, as it was created, without steps and properties. -/
theorem failed_start_contained (engine : Engine) (workflow : String) (actionId : ActionId)
    (inputs : Values) (outages : Outages) (now : Instant) (happenings : List Happening)
    (failure : Failure) :
    let world := World.through { outages, now } happenings
    let reply := engine.startEntry workflow actionId inputs world
    reply.result = .error failure →
      ((engine.catalog.get workflow = .error failure ∧ failure = .workflowNotFound workflow ∨
            ∃ blueprint, engine.catalog.get workflow = .ok blueprint ∧
              (∀ action ∈ blueprint.initialActions, action.id ≠ actionId) ∧
              failure = .notInitialAction actionId workflow) ∧
          reply.world = world ∧ reply.rollback = false ∨
        reply.rollback = true) ∧
      (engine.Standard →
        (∃ added, added.length ≤ 1 ∧
          reply.world.store.records = world.store.records ++ added) ∧
        ∀ caller name action, failure = .unauthorized caller name action →
          reply.world.store =
            { world.store with
              records := world.store.records ++
                [{ entry := ⟨world.store.records.length + 1, workflow, .created, world.now⟩,
                   current := [], history := [], properties := ∅ }] }) := by
  intro world reply failed
  have exits := failedStart_of_failed failed
  have new : ({ outages, now } : World).store.Booked 0 0 := .new
  have booked := World.booked_through new happenings
  have numberedAfter : reply.world.store.Numbered := by
    obtain ⟨more, reached⟩ := World.perform_through engine world (.start workflow actionId inputs)
    have after : reply.world = world.through more := reached
    rw [after]
    exact (World.booked_through booked more).numbered
  refine ⟨exits.marked, fun standard => ?_⟩
  constructor
  · exact booked.numbered.grown numberedAfter (exits.leaves standard booked.numbered)
  · rintro caller name action rfl
    exact exits.bare standard rfl

end Engine

/-- A workflow that nobody may start. -/
def barred : Blueprint where
  name := "barred"
  initialActions :=
    [{ id := 1, restriction := some { children := [.leaf { call := { type := "never" } }] },
       unconditionalOutcome := some { target := .step 1 } }]
  steps := [{ id := 1 }]

/-- An engine that knows it. -/
def barredEngine : Engine where
  catalog := ((default : Catalog).register barred).toOption.getD default

/-- Next to an entry with a step, just the bare entry is left behind, and the work is marked. -/
theorem barred_start_contained :
    let world := World.through {} World.staging
    let reply := barredEngine.startEntry "barred" 1 ∅ world
    reply.result = .error (.unauthorized none "barred" 1) ∧ barredEngine.Standard ∧
      reply.world.store.records =
        world.store.records ++ [{ entry := ⟨2, "barred", .created, ⟨0, 0⟩⟩ }] ∧
      reply.rollback = true := by
  intro world reply
  have failed : reply.result = .error (.unauthorized none "barred" 1) :=
    failed_of_eval (by decide +kernel)
  have standard : barredEngine.Standard := rfl
  have contained := Engine.failed_start_contained barredEngine "barred" 1 ∅ {} ⟨0, 0⟩ World.staging
    (.unauthorized none "barred" 1) failed
  obtain ⟨-, added⟩ := contained
  have stored := (added standard).2 none "barred" 1 rfl
  refine ⟨failed, standard, ?_, by decide +kernel⟩
  exact congrArg Store.records stored

end Caseflow
