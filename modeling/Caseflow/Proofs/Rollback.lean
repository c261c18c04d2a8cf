import Mathlib.Data.List.Find
import Caseflow.Proofs.Runs
/-! When a failed call marks the work of its caller for rollback. Refusals that need no rollback
come before the first write, with one exception: the action that follows on its own is found by
walking through all actions, and is then looked up by its number, which another action may bear. -/
namespace Caseflow

open Run

namespace Toolkit

section Numbers

variable {blueprint : Blueprint} {steps : List Step} {number : ActionId} {wanted : ScopedAction}
  {sought : ScopedAction → Bool}

/-- No step offers different actions under the number. -/
def Sole (blueprint : Blueprint) (steps : List Step) (number : ActionId) : Prop :=
  ∀ step ∈ steps, ∀ action ∈ blueprint.actionsForStep step.defId,
    ∀ other ∈ blueprint.actionsForStep step.defId,
      action.id = number → other.id = number → action = other

/-- What is sought under a number is offered as the first action of the number, or not at all. -/
private theorem find?_offered (numbered : ∀ action, sought action = true → action.id = number)
    (sole : Sole blueprint steps number) :
    (steps.filterMap fun step =>
        (blueprint.actionForStep? step.defId number).map (·, step.defId)).find? (sought ·.1) =
      (steps.flatMap fun step =>
        (blueprint.actionsForStep step.defId).map (·, step.defId)).find? (sought ·.1) := by
  induction steps with
  | nil => rfl
  | cons step rest ih =>
    have later := ih fun step member => sole step (List.mem_cons_of_mem _ member)
    rw [List.flatMap_cons, List.find?_append, List.find?_map, ← later, List.filterMap_cons]
    cases offered : blueprint.actionForStep? step.defId number with
    | none =>
      have missing : (blueprint.actionsForStep step.defId).find? sought = none := by
        refine List.find?_eq_none.mpr fun action member isSought => ?_
        simpa [numbered action isSought] using List.find?_eq_none.mp offered action member
      simp [missing]
    | some first =>
      have isFirst : first.id = number := by simpa using List.find?_some offered
      have only : ∀ action ∈ blueprint.actionsForStep step.defId, sought action = true →
          action = first := fun action member isSought =>
        sole step (List.mem_cons_self ..) action member first (List.mem_of_find?_eq_some offered)
          (numbered action isSought) isFirst
      have found : (blueprint.actionsForStep step.defId).find? sought =
          if sought first = true then some first else none := by
        cases met : (blueprint.actionsForStep step.defId).find? sought with
        | none =>
          have refused := List.find?_eq_none.mp met first (List.mem_of_find?_eq_some offered)
          rw [if_neg refused]
        | some action =>
          have isSought := List.find?_some met
          obtain rfl := only action (List.mem_of_find?_eq_some met) isSought
          rw [if_pos isSought]
      cases isSought : sought first <;> simp [found, isSought]

/-- Where no step offers different actions under a number, the search by number meets what is sought
under it first at the step where the walk through all actions does. -/
theorem find?_candidatesFor (numbered : ∀ action, sought action = true → action.id = number)
    (sole : Sole blueprint steps number) :
    (candidatesFor blueprint steps number).find? (sought ·.1) =
      (candidates blueprint steps).find? (sought ·.1) := by
  unfold candidatesFor candidates
  rw [List.find?_append, List.find?_append, find?_offered numbered sole]
  congr 1
  rw [List.find?_map, List.find?_map, List.find?_filter]
  congr 2
  funext action
  cases isSought : sought action with
  | false => simp [isSought]
  | true => simp [isSought, numbered action isSought]

/-- What is a candidate under a number is a candidate of that number. -/
theorem candidate_of_candidateFor {number : ActionId} {candidate : Candidate}
    (member : candidate ∈ candidatesFor blueprint steps number) :
    candidate ∈ candidates blueprint steps ∧ candidate.1.id = number := by
  rcases List.mem_append.mp member with isGlobal | offered
  · obtain ⟨action, numbered, rfl⟩ := List.mem_map.mp isGlobal
    obtain ⟨declared, same⟩ := List.mem_filter.mp numbered
    exact ⟨List.mem_append_left _ (List.mem_map.mpr ⟨action, declared, rfl⟩), by simpa using same⟩
  · obtain ⟨step, current, offer⟩ := List.mem_filterMap.mp offered
    obtain ⟨action, found, rfl⟩ := Option.map_eq_some_iff.mp offer
    have offers := List.mem_of_find?_eq_some found
    refine ⟨List.mem_append_right _ (List.mem_flatMap.mpr ⟨step, current, ?_⟩), ?_⟩
    · exact List.mem_map.mpr ⟨action, offers, rfl⟩
    · simpa using List.find?_some found

/-- An automatic action whose number no other action bears is first met at the same step by both
searches. -/
theorem find?_automatic {before after : List Candidate} {stepId : StepDefId}
    (unique : ∀ other ∈ candidates blueprint steps, other.1.id = wanted.id → other.1 = wanted)
    (split : (candidates blueprint steps).filter (·.1.action.autoExecute) =
      before ++ (wanted, stepId) :: after)
    (new : before.find? (·.1.key = wanted.key) = none) :
    (candidatesFor blueprint steps wanted.id).find? (·.1.key = wanted.key) =
      some (wanted, stepId) := by
  have automatic : wanted.action.autoExecute = true := by
    have member : (wanted, stepId) ∈ (candidates blueprint steps).filter (·.1.action.autoExecute) := by
      rw [split]
      simp
    exact (List.mem_filter.mp member).2
  have sole : Sole blueprint steps wanted.id := by
    intro step current action offered other alsoOffered numbered alsoNumbered
    have candidate (offer : ScopedAction) (member : offer ∈ blueprint.actionsForStep step.defId) :
        (offer, step.defId) ∈ candidates blueprint steps :=
      List.mem_append_right _ (List.mem_flatMap.mpr ⟨step, current, List.mem_map_of_mem member⟩)
    exact (unique _ (candidate action offered) numbered).trans
      (unique _ (candidate other alsoOffered) alsoNumbered).symm
  have numbered (action : ScopedAction) (same : decide (action.key = wanted.key) = true) :
      action.id = wanted.id :=
    congrArg ActionKey.actionId (of_decide_eq_true same)
  have walked : ((candidates blueprint steps).filter (·.1.action.autoExecute)).find?
      (·.1.key = wanted.key) = some (wanted, stepId) := by
    rw [split, List.find?_append, new]
    simp
  rw [find?_candidatesFor numbered sole, ← walked, List.find?_filter]
  refine List.find?_congr fun other member => ?_
  by_cases same : other.1.key = wanted.key
  · have isWanted : other.1 = wanted := unique other member (congrArg ActionKey.actionId same)
    simp [isWanted, automatic]
  · simp [same]

end Numbers

end Toolkit

namespace Engine

variable {engine : Engine} {entryId : EntryId} {inputs : Values} {number : ActionId} {store : Store}

/-- An automatic action of the number is available on the entry, and yet every candidate of the
number is refused where it is first met, for another action bears the number, too. -/
structure Mistaken (engine : Engine) (entryId : EntryId) (inputs : Values) (number : ActionId)
    (store : Store) : Prop where
  clash : ∃ scope automatic stepId other,
    engine.Sees entryId inputs store scope ∧
      (automatic, stepId) ∈ Toolkit.candidates scope.blueprint scope.currentSteps ∧
      automatic.action.autoExecute = true ∧ ScopedAction.id automatic = number ∧
      engine.kit.judgement scope (store.propertiesOf entryId) automatic stepId = .ok true ∧
      (∀ key candidate stepId,
        (Toolkit.candidatesFor scope.blueprint scope.currentSteps number).find? (·.1.key = key) =
            some (candidate, stepId) →
          engine.kit.judgement scope (store.propertiesOf entryId) candidate stepId = .ok false) ∧
      other ∈ Toolkit.candidates scope.blueprint scope.currentSteps ∧
      other.1.id = number ∧ other.1 ≠ automatic

/-- There is one scope only that an engine sees. -/
theorem Sees.unique {scope other : Scope} (sees : engine.Sees entryId inputs store scope)
    (also : engine.Sees entryId inputs store other) : other = scope := by
  have entry : other.entry = scope.entry := Option.some.inj (also.found.symm.trans sees.found)
  have blueprint : other.blueprint = scope.blueprint := by
    have known := also.known
    rw [entry, sees.known] at known
    exact (Except.ok.inj known).symm
  have built := also.built default
  rw [entry, blueprint, also.steps, ← sees.steps, sees.built] at built
  exact (Except.ok.inj built).symm

/-- A pending action that is not found under its number was mistaken for another one. -/
theorem mistaken_of_unavailable {scope : Scope} {known : Availability}
    (pending : engine.Pending entryId inputs store number)
    (sees : engine.Sees entryId inputs store scope)
    (denied : Toolkit.Denied engine.kit scope (store.propertiesOf entryId)
      (Toolkit.candidatesFor scope.blueprint scope.currentSteps number) known) :
    engine.Mistaken entryId inputs number store := by
  obtain ⟨seen, automatic, before, stepId, after, _, also, rfl, split, granted⟩ := pending.found
  obtain rfl := sees.unique also
  have member : (automatic, stepId) ∈ (Toolkit.candidates seen.blueprint seen.currentSteps).filter
      (·.1.action.autoExecute) := by
    rw [split]
    simp
  obtain ⟨isCandidate, fires⟩ := List.mem_filter.mp member
  by_cases unique : ∀ other ∈ Toolkit.candidates seen.blueprint seen.currentSteps,
      other.1.id = automatic.id → other.1 = automatic
  · -- the search by number would have judged the action where the walk judged it
    have first := Toolkit.find?_automatic unique split granted.new
    have refused := denied.judged _ _ _ first
    rw [granted.judged] at refused
    cases refused
  · simp only [not_forall, exists_prop] at unique
    obtain ⟨other, isOther, same, apart⟩ := unique
    exact ⟨seen, automatic, stepId, other, sees, isCandidate, fires, rfl, granted.judged,
      denied.judged, isOther, same, apart⟩

variable {around : Surroundings}

/-- What stops a call once an action is selected asks for a rollback, unless the entry is lost. -/
private theorem rollback_of_broken (candid : around.Candid) {failure : Failure}
    (broken : Broken Builtin.Refusal around entryId failure) : failure.requiresRollback = true := by
  cases broken with
  | refused cause =>
    cases cause with
    | hook was =>
      obtain ⟨kind, refusal⟩ := was
      exact refusal.requiresRollback
    | store error => rfl
    | step id => rfl
    | defect defect => rfl
    | setUp cause => rfl
  | lost lost => exact absurd candid lost

/-- An action that is pending is declined for its number, or by a failure that asks for a
rollback. -/
private theorem declined_pending {start : World}
    (candid : ∀ call, start.outages.verdict .findEntry call ≠ some .absence)
    (pending : engine.Pending entryId inputs start.store number) {failure : Failure}
    (declined : Declined engine Builtin.Refusal entryId inputs number start failure) :
    failure.requiresRollback = true ∨
      failure = .actionNotAvailable number entryId ∧
        engine.Mistaken entryId inputs number start.store := by
  obtain ⟨scope, -, -, -, -, -, sees, -⟩ := pending.found
  cases declined with
  | notFound cause =>
    cases cause with
    | store error => exact .inl rfl
    | missing gone => exact absurd (sees.found.symm.trans gone) nofun
    | lost call met => exact absurd met (candid call)
  | inactive entry found idle =>
    obtain rfl := Option.some.inj (sees.found.symm.trans found)
    exact absurd sees.active idle
  | unknown entry found failed =>
    obtain rfl := Option.some.inj (sees.found.symm.trans found)
    rw [sees.known] at failed
    cases failed
  | store error => exact .inl rfl
  | hook kind was => exact .inl was.requiresRollback
  | unavailable other known sees denied =>
    exact .inr ⟨rfl, mistaken_of_unavailable pending sees denied⟩

/-- A failed call asks for a rollback, or has only looked, or has mistaken an action that follows
on its own for another one. -/
theorem doAction_failure (standard : engine.Standard) {world : World}
    (orderly : Orderly world.store world.journal)
    (candid : ∀ call, world.outages.verdict .findEntry call ≠ some .absence)
    (actionId : ActionId) {failure : Failure}
    (failed : (engine.doAction entryId actionId inputs world).result = .error failure) :
    failure.requiresRollback = true ∨
      World.Observed world (engine.doAction entryId actionId inputs world).world ∨
      ∃ number, failure = .actionNotAvailable number entryId ∧
        engine.Mistaken entryId inputs number
          (engine.doAction entryId actionId inputs world).world.store := by
  have tidy : world.Tidy ⟨world.outages.verdict, []⟩ := ⟨orderly, rfl, List.nil_prefix⟩
  have truthful : Surroundings.Candid ⟨world.outages.verdict, []⟩ := candid
  have ends : Meets (· = world)
      (Run.andThen (engine.act entryId inputs actionId)
        (engine.chain entryId inputs engine.kit.settings.maxAutoChainDepth))
      (fun _ _ => True)
      (fun failure after => failure.requiresRollback = true ∨ World.Observed world after ∨
        ∃ number, failure = .actionNotAvailable number entryId ∧
          engine.Mistaken entryId inputs number after.store) := by
    refine meets_andThen (meets_failures (meets_at (act_meets standard.modest tidy actionId)
      (.refl world)) fun failure after ends => ?_) fun next => ?_
    · rcases ends.2 with ⟨observed, -⟩ | broken
      · exact .inr (.inl observed)
      · exact .inl (rollback_of_broken truthful broken)
    · refine meets_mono (chain_meets standard.modest _ next) (fun _ following => following)
        (fun _ _ _ => trivial) fun failure after ends => ?_
      cases ends.2 with
      | limit reached =>
        rw [reached]
        exact .inl rfl
      | broken cause => exact .inl (rollback_of_broken truthful cause)
      | declined start number pending observed cause =>
        have verdict : start.outages.verdict = world.outages.verdict :=
          observed.verdict.symm.trans ends.1.verdict
        rcases declined_pending (verdict ▸ candid) pending cause with marked | ⟨rfl, mistaken⟩
        · exact .inl marked
        · exact .inr (.inr ⟨number, rfl, observed.store ▸ mistaken⟩)
  have reached := ends world rfl
  unfold doAction at failed ⊢
  rw [(Reply.of_failed failed).1] at reached
  exact reached

/-- A failed call that has changed the store marks the work of its caller for rollback, except
where it has mistaken an action that follows on its own for another one of the same number. -/
theorem changes_marked_unless_mistaken (standard : engine.Standard) {world : World}
    (reachable : world.Reachable)
    (candid : ∀ call, world.outages.verdict .findEntry call ≠ some .absence)
    (actionId : ActionId) {failure : Failure}
    (failed : (engine.doAction entryId actionId inputs world).result = .error failure)
    (changed : (engine.doAction entryId actionId inputs world).world.store ≠ world.store) :
    (engine.doAction entryId actionId inputs world).rollback = false ↔
      ∃ number, failure = .actionNotAvailable number entryId ∧
        engine.Mistaken entryId inputs number
          (engine.doAction entryId actionId inputs world).world.store := by
  have marked : (engine.doAction entryId actionId inputs world).rollback =
      failure.requiresRollback := (Reply.of_failed failed).2
  rw [marked]
  constructor
  · intro unmarked
    rcases doAction_failure standard reachable.orderly candid actionId failed with
      marks | observed | mistaken
    · rw [marks] at unmarked
      cases unmarked
    · exact absurd observed.store changed
    · exact mistaken
  · rintro ⟨number, rfl, -⟩
    rfl

/-- Where every number stands for one action at most, a failed call that has changed the store
always marks the work of its caller for rollback. -/
theorem changes_marked_of_unique (standard : engine.Standard) {world : World}
    (reachable : world.Reachable)
    (candid : ∀ call, world.outages.verdict .findEntry call ≠ some .absence)
    (unique : ∀ name blueprint, engine.catalog.get name = .ok blueprint →
      ∀ steps, ∀ candidate ∈ Toolkit.candidates blueprint steps,
        ∀ other ∈ Toolkit.candidates blueprint steps,
          candidate.1.id = other.1.id → candidate.1 = other.1)
    (actionId : ActionId) {failure : Failure}
    (failed : (engine.doAction entryId actionId inputs world).result = .error failure)
    (changed : (engine.doAction entryId actionId inputs world).world.store ≠ world.store) :
    (engine.doAction entryId actionId inputs world).rollback = true := by
  have marked : (engine.doAction entryId actionId inputs world).rollback =
      failure.requiresRollback := (Reply.of_failed failed).2
  rw [marked]
  rcases doAction_failure standard reachable.orderly candid actionId failed with
    marks | observed | ⟨number, -, mistaken⟩
  · exact marks
  · exact absurd observed.store changed
  · obtain ⟨scope, automatic, stepId, other, sees, isCandidate, -, rfl, -, -, isOther, same, apart⟩ :=
      mistaken.clash
    exact absurd (unique _ _ sees.known _ other isOther _ isCandidate same) apart

end Engine

/-! ### Two actions of one number -/

/-- A workflow whose second step has two actions of number 20: its own, which is barred, and a
common one, which fires on its own. -/
def doubled : Blueprint where
  name := "doubled"
  initialActions :=
    [{ id := 1, name := "enter",
       unconditionalOutcome := some { target := .step 1, status := "Open" } }]
  commonActions := (∅ : SortedMap ActionId Action).insert 20
    { id := 20, name := "follow", autoExecute := true,
      unconditionalOutcome := some { target := .step 1, status := "Open" } }
  steps :=
    [{ id := 1, name := "first",
       actions := [{ id := 10, name := "go",
                     unconditionalOutcome := some { target := .step 2, status := "Open" } }] },
     { id := 2, name := "second",
       actions := [{ id := 20, name := "barred",
                     restriction := some { children := [.leaf { call := { type := "never" } }] },
                     unconditionalOutcome := some { target := .step 1, status := "Open" } }],
       commonActions := [20] }]

def doubledEngine : Engine where
  catalog := ((default : Catalog).register doubled).toOption.getD default

/-- The store after the workflow was started. -/
def doubledStore : Store where
  records :=
    [{ entry := ⟨1, "doubled", .activated, ⟨0, 0⟩⟩
       current := [{ id := 1, entryId := 1, defId := 1, status := "Open", startDate := ⟨0, 0⟩ }] }]
  stepCount := 1

/-- The world after the workflow was started. -/
def doubledWorld : World where
  store := doubledStore
  journal := (doubledEngine.perform {} (.start "doubled" 1 ∅)).journal

private def createdEntry : Entry := ⟨1, "doubled", .created, ⟨0, 0⟩⟩

private def createdWorld : World where
  store := { records := [{ entry := createdEntry }] }
  outages := Outages.count {} .createEntry
  journal := [.entryCreated 1]

private def entering : Action where
  id := 1
  name := "enter"
  unconditionalOutcome := some { target := .step 1, status := "Open" }

/-- A start that no action follows on its own ends where the initial action does. -/
private theorem startEntry_alone {engine : Engine} {workflow : String} {actionId : ActionId}
    {inputs : Values} {blueprint : Blueprint} {action : Action} {entry : Entry}
    {world created : World}
    (found : engine.initialAction workflow actionId = .ok (blueprint, action))
    (creates : World.createEntry workflow world = (.ok entry, created))
    (ran : (engine.runInitial entry blueprint action inputs created).1 = .ok none) :
    (engine.startEntry workflow actionId inputs world).world =
      (engine.runInitial entry blueprint action inputs created).2 := by
  have initial : engine.runInitial entry blueprint action inputs created =
      (.ok none, (engine.runInitial entry blueprint action inputs created).2) :=
    Prod.ext ran rfl
  unfold Engine.startEntry
  rw [found]
  simp only [Reply.world_ofRun, Run.bind_eq]
  rw [Run.andThen_ok creates, Run.andThen_ok initial, Engine.chain_none]
  rfl

private theorem alone_of_eval {result : Except Failure (Option ActionId)}
    (ended : (match result with
      | .ok none => true
      | _ => false) = true) : result = .ok none := by
  split at ended
  · rfl
  · cases ended

theorem failed_of_eval {α : Type} {result : Except Failure α} {failure : Failure}
    (ended : (match result with
      | .ok _ => false
      | .error cause => decide (cause = failure)) = true) : result = .error failure := by
  split at ended
  · cases ended
  · rw [of_decide_eq_true ended]

theorem ok_of_eval {α : Type} [DecidableEq α] {result : Except Failure α} {value : α}
    (ended : (match result with
      | .ok answer => decide (answer = value)
      | .error _ => false) = true) : result = .ok value := by
  split at ended
  · rw [of_decide_eq_true ended]
  · cases ended

/-- A store of one bare entry, from its parts. -/
private theorem store_of_parts {store : Store} {entry : Entry} {current : List Step} {count : Nat}
    (entries : store.records.map (·.entry) = [entry])
    (currents : store.records.map (·.current) = [current])
    (histories : store.records.map (·.history) = [[]])
    (bare : store.records.map (·.properties.pairs.isEmpty) = [true])
    (counted : store.stepCount = count) :
    store = { records := [{ entry, current }], stepCount := count } := by
  obtain ⟨records, stepCount⟩ := store
  match records with
  | [⟨_, _, _, ⟨[], _⟩⟩] =>
    simp only [List.map_cons, List.map_nil, List.cons.injEq, and_true] at entries currents histories
    subst entries currents histories counted
    rfl

private theorem doubled_started :
    (doubledEngine.perform {} (.start "doubled" 1 ∅)).store = doubledStore := by
  have found : doubledEngine.initialAction "doubled" 1 = .ok (doubled, entering) := rfl
  have creates : World.createEntry "doubled" {} = (.ok createdEntry, createdWorld) := rfl
  have alone : (doubledEngine.runInitial createdEntry doubled entering ∅ createdWorld).1 = .ok none :=
    alone_of_eval (by decide +kernel)
  unfold Engine.perform
  dsimp only
  rw [startEntry_alone found creates alone]
  exact store_of_parts (by decide +kernel) (by decide +kernel) (by decide +kernel)
    (by decide +kernel) (by decide +kernel)

/-- The action that follows on its own is looked up by a number that another action bears: the call
fails after it has left the first step, and marks nothing. -/
theorem doubled_left_unmarked :
    doubledWorld.Reachable ∧
      (doubledEngine.doAction 1 10 ∅ doubledWorld).result = .error (.actionNotAvailable 20 1) ∧
      (doubledEngine.doAction 1 10 ∅ doubledWorld).world.store ≠ doubledWorld.store ∧
      (doubledEngine.doAction 1 10 ∅ doubledWorld).rollback = false ∧
      doubledEngine.Mistaken 1 ∅ 20 (doubledEngine.doAction 1 10 ∅ doubledWorld).world.store := by
  have standard : doubledEngine.Standard := rfl
  have leads : World.Leads {} (doubledEngine.perform {} (.start "doubled" 1 ∅)) :=
    .call .here standard _
  have reachable : doubledWorld.Reachable := ⟨{}, ⟨0, 0⟩, leads.recovered doubled_started⟩
  have failed : (doubledEngine.doAction 1 10 ∅ doubledWorld).result =
      .error (.actionNotAvailable 20 1) := failed_of_eval (by decide +kernel)
  have left : (doubledEngine.doAction 1 10 ∅ doubledWorld).world.store.stepCount = 2 := by
    decide +kernel
  have changed : (doubledEngine.doAction 1 10 ∅ doubledWorld).world.store ≠ doubledWorld.store := by
    intro same
    rw [same] at left
    cases left
  have unmarked : (doubledEngine.doAction 1 10 ∅ doubledWorld).rollback = false := by
    decide +kernel
  obtain ⟨number, same, mistaken⟩ := (Engine.changes_marked_unless_mistaken standard reachable
    (fun _ => nofun) 10 failed changed).mp unmarked
  cases same
  exact ⟨reachable, failed, changed, unmarked, mistaken⟩

end Caseflow
