import Caseflow.Proofs.Authorization
import Caseflow.Proofs.Rollback
/-! Calls that are turned down because their action is not available. Within a call every action is
judged once, at the first step that offers it, and the answer stands for its identity. A common
action has one identity, so an action that a current step offers and permits is turned down where
an earlier step offers the same action and does not permit it. -/
namespace Caseflow

open Run

namespace Engine

variable {engine : Engine} {entryId : EntryId} {inputs : Values} {number : ActionId} {world : World}

/-- The call is turned down because no action of the number is available, before anything has
begun. -/
structure Rejects (engine : Engine) (entryId : EntryId) (inputs : Values) (number : ActionId)
    (world : World) : Prop where
  refused : (engine.doAction entryId number inputs world).result =
    .error (.actionNotAvailable number entryId)
  nothingBegun : begunIn (engine.doAction entryId number inputs world).world.journal =
    begunIn world.journal

/-- What a call selects is the first of its executions. -/
theorem executed_of_selected {selected : ScopedAction × Turn} {after : World}
    (selects : engine.select entryId inputs number world = (.ok selected, after)) (limit : Nat) :
    selected ∈ engine.executions entryId inputs limit number world := by
  have member : selected ∈ engine.selection entryId inputs number world := by
    rw [selection, selects]
    exact List.mem_singleton.mpr rfl
  cases limit with
  | zero => exact member
  | succ limit => exact List.mem_append_left _ member

/-- A call is turned down so just where its selection is. -/
theorem rejects_iff :
    engine.Rejects entryId inputs number world ↔
      (engine.select entryId inputs number world).1 = .error (.actionNotAvailable number entryId) := by
  cases selects : engine.select entryId inputs number world with
  | mk result after =>
    cases result with
    | error failure =>
      have observes : Meets (World.Observed world) (engine.select entryId inputs number) _ _ :=
        select_observes engine.kit.extensions.refuses_any world
      have quiet : begunIn after.journal = begunIn world.journal :=
        (lasting_begunIn (begunIn world.journal)).observed rfl
          (observes.failure (.refl world) selects).1
      have reply : engine.doAction entryId number inputs world =
          ⟨.error failure, after, failure.requiresRollback⟩ := by
        unfold doAction Reply.ofRun
        rw [act_eq, bind_eq, andThen_error (andThen_error selects)]
      constructor
      · intro rejects
        simpa [reply] using rejects.refused
      · intro same
        obtain rfl : failure = .actionNotAvailable number entryId := Except.error.inj same
        exact ⟨by rw [reply], by rw [reply]; exact quiet⟩
    | ok selected =>
      refine ⟨fun rejects => ?_, nofun⟩
      have begun := (executions_authorized engine entryId number inputs world).1.begun
      rw [rejects.nothingBegun, List.self_eq_append_right, List.map_eq_nil_iff] at begun
      have executed := executed_of_selected selects engine.kit.settings.maxAutoChainDepth
      rw [begun] at executed
      cases executed

/-- Where a call on an entry is turned down so, every candidate is refused. -/
theorem Rejects.denied (standard : engine.Standard) (rejects : engine.Rejects entryId inputs number world)
    {scope : Scope} (sees : engine.Sees entryId inputs world.store scope) :
    ∃ known, Toolkit.Denied engine.kit scope (world.store.propertiesOf entryId)
      (Toolkit.candidatesFor scope.blueprint scope.currentSteps number) known := by
  have observes : Meets (World.Observed world) (engine.select entryId inputs number) _ _ :=
    select_observes standard.modest.toRefuses world
  have refused := rejects_iff.mp rejects
  cases selects : engine.select entryId inputs number world with
  | mk result after =>
    rw [selects] at refused
    cases refused
    cases (observes.failure (.refl world) selects).2 with
    | notFound cause => cases cause
    | unknown entry found failed => cases Catalog.get_fails failed
    | hook kind was => cases was
    | unavailable other known alsoSees denied =>
      obtain rfl := sees.unique alsoSees
      exact ⟨known, denied⟩

end Engine

namespace Toolkit

/-- Every candidate is judged, and none of the guards fails. -/
def Decided (kit : Toolkit) (scope : Scope) (properties : Values) (candidates : List Candidate) :
    Prop :=
  ∀ candidate ∈ candidates,
    ∃ verdict, kit.judgement scope properties candidate.1 candidate.2 = .ok verdict

theorem decided_of_eval {kit : Toolkit} {scope : Scope} {properties : Values}
    {candidates : List Candidate}
    (ended : (candidates.all fun candidate =>
      (kit.judgement scope properties candidate.1 candidate.2).isOk) = true) :
    kit.Decided scope properties candidates := by
  intro candidate member
  have answered := List.all_eq_true.mp ended candidate member
  cases judged : kit.judgement scope properties candidate.1 candidate.2 with
  | ok verdict => exact ⟨verdict, rfl⟩
  | error failure =>
    rw [judged] at answered
    cases answered

end Toolkit

/-! ### One identity at several steps -/

/-- What a step offers is declared by the step or is common to all steps. -/
theorem Blueprint.scope_of_offer {blueprint : Blueprint} {stepId : StepDefId} {offer : ScopedAction}
    (member : offer ∈ blueprint.actionsForStep stepId) :
    offer.scope = .step stepId ∨ offer.scope = .common := by
  unfold actionsForStep at member
  split at member
  · cases member
  · rcases List.mem_append.mp member with own | common
    · obtain ⟨action, -, rfl⟩ := List.mem_map.mp own
      exact .inl rfl
    · obtain ⟨number, -, reference⟩ := List.mem_filterMap.mp common
      obtain ⟨action, -, rfl⟩ := Option.map_eq_some_iff.mp reference
      exact .inr rfl

namespace Toolkit

variable {kit : Toolkit} {blueprint : Blueprint} {steps : List Step} {number : ActionId}

/-- What a current step offers under a number is a candidate. -/
theorem candidateFor_of_offer {step : Step} (current : step ∈ steps) {offer : ScopedAction}
    (offers : blueprint.actionForStep? step.defId number = some offer) :
    (offer, step.defId) ∈ candidatesFor blueprint steps number := by
  refine List.mem_append_right _ (List.mem_filterMap.mpr ⟨step, current, ?_⟩)
  rw [offers]
  rfl

/-- The first of the steps that offers the identity under the number. -/
structure FirstOffer (blueprint : Blueprint) (number : ActionId) (key : ActionKey)
    (earlier : List Step) (step : Step) (offer : ScopedAction) : Prop where
  offers : blueprint.actionForStep? step.defId number = some offer
  same : offer.key = key
  unmet : ∀ prior ∈ earlier, ∀ other, blueprint.actionForStep? prior.defId number = some other →
    other.key ≠ key

/-- The first step that offers an identity stands before any step of another definition that offers
it as well. -/
theorem FirstOffer.earlier {offer chosen : ScopedAction} {other step : Step}
    {before after earlier later : List Step}
    (first : FirstOffer blueprint number chosen.key before other offer)
    (offers : blueprint.actionForStep? step.defId number = some chosen)
    (apart : other.defId ≠ step.defId)
    (shown : earlier ++ step :: later = before ++ other :: after) :
    ∃ between, earlier = before ++ other :: between := by
  rcases List.append_eq_append_iff.mp shown with ⟨rest, isBefore, split⟩ | ⟨rest, isEarlier, split⟩
  · cases rest with
    | nil =>
      cases split
      exact absurd rfl apart
    | cons met rest =>
      cases split
      exact absurd rfl (first.unmet step (by simp [isBefore]) chosen offers)
  · cases rest with
    | nil =>
      cases split
      exact absurd rfl apart
    | cons isOther between =>
      cases split
      exact ⟨between, isEarlier⟩

/-- Among the candidates of a number the first of an identity that is not global stands at the first
step that offers it. -/
theorem firstOffer_of_find? {key : ActionKey} (offered : key.scope ≠ .global) {first : ScopedAction}
    {stepId : StepDefId}
    (found : (candidatesFor blueprint steps number).find? (·.1.key = key) = some (first, stepId)) :
    ∃ earlier step later, steps = earlier ++ step :: later ∧ stepId = step.defId ∧
      FirstOffer blueprint number key earlier step first := by
  obtain ⟨same, before, after, split, unmet⟩ := List.find?_eq_some_iff_append.mp found
  have isFirst : first.key = key := by simpa using same
  rcases candidatesFor_split split with
    ⟨declared, -⟩ | ⟨earlier, step, later, shown, offers, here, met⟩
  · obtain ⟨action, -, rfl⟩ := List.mem_map.mp declared
    exact absurd (congrArg ActionKey.scope isFirst).symm offered
  · refine ⟨earlier, step, later, shown, here, offers, isFirst, fun prior member other also => ?_⟩
    simpa using unmet _ (met prior member other also)

end Toolkit

namespace Engine

variable {engine : Engine} {entryId : EntryId} {inputs : Values} {number : ActionId} {world : World}

/-- A call on an action that a current step offers and permits is turned down only where the action
is common and the first current step that offers it, a step of another definition, does not permit
it: the answer found there stands for all steps. -/
theorem rejects_permitted (standard : engine.Standard) {scope : Scope}
    (sees : engine.Sees entryId inputs world.store scope) {earlier later : List Step} {step : Step}
    (current : scope.currentSteps = earlier ++ step :: later) {chosen : ScopedAction}
    (offers : scope.blueprint.actionForStep? step.defId number = some chosen)
    (permits : engine.kit.Permits { world, scope, home := entryId } chosen step.defId)
    (rejects : engine.Rejects entryId inputs number world) :
    chosen.scope = .common ∧
      ∃ before other between offer, earlier = before ++ other :: between ∧
        other.defId ≠ step.defId ∧
        Toolkit.FirstOffer scope.blueprint number chosen.key before other offer ∧
        engine.kit.judgement scope (world.store.propertiesOf entryId) offer other.defId =
          .ok false := by
  have granted : engine.kit.judgement scope (world.store.propertiesOf entryId) chosen step.defId =
      .ok true := Toolkit.judgement_of_permits permits
  obtain ⟨known, denied⟩ := rejects.denied standard sees
  have member : (chosen, step.defId) ∈
      Toolkit.candidatesFor scope.blueprint scope.currentSteps number :=
    Toolkit.candidateFor_of_offer (by simp [current]) offers
  have declared := Blueprint.scope_of_offer (List.mem_of_find?_eq_some offers)
  have offered : chosen.key.scope ≠ .global := by
    show chosen.scope ≠ .global
    rcases declared with own | common <;> simp [*]
  obtain ⟨⟨offer, stepId⟩, found⟩ := Option.isSome_iff_exists.mp
    (List.find?_isSome.mpr ⟨_, member, decide_eq_true rfl⟩ : ((Toolkit.candidatesFor scope.blueprint
      scope.currentSteps number).find? (·.1.key = chosen.key)).isSome)
  have refused := denied.judged _ _ _ found
  obtain ⟨before, other, after, shown, rfl, first⟩ := Toolkit.firstOffer_of_find? offered found
  -- at a step of the same definition the same action would have been judged, and granted
  have apart : other.defId ≠ step.defId := by
    intro same
    have offersToo := first.offers
    rw [same, offers] at offersToo
    cases offersToo
    rw [same, granted] at refused
    cases refused
  have common : chosen.scope = .common := by
    refine declared.resolve_left fun own => apart ?_
    have sameScope : offer.scope = .step step.defId :=
      (congrArg ActionKey.scope first.same).trans own
    rcases Blueprint.scope_of_offer (List.mem_of_find?_eq_some first.offers) with ownToo | common
    · exact ActionScope.step.inj (ownToo.symm.trans sameScope)
    · cases common.symm.trans sameScope
  rw [current] at shown
  obtain ⟨between, split⟩ := first.earlier offers apart shown
  exact ⟨common, before, other, between, offer, split, apart, first, refused⟩

end Engine

/-! ### A common action of two steps -/

/-- The action of the shared workflow: its restriction asks for the status of the step at hand. -/
def approve : Action where
  id := 20
  name := "approve"
  restriction := some
    { children :=
        [.leaf { call := { type := "status",
                           args := ((∅ : Args).insert "stepId" "-1").insert "status" "Open" } }] }
  unconditionalOutcome := some { target := .step 3, status := "Open" }

/-- A workflow that begins in two steps, which offer the same common action. -/
def shared : Blueprint where
  name := "shared"
  initialActions :=
    [{ id := 1, name := "enter", unconditionalOutcome := some { target := .split 1 } }]
  commonActions := (∅ : SortedMap ActionId Action).insert 20 approve
  steps :=
    [{ id := 1, name := "left", commonActions := [20] },
     { id := 2, name := "right", commonActions := [20] },
     { id := 3, name := "after" }]
  splits :=
    [{ id := 1, outcomes := [{ target := .step 1, status := "Held" },
                             { target := .step 2, status := "Open" }] }]

def sharedEngine : Engine where
  catalog := ((default : Catalog).register shared).toOption.getD default

/-- The world after the workflow was started. -/
def sharedWorld : World :=
  sharedEngine.perform {} (.start "shared" 1 ∅)

/-- The step that holds the action back, and the one that permits it. -/
def heldStep : Step where
  id := 1
  entryId := 1
  defId := 1
  status := "Held"
  startDate := ⟨0, 0⟩

def openStep : Step where
  id := 2
  entryId := 1
  defId := 2
  status := "Open"
  startDate := ⟨0, 0⟩

/-- What a call on the entry sees. -/
def sharedScope : Scope where
  caller := none
  entry := ⟨1, "shared", .activated, ⟨0, 0⟩⟩
  blueprint := shared
  currentSteps := [heldStep, openStep]

theorem sharedEngine_sees : sharedEngine.Sees 1 ∅ sharedWorld.store sharedScope where
  found := by decide +kernel
  active := rfl
  known := rfl
  steps := by decide +kernel
  built _ := rfl

/-- The second step permits the action. -/
theorem openStep_permits :
    sharedEngine.kit.Permits { world := sharedWorld, scope := sharedScope, home := 1 }
      ⟨.common, approve⟩ openStep.defId :=
  Toolkit.permits_of_judgement (ok_of_eval (by decide +kernel))

theorem sharedEngine_rejects : sharedEngine.Rejects 1 ∅ 20 sharedWorld where
  refused := failed_of_eval (by decide +kernel)
  nothingBegun := by decide +kernel

theorem sharedWorld_reachable : sharedWorld.Reachable :=
  ⟨{}, ⟨0, 0⟩, .call .here (rfl : sharedEngine.Standard) _⟩

theorem sharedWorld_inOrder (method : StoreMethod) (call : Nat) :
    sharedWorld.outages.verdict method call = none := by
  have standard : sharedEngine.Standard := rfl
  rw [sharedWorld, Engine.perform_verdict standard .new]

/-- The second step permits the action, which is turned down for the first step. -/
theorem approve_held_back :
    sharedEngine.Rejects 1 ∅ 20 sharedWorld ∧
      ∃ before other between offer, [heldStep] = before ++ other :: between ∧
        other.defId ≠ openStep.defId ∧
        Toolkit.FirstOffer shared 20 ⟨.common, 20⟩ before other offer ∧
        sharedEngine.kit.judgement sharedScope (sharedWorld.store.propertiesOf 1) offer other.defId =
          .ok false := by
  have standard : sharedEngine.Standard := rfl
  have offers : shared.actionForStep? openStep.defId 20 = some ⟨.common, approve⟩ := rfl
  have current : sharedScope.currentSteps = [heldStep] ++ openStep :: [] := rfl
  obtain ⟨-, held⟩ := Engine.rejects_permitted standard sharedEngine_sees current offers
    openStep_permits sharedEngine_rejects
  exact ⟨sharedEngine_rejects, held⟩

/-- No guard fails, one of the current steps permits the action, and yet the call is turned down. -/
theorem permitted_and_rejected :
    sharedWorld.Reachable ∧ (∀ method call, sharedWorld.outages.verdict method call = none) ∧
      sharedEngine.Standard ∧ sharedEngine.Sees 1 ∅ sharedWorld.store sharedScope ∧
      sharedEngine.kit.Decided sharedScope (sharedWorld.store.propertiesOf 1)
        (Toolkit.candidates shared sharedScope.currentSteps) ∧
      openStep ∈ sharedScope.currentSteps ∧
      shared.actionForStep? openStep.defId 20 = some ⟨.common, approve⟩ ∧
      sharedEngine.kit.Permits { world := sharedWorld, scope := sharedScope, home := 1 }
        ⟨.common, approve⟩ openStep.defId ∧
      (sharedEngine.doAction 1 20 ∅ sharedWorld).result = .error (.actionNotAvailable 20 1) :=
  ⟨sharedWorld_reachable, sharedWorld_inOrder, rfl, sharedEngine_sees,
    Toolkit.decided_of_eval (by decide +kernel), by simp [sharedScope], rfl, openStep_permits,
    sharedEngine_rejects.refused⟩

end Caseflow
