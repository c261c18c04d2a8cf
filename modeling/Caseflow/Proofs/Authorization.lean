import Caseflow.Proofs.Executions
/-! No action is executed without authority. The search for the action asked for and the search for
the step being left run over the same steps and share what is known about availability. Whatever
the first one has refused the second passes over, so an action leaves the very step it was judged
at. -/
namespace Caseflow

open Run

/-- The turn in which the step being left is looked for: the beginning of the action is noted. -/
def Turn.begun (turn : Turn) (chosen : ScopedAction) : Turn :=
  { turn with
    world := turn.world.note [.actionBegun turn.scope.entry.id chosen.key]
    scope := { turn.scope with actionId := some chosen.id } }

namespace Toolkit

variable {kit : Toolkit} {blueprint : Blueprint} {number : ActionId} {steps : List Step}
  {chosen : ScopedAction} {stepId : StepDefId} {turn : Turn}

/-- The execution of an action once the step being left is known. -/
def depart (kit : Toolkit) (chosen : ScopedAction) (scope : Scope) (leaving : Option Step) :
    Run Turn Progress := do
  kit.runValidators chosen.action.validators
  kit.leaveStep scope.blueprint leaving
  kit.runFunctions chosen.action.preFunctions
  let outcome ← kit.selectOutcome chosen.action ((leaving.map (·.defId)).getD (-1))
  kit.runValidators outcome.validators
  kit.runFunctions outcome.preFunctions
  kit.takeOutcome chosen.action outcome leaving
  kit.runFunctions outcome.postFunctions
  kit.runFunctions chosen.action.postFunctions
  kit.activate scope.entry.id chosen.scope
  kit.finish scope.entry.id chosen.action

/-- An action begins by finding the step to leave, and departs from there. -/
theorem execute_begun (kit : Toolkit) (chosen : ScopedAction) (turn : Turn) :
    kit.execute chosen turn =
      (kit.leavingStep chosen.id >>= kit.depart chosen turn.scope) (turn.begun chosen) :=
  rfl

/-- Where the step to leave is found at once, the action departs from it. -/
theorem execute_departs {leaving : Option Step}
    (found : kit.leavingStep chosen.id (turn.begun chosen) = (.ok leaving, turn.begun chosen)) :
    kit.execute chosen turn = kit.depart chosen turn.scope leaving (turn.begun chosen) := by
  rw [execute_begun, bind_eq, andThen_ok found]

/-- Asked anew in any world, with the action as the one being checked, the conditions of the whole
workflow and the restriction of the action pass at the step. -/
structure Permits (kit : Toolkit) (turn : Turn) (chosen : ScopedAction) (stepId : StepDefId) :
    Prop where
  workflow : ∀ world, (kit.treePasses { turn.scope with actionId := some chosen.id }
    turn.properties stepId turn.scope.blueprint.globalConditions world).1 = .ok true
  action : ∀ world, (kit.treePasses { turn.scope with actionId := some chosen.id }
    turn.properties stepId chosen.action.restriction world).1 = .ok true

/-- What an action may be executed for: it is declared for the whole workflow and permitted at step
0, or a current step offers it, it is permitted at that step, and it is that step which is found to
be left and which the execution departs from. -/
inductive Grounds (kit : Toolkit) (chosen : ScopedAction) (turn : Turn) : Prop where
  | global (declared : chosen ∈ turn.scope.blueprint.scopedGlobalActions)
      (permits : kit.Permits turn chosen 0)
  | offered (step : Step) (current : step ∈ turn.scope.currentSteps)
      (offers : turn.scope.blueprint.actionForStep? step.defId chosen.id = some chosen)
      (permits : kit.Permits turn chosen step.defId)
      (found : kit.leavingStep chosen.id (turn.begun chosen) = (.ok (some step), turn.begun chosen))
      (left : kit.execute chosen turn = kit.depart chosen turn.scope (some step) (turn.begun chosen))

/-! ### Judgements are about the conditions -/

/-- An action that is judged available is permitted. -/
theorem permits_of_judgement
    (judged : kit.judgement turn.scope turn.properties chosen stepId = .ok true) :
    kit.Permits turn chosen stepId := by
  have steady (tree : Option Conditions) (world other : World) :
      (kit.treePasses { turn.scope with actionId := some chosen.id } turn.properties stepId tree
        world).1 = (kit.treePasses { turn.scope with actionId := some chosen.id } turn.properties
          stepId tree other).1 :=
    answer_of_looks (treePasses_looks kit.extensions.refuses_any tree) world other
  unfold judgement mayFire at judged
  simp only [bind_eq, andThen] at judged
  split at judged
  · rename_i allowed after passed
    cases allowed with
    | false => cases judged
    | true =>
      constructor
      · intro world
        rw [steady _ world default, passed]
      · intro world
        rw [steady _ world after]
        exact judged
  · cases judged

/-- An action that is permitted is judged available. -/
theorem judgement_of_permits (permits : kit.Permits turn chosen stepId) :
    kit.judgement turn.scope turn.properties chosen stepId = .ok true := by
  have workflow := permits.workflow default
  unfold judgement mayFire
  cases passed : kit.treePasses { turn.scope with actionId := some chosen.id } turn.properties stepId
      turn.scope.blueprint.globalConditions default with
  | mk result after =>
    rw [passed] at workflow
    cases workflow
    rw [bind_eq, andThen_ok passed]
    exact permits.action after

/-! ### The step being left -/

/-- A search by number ends at an action of the whole workflow, or at what one of the steps offers
after what the actions of the whole workflow and the earlier steps offer. -/
theorem candidatesFor_split {before after : List Candidate}
    (split : candidatesFor blueprint steps number = before ++ (chosen, stepId) :: after) :
    chosen ∈ blueprint.scopedGlobalActions ∧ stepId = 0 ∨
      ∃ earlier step later, steps = earlier ++ step :: later ∧
        blueprint.actionForStep? step.defId number = some chosen ∧ stepId = step.defId ∧
        ∀ other ∈ earlier, ∀ candidate,
          blueprint.actionForStep? other.defId number = some candidate →
            (candidate, other.defId) ∈ before := by
  unfold candidatesFor at split
  have sides : (chosen, stepId) ∈ (blueprint.scopedGlobalActions.filter (·.id = number)).map (·, 0) ∨
      ∃ passed, before = (blueprint.scopedGlobalActions.filter (·.id = number)).map (·, 0) ++ passed ∧
        (steps.filterMap fun step =>
          (blueprint.actionForStep? step.defId number).map (·, step.defId)) =
            passed ++ (chosen, stepId) :: after := by
    rcases List.append_eq_append_iff.mp split with late | ⟨rest, globals, offers⟩
    · exact .inr late
    · cases rest with
      | nil => exact .inr ⟨[], by simpa using globals.symm, offers.symm⟩
      | cons first others =>
        cases offers
        exact .inl (by simp [globals])
  rcases sides with isGlobal | ⟨passed, rfl, offers⟩
  · obtain ⟨action, numbered, same⟩ := List.mem_map.mp isGlobal
    cases same
    exact .inl ⟨(List.mem_filter.mp numbered).1, rfl⟩
  · obtain ⟨earlier, rest, rfl, rfl, here⟩ := List.filterMap_eq_append_iff.mp offers
    obtain ⟨silent, step, later, rfl, nothing, offer, -⟩ := List.filterMap_eq_cons_iff.mp here
    obtain ⟨action, found, same⟩ := Option.map_eq_some_iff.mp offer
    cases same
    refine .inr ⟨earlier ++ silent, step, later, by simp, found, rfl, ?_⟩
    intro other member candidate offered
    rcases List.mem_append.mp member with met | unmet
    · refine List.mem_append_right _ (List.mem_filterMap.mpr ⟨other, met, ?_⟩)
      rw [offered]
      rfl
    · have none := nothing other unmet
      rw [offered] at none
      cases none

/-- The search for the step being left passes over the steps whose offers are known to be refused,
and ends at the first one whose offer is known to be available. -/
theorem firstOffering_known {earlier later : List Step} {step : Step}
    (refused : ∀ other ∈ earlier, ∀ candidate,
      blueprint.actionForStep? other.defId number = some candidate →
        turn.known.find? candidate.key = some false)
    (offers : blueprint.actionForStep? step.defId number = some chosen)
    (available : turn.known.find? chosen.key = some true) :
    kit.firstOffering blueprint number (earlier ++ step :: later) turn = (.ok (some step), turn) := by
  induction earlier with
  | nil =>
    simp only [List.nil_append, firstOffering, offers]
    rw [andThen_ok (isAvailable_of_known available step.defId)]
    rfl
  | cons other rest ih =>
    have passed := ih fun other member => refused other (List.mem_cons_of_mem _ member)
    simp only [List.cons_append, firstOffering]
    cases found : blueprint.actionForStep? other.defId number with
    | none => exact passed
    | some candidate =>
      have known := refused other (List.mem_cons_self ..) candidate found
      simp only
      rw [andThen_ok (isAvailable_of_known known other.defId)]
      exact passed

/-- Where the search through the steps ends at one of them, that step is left; and a single step is
left in any case. -/
theorem leavingStep_of_search {earlier later : List Step} {step : Step}
    (steps : turn.scope.currentSteps = earlier ++ step :: later)
    (searched : kit.firstOffering turn.scope.blueprint number (earlier ++ step :: later) turn =
      (.ok (some step), turn)) :
    kit.leavingStep number turn = (.ok (some step), turn) := by
  have now : Turn.scopeNow turn = (.ok turn.scope, turn) := rfl
  unfold leavingStep
  rw [bind_eq, andThen_ok now, steps]
  rcases all : earlier ++ step :: later with _ | ⟨only, _ | ⟨second, rest⟩⟩
  · simp at all
  · have isOnly : step ∈ [only] := by rw [← all]; simp
    rw [List.mem_singleton.mp isOnly]
    rfl
  · rw [all] at searched
    exact searched

/-- Where the search for the action asked for ends at the offer of a step, that step is left. -/
theorem leavingStep_of_granted {before : List Candidate} {earlier later : List Step} {step : Step}
    (granted : Granted kit turn.scope turn.properties before chosen step.defId turn.known)
    (steps : turn.scope.currentSteps = earlier ++ step :: later)
    (offers : turn.scope.blueprint.actionForStep? step.defId chosen.id = some chosen)
    (met : ∀ other ∈ earlier, ∀ candidate,
      turn.scope.blueprint.actionForStep? other.defId chosen.id = some candidate →
        (candidate, other.defId) ∈ before) :
    kit.leavingStep chosen.id (turn.begun chosen) = (.ok (some step), turn.begun chosen) := by
  have searched : kit.firstOffering turn.scope.blueprint chosen.id (earlier ++ step :: later)
      (turn.begun chosen) = (.ok (some step), turn.begun chosen) := by
    refine firstOffering_known (fun other member candidate offered => ?_) offers
      ((granted.known chosen.key).trans (if_pos rfl))
    -- the offer was met in vain, and the chosen action was not met before it was judged
    have wasMet : (before.find? (·.1.key = candidate.key)).isSome :=
      List.find?_isSome.mpr ⟨_, met other member candidate offered, by simp⟩
    have apart : candidate.key ≠ chosen.key := by
      intro same
      rw [same, granted.new] at wasMet
      cases wasMet
    obtain ⟨first, found⟩ := Option.isSome_iff_exists.mp wasMet
    show turn.known.find? candidate.key = some false
    rw [granted.known, if_neg apart, found]
    rfl
  exact leavingStep_of_search steps searched

end Toolkit

namespace Engine

variable {engine : Engine} {entryId : EntryId} {inputs : Values} {number : ActionId}
  {world : World} {chosen : ScopedAction} {turn : Turn}

/-- The action is selected for good reason: the turn shows what the store holds of the entry, which
is active, and there are grounds to execute the action. -/
structure Authorized (engine : Engine) (entryId : EntryId) (inputs : Values)
    (chosen : ScopedAction) (turn : Turn) : Prop where
  sees : engine.Sees entryId inputs turn.world.store turn.scope
  home : turn.home = entryId
  grounds : engine.kit.Grounds chosen turn

/-- What is selected is authorized. -/
theorem authorized_of_selected
    (selected : engine.Selected entryId inputs number world chosen turn) :
    engine.Authorized entryId inputs chosen turn := by
  obtain ⟨before, stepId, after, split, granted⟩ := selected.granted
  have permits : engine.kit.Permits turn chosen stepId :=
    Toolkit.permits_of_judgement granted.judged
  refine ⟨selected.observed.store ▸ selected.sees, selected.home, ?_⟩
  rcases Toolkit.candidatesFor_split split with
    ⟨declared, rfl⟩ | ⟨earlier, step, later, steps, offers, rfl, met⟩
  · exact .global declared permits
  · obtain rfl : chosen.id = number := by simpa using List.find?_some offers
    have found := Toolkit.leavingStep_of_granted granted steps offers met
    exact .offered step (by simp [steps]) offers permits found (Toolkit.execute_departs found)

theorem authorized_of_execution (limit : Nat) {execution : ScopedAction × Turn}
    (member : execution ∈ engine.executions entryId inputs limit number world) :
    engine.Authorized entryId inputs execution.1 execution.2 := by
  have selections {number : ActionId} {world : World}
      (member : execution ∈ engine.selection entryId inputs number world) :
      engine.Authorized entryId inputs execution.1 execution.2 :=
    authorized_of_selected (selected_of_mem member).2
  induction limit generalizing number world with
  | zero => exact selections member
  | succ limit ih =>
    unfold executions at member
    rcases List.mem_append.mp member with first | later
    · exact selections first
    · split at later
      · exact ih later
      · cases later

/-- Whatever the extensions do, wherever the store fails, the actions that a call begins are just
its executions, in order, and each of them is authorized when it is selected. -/
theorem executions_authorized (engine : Engine) (entryId : EntryId) (actionId : ActionId)
    (inputs : Values) (world : World) :
    let executions :=
      engine.executions entryId inputs engine.kit.settings.maxAutoChainDepth actionId world
    Begins entryId executions world.journal
        (engine.doAction entryId actionId inputs world).world.journal ∧
      ∀ execution ∈ executions, engine.Authorized entryId inputs execution.1 execution.2 := by
  intro executions
  refine ⟨?_, fun execution member => authorized_of_execution _ member⟩
  unfold doAction
  rw [Reply.world_ofRun]
  exact executions_begin _ actionId world

end Engine

end Caseflow
