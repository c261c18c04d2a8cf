import Caseflow.Proofs.Arrangements
/-! Successors. An action that does not finish its entry and takes a plain outcome, or a split,
closes the step that it leaves and opens a step for the outcome, or for each outcome of the split
in turn. Only the first one closes anything. Whatever else is current stays as it is and where it
is. -/
namespace Caseflow

open Run

namespace Toolkit

variable {kit : Toolkit} {start turn after : Turn} {steps : Arrangement} {leaving : Option Step}
  {outcome : Outcome} {actionId : ActionId}

/-- The outcomes that steps are opened for where an outcome is taken: itself, where it leads to a
step; those of the split that it leads to, whose validators and functions have all run by then;
none, where it leads to a join. -/
def siblings (kit : Toolkit) (outcome : Outcome) : Run Turn (List Outcome) :=
  match outcome.target with
  | .step _ => Run.done [outcome]
  | .split splitId => do
    let scope ← Turn.scopeNow
    let split ← Run.ofOption (.defective (.splitNotFound splitId)) (scope.blueprint.split? splitId)
    kit.runValidators (split.outcomes.flatMap (·.validators))
    kit.runFunctions (split.outcomes.flatMap (·.preFunctions))
    return split.outcomes
  | .join _ => Run.done []

/-- An action that goes on enters the siblings of its outcome, if there are any, and some functions
follow. -/
theorem takeOutcome_of_siblings {action : Action} {siblings : List Outcome} {opening : Turn}
    (goesOn : action.finish = false) (some : siblings ≠ [])
    (fans : kit.siblings outcome turn = (.ok siblings, opening))
    (ran : kit.takeOutcome action outcome leaving turn = (.ok (), after)) :
    ∃ entered calls, kit.enterSiblings action.id leaving true siblings opening = (.ok (), entered) ∧
      kit.runFunctions calls entered = (.ok (), after) := by
  unfold Toolkit.siblings at fans
  unfold takeOutcome at ran
  cases target : outcome.target with
  | join joinId =>
    rw [target] at fans
    cases fans
    exact absurd rfl some
  | step id =>
    rw [target] at fans ran
    cases fans
    unfold takePlain at ran
    dsimp only at ran
    rw [if_neg (by simp [goesOn])] at ran
    exact ⟨after, [], (andThen_ok ran).trans rfl, rfl⟩
  | split splitId =>
    rw [target] at fans ran
    dsimp only at fans ran
    unfold takeSplit at ran
    obtain ⟨scope, _, seen, finds⟩ := of_andThen_ok fans
    rw [bind_eq, andThen_ok seen] at ran
    obtain ⟨split, _, found, validates⟩ := of_andThen_ok finds
    rw [bind_eq, andThen_ok found] at ran
    obtain ⟨_, _, validated, runs⟩ := of_andThen_ok validates
    rw [bind_eq, andThen_ok validated] at ran
    obtain ⟨_, _, run, answers⟩ := of_andThen_ok runs
    rw [bind_eq, andThen_ok run] at ran
    cases answers
    rw [if_pos (by simp [goesOn])] at ran
    obtain ⟨_, entered, enters, follows⟩ := of_andThen_ok ran
    exact ⟨entered, _, enters, follows⟩

section Standard

variable (standard : kit.extensions = Builtin.extensions)

include standard

/-- While the siblings of an outcome are found, hooks run. -/
theorem siblings_arranged {siblings : List Outcome} (arranged : Turn.Arranged start steps turn)
    (fans : kit.siblings outcome turn = (.ok siblings, after)) : Turn.Arranged start steps after := by
  have hosts : kit.Hosts _ (Turn.Arranged start steps) := arranged_hosted standard
  unfold Toolkit.siblings at fans
  cases target : outcome.target with
  | step id | join id =>
    rw [target] at fans
    cases fans
    exact arranged
  | split splitId =>
    rw [target] at fans
    obtain ⟨scope, _, seen, finds⟩ := of_andThen_ok fans
    cases seen
    obtain ⟨split, _, found, validates⟩ := of_andThen_ok finds
    obtain ⟨-, rfl⟩ := of_ofOption_ok found
    obtain ⟨_, _, validated, runs⟩ := of_andThen_ok validates
    obtain ⟨_, _, run, answers⟩ := of_andThen_ok runs
    cases answers
    exact (hosts.functions _).answer ((hosts.validators _).answer arranged validated) run

/-- Siblings that close nothing open a step each, in turn. -/
theorem enterSiblings_arranged {outcomes : List Outcome} (arranged : Turn.Arranged start steps turn)
    (ran : kit.enterSiblings actionId leaving false outcomes turn = (.ok (), after)) :
    ∃ created, List.Forall₂ (fun outcome step => Step.EnteredFor step start.scope.entry.id outcome
        leaving (leaving.map (·.id)).toList) outcomes created ∧
      created.map (·.id) = List.range' (steps.count + 1) outcomes.length ∧
      Turn.Arranged start (steps.enter leaving.isNone created) after := by
  induction outcomes generalizing steps turn with
  | nil =>
    cases ran
    exact ⟨[], .nil, rfl, by rw [steps.enter_nil]; exact arranged⟩
  | cons outcome rest ih =>
    obtain ⟨_, _, enters, others⟩ := of_andThen_ok ran
    obtain ⟨first, isFirst, number, entered⟩ :=
      enterStep_arranged standard arranged (by simp) (by simp) enters
    rw [if_neg (by simp)] at entered
    obtain ⟨later, areLater, numbers, ends⟩ := ih entered others
    refine ⟨first :: later, .cons isFirst areLater, ?_, ?_⟩
    · rw [List.map_cons, number, numbers, List.length_cons, List.range'_succ]
      rfl
    · rw [Arrangement.enter_enter] at ends
      exact ends

end Standard

end Toolkit

namespace Execution

variable {execution : Execution} {leaving : Option Step}

/-- What the action leaves, and the outcomes that it opens steps for, by the time at which the
first of them is entered. -/
def departs (execution : Execution) : Except Failure (Option Step × List Outcome) × Turn :=
  (do
    let (leaving, outcome) ← execution.kit.ready execution.chosen execution.turn.scope
    let siblings ← execution.kit.siblings outcome
    return (leaving, siblings)) (execution.turn.begun execution.chosen)

/-- An action that opens steps closes the one it leaves. -/
theorem departs_exactly {happenings : List Happening} {first : Outcome} {rest : List Outcome}
    {opening last : Turn} {progress : Progress}
    (standard : execution.kit.extensions = Builtin.extensions)
    (reached : execution.turn.world = World.through {} happenings)
    (shown : execution.turn.scope.currentSteps =
      execution.turn.world.store.currentSteps execution.entryId)
    (goesOn : execution.chosen.action.finish = false)
    (departs : execution.departs = (.ok (leaving, first :: rest), opening))
    (answered : execution.kit.execute execution.chosen execution.turn = (.ok progress, last)) :
    let store := execution.turn.world.store
    let id := execution.entryId
    let closing := execution.turn.closing execution.chosen.action.id
      (execution.kit.statusLeft first opening)
    (∀ step ∈ leaving, step ∈ store.currentSteps id) ∧ ∃ created,
      List.Forall₂ (fun outcome step => Step.EnteredFor step id outcome leaving
        (leaving.map (·.id)).toList) (first :: rest) created ∧
      created.map (·.id) = List.range' (store.stepCount + 1) (rest.length + 1) ∧
      execution.turn.Arranged
        { current := Toolkit.others leaving (store.currentSteps id) ++ created
          history := store.historySteps id ++ leaving.toList.map closing.mark
          shown := execution.turn.scope.currentSteps ++ if leaving.isNone then created else []
          count := store.stepCount + created.length
          closings := execution.turn.world.journal.filter Event.isClosing ++
            leaving.toList.flatMap closing.events } last := by
  intro store id closing
  obtain ⟨_, _, booked⟩ := World.through_booked happenings
  rw [← reached] at booked
  have handles : Handles id (store.currentSteps id) := booked.handles id
  obtain ⟨⟨left, outcome⟩, now, readied, fans⟩ := of_andThen_ok departs
  obtain ⟨siblings, _, found, same⟩ := of_andThen_ok fans
  cases same
  obtain ⟨isShown, before⟩ := ready_arranged standard readied
  rw [shown] at isShown
  obtain ⟨taken, takes, concludes⟩ := of_executed readied answered
  obtain ⟨entered, calls, enters, runs⟩ :=
    Toolkit.takeOutcome_of_siblings goesOn (by simp) found takes
  obtain ⟨_, _, opens, others⟩ := of_andThen_ok enters
  obtain ⟨opened, isFirst, number, afterFirst⟩ := Toolkit.enterStep_arranged standard
    (Toolkit.siblings_arranged standard before found) (fun _ => handles) (fun _ => isShown) opens
  rw [if_pos rfl] at afterFirst
  obtain ⟨created, areOthers, numbers, afterAll⟩ :=
    Toolkit.enterSiblings_arranged standard afterFirst others
  rw [Arrangement.enter_enter, List.singleton_append] at afterAll
  have ends := ((Toolkit.arranged_hosted standard).functions calls).answer afterAll runs
  obtain ⟨-, ends⟩ := Toolkit.conclude_arranged standard ends goesOn concludes
  refine ⟨isShown, opened :: created, .cons isFirst areOthers, ?_, ends⟩
  rw [List.map_cons, number, numbers, List.range'_succ]
  rfl

end Execution

/-! ### A task that is handed over in part -/

/-- A workflow in which a task is handed over and kept at once. -/
def handover : Blueprint where
  name := "handover"
  initialActions :=
    [{ id := 1, name := "begin",
       unconditionalOutcome := some { target := .step 1, status := "Open" } }]
  steps :=
    [{ id := 1, name := "own",
       actions := [{ id := 10, name := "share",
                     unconditionalOutcome := some { target := .split 1 } }] },
     { id := 2, name := "other",
       actions := [{ id := 20, name := "stay",
                     unconditionalOutcome := some { target := .step Target.sameStep } }] }]
  splits :=
    [{ id := 1
       outcomes :=
         [{ target := .step 2, status := "Given", oldStatus := "Shared" },
          { target := .step Target.sameStep, status := "Kept", oldStatus := "Unused" }] }]

/-- A task is open, beside a step that was opened before. -/
def handoverBegun : List Happening :=
  [.asked (.createEntry "handover"), .asked (.setEntryState 1 .activated),
    .asked (.createStep { entryId := 1, defId := 2, startDate := ⟨0, 0⟩, status := "Open" }),
    .asked (.createStep { entryId := 1, defId := 1, startDate := ⟨0, 0⟩, status := "Open" })]

/-- The sharing of the task. -/
def sharing : Execution where
  kit := { extensions := Builtin.extensions }
  chosen := ⟨.step 1, { id := 10, name := "share", unconditionalOutcome := some { target := .split 1 } }⟩
  turn :=
    { world := World.through {} handoverBegun
      scope := {
        caller := some "ann"
        entry := ⟨1, "handover", .activated, ⟨0, 0⟩⟩
        blueprint := handover
        currentSteps := (World.through {} handoverBegun).store.currentSteps 1 }
      home := 1 }

/-- The task is closed with the old status of the first sibling, and two steps follow it. -/
theorem sharing_departs :
    (sharing.kit.execute sharing.chosen sharing.turn).1 = .ok .continued ∧
      sharing.after.store.currentIds sharing.entryId = [1, 3, 4] ∧
      (sharing.after.store.historySteps sharing.entryId).map
        (fun step => (step.id, step.actionId, step.status, step.caller)) =
          [(2, 10, "Shared", some "ann")] ∧
      sharing.after.store.stepCount = 4 := by
  have answered : (sharing.kit.execute sharing.chosen sharing.turn).1 = .ok .continued :=
    ok_of_eval (by decide +kernel)
  have left : sharing.departs.1 = .ok (sharing.turn.scope.currentSteps[1]?,
      [{ target := .step 2, status := "Given", oldStatus := "Shared" },
        { target := .step Target.sameStep, status := "Kept", oldStatus := "Unused" }]) :=
    ok_of_eval (by decide +kernel)
  have reached : sharing.turn.world = World.through {} handoverBegun := rfl
  have shown : sharing.turn.scope.currentSteps =
      sharing.turn.world.store.currentSteps sharing.entryId := rfl
  have goesOn : sharing.chosen.action.finish = false := rfl
  obtain ⟨isCurrent, created, entered, numbers, ends⟩ :=
    Execution.departs_exactly rfl reached shown goesOn (eq_of_first left) (eq_of_first answered)
  have others : (Toolkit.others sharing.turn.scope.currentSteps[1]?
      (sharing.turn.world.store.currentSteps sharing.entryId)).map (·.id) = [1] := by
    decide +kernel
  have count : sharing.turn.world.store.stepCount = 2 := by decide +kernel
  have unleft : sharing.turn.world.store.historySteps sharing.entryId = [] := by decide +kernel
  have status : sharing.kit.statusLeft { target := .step 2, status := "Given", oldStatus := "Shared" }
      sharing.departs.2 = "Shared" := by
    decide +kernel
  have leaves : sharing.turn.scope.currentSteps[1]?.toList.map (·.id) = [2] := by decide +kernel
  have current := congrArg (List.map (·.id)) ends.world.current
  have history := congrArg (List.map fun step => (step.id, step.actionId, step.status, step.caller))
    ends.world.history
  have counted := ends.world.counted
  have length := congrArg List.length numbers
  rw [List.length_map, List.length_range'] at length
  rw [List.map_append, others, numbers, count] at current
  rw [unleft, status] at history
  rw [count, length] at counted
  unfold Execution.after Store.currentIds
  refine ⟨answered, current, history.trans ?_, counted⟩
  rfl

end Caseflow
