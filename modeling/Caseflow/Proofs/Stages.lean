import Caseflow.Proofs.Departures
/-! The stages of an execution. An action prepares itself, elects its outcome and gets that ready;
an arrival at a join gathers the branches and then, where the conditions of the join pass on them,
passes it. Whatever has to be said between two of these can be said where the execution is cut into
them. -/
namespace Caseflow

open Run

/-- What an arrival has brought together at a join whose conditions pass: the outcome of the join,
the steps that are still current, and all branches. -/
structure Gathering where
  outcome : Outcome
  still : List Step
  branches : Branches

namespace Toolkit

/-! ### The parts of an execution -/

/-- What precedes the choice of the outcome: the step being left is found, and the functions that
come before the outcome run. -/
def prepare (kit : Toolkit) (chosen : ScopedAction) (scope : Scope) : Run Turn (Option Step) := do
  let leaving ← kit.leavingStep chosen.id
  kit.runValidators chosen.action.validators
  kit.leaveStep scope.blueprint leaving
  kit.runFunctions chosen.action.preFunctions
  return leaving

/-- The outcome is chosen by the conditions as they are then, at the step being left if there is
one. -/
def elect (kit : Toolkit) (action : Action) (leaving : Option Step) : Run Turn Outcome :=
  kit.selectOutcome action ((leaving.map (·.defId)).getD (-1))

/-- An action gets ready by its preparation, the choice of its outcome, and the validators and
functions of that. -/
theorem ready_prepared (kit : Toolkit) (chosen : ScopedAction) (scope : Scope) :
    kit.ready chosen scope = kit.prepare chosen scope >>= fun leaving => do
      let outcome ← kit.elect chosen.action leaving
      kit.runValidators outcome.validators
      kit.runFunctions outcome.preFunctions
      return (leaving, outcome) := by
  unfold ready choose prepare elect
  simp only [bind_assoc]
  rfl

/-- An outcome whose validators fail keeps an action from getting ready. -/
theorem ready_of_rejected {kit : Toolkit} {chosen : ScopedAction} {scope : Scope}
    {leaving : Option Step} {outcome : Outcome} {turn prepared now last : Turn} {failure : Failure}
    (prepares : kit.prepare chosen scope turn = (.ok leaving, prepared))
    (elects : kit.elect chosen.action leaving prepared = (.ok outcome, now))
    (rejects : kit.runValidators outcome.validators now = (.error failure, last)) :
    kit.ready chosen scope turn = (.error failure, last) := by
  rw [ready_prepared]
  refine (andThen_ok prepares).trans ((andThen_ok elects).trans ?_)
  exact andThen_error rejects

/-- Arrives at a join and decides it, before its validators run. -/
def gather (kit : Toolkit) (joinId : NodeId) (action : Action) (outcome : Outcome)
    (leaving : Option Step) : Run Turn (Option Gathering) := do
  let scope ← Turn.scopeNow
  let join ← Run.ofOption (.defective (.joinNotFound joinId)) (scope.blueprint.join? joinId)
  let joined ← Run.ofOption (.defective (.missingJoinOutcome joinId)) join.outcome
  let arrived ← takeJoin.arrive kit action outcome leaving
  let still := feeding scope.blueprint joinId leaving scope.currentSteps
  let history ← Turn.onWorld (World.historySteps scope.entry.id)
  let branches : Branches := arrived ++ still ++ feeding scope.blueprint joinId leaving history
  showBranches (some branches)
  let passed ← kit.passesNow (some join.conditions) 0
  return if passed then some ⟨joined, still, branches⟩ else none

/-- Passes the join, where it lets the entry pass. -/
def passJoin (kit : Toolkit) (action : Action) (leaving : Option Step) :
    Option Gathering → Run Turn Unit
  | none => showBranches none
  | some ⟨joined, still, branches⟩ => do
    kit.runValidators joined.validators
    kit.runFunctions joined.preFunctions
    retire still
    if !action.finish then
      kit.enterStep joined action.id leaving false (branches.map (·.id))
    kit.runFunctions joined.postFunctions
    showBranches none

/-- A join is taken by gathering its branches and passing it. -/
theorem takeJoin_gathers (kit : Toolkit) (joinId : NodeId) (action : Action) (outcome : Outcome)
    (leaving : Option Step) :
    kit.takeJoin joinId action outcome leaving =
      kit.gather joinId action outcome leaving >>= kit.passJoin action leaving := by
  unfold takeJoin gather
  simp only [bind_assoc]
  refine bind_congr fun scope => bind_congr fun join => bind_congr fun joined => ?_
  refine bind_congr fun arrived => bind_congr fun history => bind_congr fun _ => ?_
  refine bind_congr fun passed => ?_
  cases passed <;> rfl

end Toolkit

end Caseflow
