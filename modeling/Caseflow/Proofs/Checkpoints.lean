import Caseflow.Proofs.Gatherings
import Caseflow.Proofs.Stages
/-! Checkpoints. While an action is executed, validators run at four points: those of the action
once the step being left is known, those of the outcome once it is chosen, those of all outcomes of
a split before any of them is entered, and those of the outcome of a join once its conditions have
passed. Nothing else rejects inputs, so whoever is told of a rejection knows how far the execution
has come. -/
namespace Caseflow

open Run

/-! ### What never rejects inputs -/

/-- The failure tells that inputs were rejected. -/
def Failure.isRejection : Failure → Bool
  | .invalidInput _ _ => true
  | _ => false

/-- Of the built-in extensions only validators reject inputs. -/
theorem Builtin.Refusal.accepts {kind : ExtensionKind} {failure : Failure}
    (refusal : Builtin.Refusal kind failure) (apart : kind ≠ .validator) :
    failure.isRejection = false := by
  cases refusal with
  | input => exact absurd rfl apart
  | unknown | argument | step | store => rfl

namespace Toolkit

variable {kit : Toolkit}

/-- What is carried out before the state of the entry is touched rejects inputs by its hooks
only. -/
theorem Refusal.accepts {refused : Failure → Prop} {failure : Failure}
    (refusal : Refusal refused failure)
    (accepts : ∀ failure, refused failure → failure.isRejection = false) :
    failure.isRejection = false := by
  cases refusal with
  | hook was => exact accepts failure was
  | store | step | defect | setUp => rfl

/-- The computation never rejects inputs. -/
abbrev Accepts {σ α : Type} (computation : Run σ α) : Prop :=
  Keeps (fun _ => True) (fun failure => failure.isRejection = false) computation

namespace Accepts

variable {σ α β : Type} {first : Run σ α} {state after : σ} {failure : Failure}

theorem not_rejected (accepts : Accepts first) (rejection : failure.isRejection = true) :
    first state ≠ (.error failure, after) := by
  intro failed
  have accepted : failure.isRejection = false := (Meets.failure accepts trivial failed).2
  rw [rejection] at accepted
  cases accepted

/-- A rejection does not come from a first part that never rejects. -/
theorem rest {next : α → Run σ β} (accepts : Accepts first) (rejection : failure.isRejection = true)
    (failed : andThen first next state = (.error failure, after)) :
    ∃ answer middle, first state = (.ok answer, middle) ∧
      next answer middle = (.error failure, after) := by
  rcases of_andThen_error failed with early | late
  · exact absurd early (accepts.not_rejected rejection)
  · exact late

end Accepts

theorem accepts_of_refusals {α : Type} {computation : Run Turn α}
    (keeps : Keeps (fun _ => True) (Refusal fun failure => failure.isRejection = false) computation) :
    Accepts computation :=
  keeps_mono keeps fun _ was => was.accepts fun _ accepts => accepts

/-- What holds anyway is kept by whatever a transition writes. -/
theorem carried_anyhow : Turn.Carried (fun _ => True) fun _ => True where
  own _ _ := trivial
  amended _ _ _ _ := trivial
  looked _ _ _ _ _ _ := trivial
  finished _ _ _ _ _ _ _ := trivial
  moved _ _ _ _ _ _ := trivial
  created _ _ _ _ _ _ _ := trivial

theorem stable_anyhow : Turn.Stable fun _ => True :=
  fun _ _ _ _ => trivial

/-- A request that is refused tells of the store. -/
theorem request_accepts (request : StoreRequest) : Accepts (Run.request request) :=
  keeps_request (fun _ => rfl) fun _ _ _ _ _ => trivial

theorem move_accepts (finishedStatus : String) (entryId : EntryId) (target : EntryState)
    (actionId : ActionId) (caller : Option String) :
    Accepts (Lifecycle.move finishedStatus entryId target actionId caller) :=
  Lifecycle.move_keeps (fun _ => rfl) (fun _ _ _ => rfl) (fun request _ => request_accepts request)
    _ _ _ _ _

section Standard

variable (standard : kit.extensions = Builtin.extensions)

include standard

/-- The functions among the built-in extensions never reject inputs. -/
theorem functions_accept (calls : List Call) : Accepts (kit.runFunctions calls) := by
  have modest : kit.extensions.Modest Builtin.Refusal := standard ▸ Builtin.extensions_modest
  have functions := modest.functions.mono fun _ modest given =>
    Turn.perform_keeps stable_anyhow (modest given)
  exact keeps_mono (runFunctions_keeps stable_anyhow functions calls)
    fun _ was => was.accepts (by simp)

/-- Neither do the guards. -/
theorem guards_accept (tree : Option Conditions) (stepId : StepDefId) :
    Accepts (kit.passesNow tree stepId) := by
  have refuses : kit.extensions.Refuses Builtin.Refusal :=
    standard ▸ Builtin.extensions_modest.toRefuses
  exact keeps_mono (passesNow_keeps stable_anyhow refuses tree stepId)
    fun _ was => was.accepts (by simp)

theorem availability_accepts (candidate : ScopedAction) (stepId : StepDefId) :
    Accepts (kit.isAvailable candidate stepId) := by
  have refuses : kit.extensions.Refuses Builtin.Refusal :=
    standard ▸ Builtin.extensions_modest.toRefuses
  exact keeps_mono (isAvailable_keeps stable_anyhow refuses candidate stepId)
    fun _ was => was.accepts (by simp)

theorem leavingStep_accepts (actionId : ActionId) : Accepts (kit.leavingStep actionId) :=
  leavingStep_keeps (availability_accepts standard) actionId

theorem leaveStep_accepts (blueprint : Blueprint) (leaving : Option Step) :
    Accepts (kit.leaveStep blueprint leaving) :=
  accepts_of_refusals (leaveStep_keeps (functions_accept standard) blueprint leaving)

theorem elect_accepts (action : Action) (leaving : Option Step) :
    Accepts (kit.elect action leaving) :=
  accepts_of_refusals (selectOutcome_keeps (guards_accept standard) action _)

theorem enterStep_accepts (outcome : Outcome) (actionId : ActionId) (leaving : Option Step)
    (closeLeaving : Bool) (previous : List StepId) :
    Accepts (kit.enterStep outcome actionId leaving closeLeaving previous) :=
  accepts_of_refusals (enterStep_keeps carried_anyhow.toBears (closeStep_keeps carried_anyhow)
    (functions_accept standard) outcome actionId leaving closeLeaving previous)

theorem takePlain_accepts (action : Action) (outcome : Outcome) (leaving : Option Step) :
    Accepts (kit.takePlain action outcome leaving) :=
  accepts_of_refusals (takePlain_keeps carried_anyhow.toBears (closeStep_keeps carried_anyhow)
    (functions_accept standard) action outcome leaving)

theorem enterSiblings_accepts (actionId : ActionId) (leaving : Option Step) (isFirst : Bool)
    (outcomes : List Outcome) : Accepts (kit.enterSiblings actionId leaving isFirst outcomes) :=
  accepts_of_refusals (enterSiblings_keeps carried_anyhow.toBears (closeStep_keeps carried_anyhow)
    (functions_accept standard) actionId leaving isFirst outcomes)

/-- Once the validators of a split have run, nothing rejects inputs. -/
theorem fanOut_accepts (split : Split) (action : Action) (leaving : Option Step) : Accepts (do
    kit.runFunctions (split.outcomes.flatMap (·.preFunctions))
    if !action.finish then
      kit.enterSiblings action.id leaving true split.outcomes
    kit.runFunctions (split.outcomes.flatMap (·.postFunctions))) := by
  have functions := functions_accept standard
  refine keeps_bind (functions _) fun _ => ?_
  split
  · exact keeps_bind (enterSiblings_accepts standard _ _ _ _) fun _ => functions _
  · exact functions _

/-- Once the validators of a join have run, nothing rejects inputs. -/
theorem passOn_accepts (gathering : Gathering) (action : Action) (leaving : Option Step) : Accepts (do
    kit.runFunctions gathering.outcome.preFunctions
    retire gathering.still
    if !action.finish then
      kit.enterStep gathering.outcome action.id leaving false (gathering.branches.map (·.id))
    kit.runFunctions gathering.outcome.postFunctions
    showBranches none) := by
  have functions := functions_accept standard
  have hides : Accepts (do
      kit.runFunctions gathering.outcome.postFunctions
      showBranches none) :=
    keeps_bind (functions _) fun _ =>
      accepts_of_refusals (showBranches_keeps carried_anyhow.toBears none)
  refine keeps_bind (functions _) fun _ => ?_
  refine keeps_bind (accepts_of_refusals (retire_keeps carried_anyhow.toBears _)) fun _ => ?_
  split
  · exact keeps_bind (enterStep_accepts standard _ _ _ _ _) fun _ => hides
  · exact hides

/-- The validators of a join run after it was decided. -/
theorem gather_accepts (joinId : NodeId) (action : Action) (outcome : Outcome)
    (leaving : Option Step) : Accepts (kit.gather joinId action outcome leaving) := by
  unfold gather
  refine keeps_bind scopeNow_keeps fun scope => ?_
  refine keeps_bind (keeps_ofOption rfl) fun join => ?_
  refine keeps_bind (keeps_ofOption rfl) fun joined => ?_
  refine keeps_bind (accepts_of_refusals
    (arrive_keeps (closeStep_keeps carried_anyhow) action outcome leaving)) fun arrived => ?_
  refine keeps_bind (Turn.onWorld_keeps (request_accepts _)) fun history => ?_
  refine keeps_bind (accepts_of_refusals (showBranches_keeps carried_anyhow.toBears _)) fun _ => ?_
  exact keeps_bind (guards_accept standard _ _) fun passed => keeps_pure _

/-- What follows on an outcome runs functions, and moves the entry. -/
theorem conclude_accepts (chosen : ScopedAction) (scope : Scope) (outcome : Outcome) :
    Accepts (kit.conclude chosen scope outcome) := by
  have moves (finishedStatus : String) (entryId : EntryId) (target : EntryState)
      (actionId : ActionId) (caller : Option String) : Accepts (do
        let _ ← Turn.onWorld (Lifecycle.move finishedStatus entryId target actionId caller)
        Turn.amendScope fun scope =>
          { scope with entry := { scope.entry with state := target } }) :=
    keeps_bind (Turn.onWorld_keeps (move_accepts _ _ _ _ _)) fun _ => keeps_change fun _ _ => trivial
  unfold conclude
  refine keeps_bind (functions_accept standard _) fun _ => ?_
  refine keeps_bind (functions_accept standard _) fun _ => ?_
  exact keeps_bind (activate_keeps moves _ _) fun _ => finish_keeps moves _ _

end Standard

end Toolkit

/-! ### Where a rejection comes from -/

/-- The points of an execution at which validators run. At the last one the arriving step has been
closed, if there is one. -/
inductive Checkpoint where
  | action
  | outcome
  | siblings
  | joined (leaving : Option Step) (closing : Closing)

namespace Execution

/-- The execution fails at the checkpoint, as validators have run on what it has come to. -/
inductive RejectedAt (execution : Execution) (failure : Failure) (last : Turn) : Checkpoint → Prop where
  | action {leaving : Option Step} {now : Turn}
      (leaves : execution.kit.leavingStep execution.chosen.id
        (execution.turn.begun execution.chosen) = (.ok leaving, now))
      (rejects : execution.kit.runValidators execution.chosen.action.validators now =
        (.error failure, last)) :
      RejectedAt execution failure last .action
  | outcome {leaving : Option Step} {outcome : Outcome} {prepared now : Turn}
      (prepares : execution.kit.prepare execution.chosen execution.turn.scope
        (execution.turn.begun execution.chosen) = (.ok leaving, prepared))
      (elects : execution.kit.elect execution.chosen.action leaving prepared = (.ok outcome, now))
      (rejects : execution.kit.runValidators outcome.validators now = (.error failure, last)) :
      RejectedAt execution failure last .outcome
  | siblings {leaving : Option Step} {outcome : Outcome} {splitId : NodeId} {split : Split} {now : Turn}
      (readied : execution.kit.ready execution.chosen execution.turn.scope
        (execution.turn.begun execution.chosen) = (.ok (leaving, outcome), now))
      (leads : outcome.target = .split splitId)
      (found : now.scope.blueprint.split? splitId = some split)
      (rejects : execution.kit.runValidators (split.outcomes.flatMap (·.validators)) now =
        (.error failure, last)) :
      RejectedAt execution failure last .siblings
  | joined {leaving : Option Step} {outcome : Outcome} {joinId : NodeId} {gathering : Gathering}
      {now gathered : Turn}
      (readied : execution.kit.ready execution.chosen execution.turn.scope
        (execution.turn.begun execution.chosen) = (.ok (leaving, outcome), now))
      (leads : outcome.target = .join joinId)
      (gathers : execution.kit.gather joinId execution.chosen.action outcome leaving now =
        (.ok (some gathering), gathered))
      (rejects : execution.kit.runValidators gathering.outcome.validators gathered =
        (.error failure, last)) :
      RejectedAt execution failure last (.joined leaving
        (execution.turn.closing execution.chosen.action.id (execution.kit.statusLeft outcome now)))

variable {execution : Execution} {failure : Failure} {last : Turn}

section Standard

variable (standard : execution.kit.extensions = Builtin.extensions)
  (rejection : failure.isRejection = true)

include standard rejection

/-- While an action gets ready, inputs are rejected for the action or for its outcome. -/
theorem rejectedAt_of_ready
    (failed : execution.kit.ready execution.chosen execution.turn.scope
      (execution.turn.begun execution.chosen) = (.error failure, last)) :
    execution.RejectedAt failure last .action ∨ execution.RejectedAt failure last .outcome := by
  rw [Toolkit.ready_prepared] at failed
  rcases of_andThen_error failed with early | ⟨leaving, prepared, prepares, late⟩
  · left
    obtain ⟨leaving, now, leaves, rest⟩ :=
      (Toolkit.leavingStep_accepts standard _).rest rejection early
    rcases of_andThen_error rest with rejects | ⟨_, _, -, follows⟩
    · exact .action leaves rejects
    · have accepts : Toolkit.Accepts (do
          execution.kit.leaveStep execution.turn.scope.blueprint leaving
          execution.kit.runFunctions execution.chosen.action.preFunctions
          return leaving) :=
        keeps_bind (Toolkit.leaveStep_accepts standard _ _) fun _ =>
          keeps_bind (Toolkit.functions_accept standard _) fun _ => keeps_pure _
      exact absurd follows (accepts.not_rejected rejection)
  · right
    obtain ⟨outcome, now, elects, rest⟩ :=
      (Toolkit.elect_accepts standard _ leaving).rest rejection late
    rcases of_andThen_error rest with rejects | ⟨_, _, -, follows⟩
    · exact .outcome prepares elects rejects
    · have accepts : Toolkit.Accepts (do
          execution.kit.runFunctions outcome.preFunctions
          return (leaving, outcome)) :=
        keeps_bind (Toolkit.functions_accept standard _) fun _ => keeps_pure _
      exact absurd follows (accepts.not_rejected rejection)

/-- While an outcome is taken, inputs are rejected for the outcomes of a split or for that of a
join. -/
theorem rejectedAt_of_takeOutcome {leaving : Option Step} {outcome : Outcome} {now : Turn}
    (readied : execution.kit.ready execution.chosen execution.turn.scope
      (execution.turn.begun execution.chosen) = (.ok (leaving, outcome), now))
    (failed : execution.kit.takeOutcome execution.chosen.action outcome leaving now =
      (.error failure, last)) :
    execution.RejectedAt failure last .siblings ∨
      execution.RejectedAt failure last (.joined leaving
        (execution.turn.closing execution.chosen.action.id (execution.kit.statusLeft outcome now))) := by
  unfold Toolkit.takeOutcome at failed
  cases leads : outcome.target with
  | step id =>
    rw [leads] at failed
    exact absurd failed ((Toolkit.takePlain_accepts standard _ _ _).not_rejected rejection)
  | split splitId =>
    left
    rw [leads] at failed
    dsimp only at failed
    unfold Toolkit.takeSplit at failed
    rcases of_andThen_error failed with early | ⟨scope, _, seen, finds⟩
    · cases early
    cases seen
    rcases of_andThen_error finds with missing | ⟨split, _, found, validates⟩
    · obtain ⟨-, rfl⟩ := of_ofOption_error missing
      cases rejection
    obtain ⟨isSplit, rfl⟩ := of_ofOption_ok found
    rcases of_andThen_error validates with rejects | ⟨_, _, -, follows⟩
    · exact .siblings readied leads isSplit rejects
    · exact absurd follows ((Toolkit.fanOut_accepts standard _ _ _).not_rejected rejection)
  | join joinId =>
    right
    rw [leads] at failed
    dsimp only at failed
    rw [Toolkit.takeJoin_gathers] at failed
    obtain ⟨opened, gathered, gathers, passes⟩ :=
      (Toolkit.gather_accepts standard _ _ _ _).rest rejection failed
    cases opened with
    | none => cases passes
    | some gathering =>
      rcases of_andThen_error passes with rejects | ⟨_, _, -, follows⟩
      · exact .joined readied leads gathers rejects
      · exact absurd follows ((Toolkit.passOn_accepts standard _ _ _).not_rejected rejection)

/-- Inputs are rejected at one of the checkpoints. -/
theorem rejectedAt_of_failed
    (failed : execution.kit.execute execution.chosen execution.turn = (.error failure, last)) :
    ∃ checkpoint, execution.RejectedAt failure last checkpoint := by
  rw [Toolkit.execute_ready] at failed
  rcases of_andThen_error failed with early | ⟨⟨leaving, outcome⟩, now, readied, rest⟩
  · rcases rejectedAt_of_ready standard rejection early with rejected | rejected
    · exact ⟨_, rejected⟩
    · exact ⟨_, rejected⟩
  · rcases of_andThen_error rest with takes | ⟨_, _, -, concludes⟩
    · rcases rejectedAt_of_takeOutcome standard rejection readied takes with rejected | rejected
      · exact ⟨_, rejected⟩
      · exact ⟨_, rejected⟩
    · exact absurd concludes ((Toolkit.conclude_accepts standard _ _ _).not_rejected rejection)

end Standard

end Execution

/-! ### What has been done by then -/

namespace Store

/-- All entries are stored as they were, and all their steps are where and as they were. -/
structure KeepsSteps (store after : Store) : Prop where
  entries : ∀ id, after.findEntry? id = store.findEntry? id
  current : ∀ id, after.currentSteps id = store.currentSteps id
  history : ∀ id, after.historySteps id = store.historySteps id

/-- All entries are stored as they were, and of all steps just the one that the handle names has
been closed. -/
structure OnlyCloses (store : Store) (handle : Step) (closing : Closing) (after : Store) : Prop where
  entries : ∀ id, after.findEntry? id = store.findEntry? id
  left : ∃ step, store.currentStep? handle = some step ∧
    after.historySteps handle.entryId = store.historySteps handle.entryId ++ [closing.mark step]
  others : after.currentSteps handle.entryId =
    Toolkit.others (some handle) (store.currentSteps handle.entryId)
  elsewhere : ∀ id, id ≠ handle.entryId →
    after.currentSteps id = store.currentSteps id ∧ after.historySteps id = store.historySteps id

/-- A closing that is noted on a step which is then moved closes that step, and nothing else. -/
theorem onlyCloses_of_moved {store middle after : Store} {handle marked : Step} {closing : Closing}
    (distinct : ((store.currentSteps handle.entryId).map (·.id)).Nodup)
    (marks : store.markFinished handle closing = .ok (marked, middle))
    (moves : middle.moveToHistory handle = .ok after) : store.OnlyCloses handle closing after := by
  have noted : middle.currentSteps handle.entryId = (store.currentSteps handle.entryId).map
      fun step => if step.id = handle.id then closing.mark step else step := by
    rw [currentSteps_markFinished marks, if_pos rfl]
  constructor
  · intro id
    rw [findEntry?_moveToHistory moves, findEntry?_markFinished marks]
  · obtain ⟨step, found, -, -⟩ := markFinished_eq marks
    obtain ⟨moved, left, history⟩ := historySteps_moveToHistory moves
    have named : step.id = handle.id := by simpa using List.find?_some found
    have closed : middle.currentStep? handle = some (closing.mark step) := by
      unfold currentStep? at found ⊢
      rw [noted, ← named]
      rw [← named] at found
      exact Toolkit.find?_marked closing found
    rw [closed] at left
    obtain rfl := Option.some.inj left
    refine ⟨step, found, ?_⟩
    rw [history, if_pos rfl, historySteps_markFinished marks]
  · rw [currentSteps_moveToHistory moves, if_pos rfl, noted]
    exact Toolkit.erase_marked distinct handle closing
  · intro id apart
    obtain ⟨_, -, history⟩ := historySteps_moveToHistory moves
    constructor
    · rw [currentSteps_moveToHistory moves, if_neg apart, currentSteps_markFinished marks,
        if_neg apart]
    · rw [history, if_neg apart, historySteps_markFinished marks]

theorem OnlyCloses.historyIds {store after : Store} {handle : Step} {closing : Closing}
    (closes : store.OnlyCloses handle closing after) :
    after.historyIds handle.entryId = store.historyIds handle.entryId ++ [handle.id] := by
  obtain ⟨step, found, history⟩ := closes.left
  have named : step.id = handle.id := by simpa using List.find?_some found
  rw [Store.historyIds, history, List.map_append, ← named]
  rfl

namespace KeepsSteps

variable {store middle after : Store}

theorem refl (store : Store) : store.KeepsSteps store :=
  ⟨fun _ => rfl, fun _ => rfl, fun _ => rfl⟩

theorem trans (first : store.KeepsSteps middle) (rest : middle.KeepsSteps after) :
    store.KeepsSteps after where
  entries id := (rest.entries id).trans (first.entries id)
  current id := (rest.current id).trans (first.current id)
  history id := (rest.history id).trans (first.history id)

theorem modifyProperties (store : Store) (id : EntryId) (change : Values → Values) :
    store.KeepsSteps (store.modifyProperties id change) := by
  constructor <;> simp

end KeepsSteps

end Store

/-- By the time at which validators run at the checkpoint, no more has been done to entries and
steps than this. -/
def Checkpoint.Allows (store after : Store) : Checkpoint → Prop
  | .action | .outcome | .siblings | .joined none _ => store.KeepsSteps after
  | .joined (some handle) closing => store.OnlyCloses handle closing after

/-- Whatever keeps all steps may come before a checkpoint and after it. -/
theorem Checkpoint.Allows.around {checkpoint : Checkpoint} {store before after last : Store}
    (first : store.KeepsSteps before) (allows : checkpoint.Allows before after)
    (rest : after.KeepsSteps last) : checkpoint.Allows store last := by
  match checkpoint, allows with
  | .action, keeps | .outcome, keeps | .siblings, keeps | .joined none _, keeps =>
    exact (first.trans keeps).trans rest
  | .joined (some handle) closing, closes =>
    obtain ⟨step, current, history⟩ := closes.left
    constructor
    · exact fun id => (rest.entries id).trans ((closes.entries id).trans (first.entries id))
    · refine ⟨step, ?_, ?_⟩
      · rw [Store.currentStep?, ← first.current]
        exact current
      · rw [rest.history, history, first.history]
    · rw [rest.current, closes.others, first.current]
    · intro id apart
      obtain ⟨sameCurrent, sameHistory⟩ := closes.elsewhere id apart
      exact ⟨(rest.current id).trans (sameCurrent.trans (first.current id)),
        (rest.history id).trans (sameHistory.trans (first.history id))⟩

namespace Turn

variable {before after turn : Turn}

theorem Hooked.keepsSteps (hooked : before.Hooked after) :
    before.world.store.KeepsSteps after.world.store := by
  obtain ⟨change, store⟩ := hooked.store
  rw [store]
  exact .modifyProperties _ _ _

theorem keepsSteps_stable (store : Store) : Stable fun turn => store.KeepsSteps turn.world.store :=
  fun _ _ hooked keeps => keeps.trans hooked.keepsSteps

end Turn

namespace Toolkit

variable {kit : Toolkit} {turn after : Turn} {action : Action} {outcome : Outcome}
  {leaving : Option Step}

/-- A step that a turn closes is closed in the name of its caller, and nothing else is touched. -/
theorem closeStep_closes {step closed : Step} {actionId : ActionId} {status : String}
    (distinct : ((turn.world.store.currentSteps step.entryId).map (·.id)).Nodup)
    (ran : closeStep step actionId status turn = (.ok closed, after)) :
    turn.world.store.OnlyCloses step (turn.closing actionId status) after.world.store := by
  obtain ⟨marked, _, marks, moves⟩ := of_andThen_ok ran
  obtain ⟨between, finished, rfl⟩ := Turn.of_onWorld_ok marks
  obtain ⟨_, _, moves, answers⟩ := of_andThen_ok moves
  obtain ⟨last, moved, rfl⟩ := Turn.of_onWorld_ok moves
  cases answers
  cases World.served_of_request finished with
  | absent value lost => cases lost
  | answered value store done =>
    cases World.served_of_request moved with
    | absent value lost => cases lost
    | answered value store leaves =>
      obtain ⟨_, left, same⟩ := exists_of_map_eq_ok leaves
      cases same
      exact Store.onlyCloses_of_moved distinct done left

/-- An arrival closes the arriving step, if there is one. -/
theorem arrive_allows {arrived : List Step}
    (distinct : ∀ id, ((turn.world.store.currentSteps id).map (·.id)).Nodup)
    (ran : takeJoin.arrive kit action outcome leaving turn = (.ok arrived, after)) :
    (Checkpoint.joined leaving (turn.closing action.id (kit.statusLeft outcome turn))).Allows
      turn.world.store after.world.store := by
  cases leaving with
  | none =>
    cases ran
    exact Store.KeepsSteps.refl _
  | some step =>
    unfold takeJoin.arrive at ran
    dsimp only at ran
    obtain ⟨status, _, told, closes⟩ := of_andThen_ok ran
    rw [oldStatus_eq] at told
    cases told
    obtain ⟨closed, _, ends, answers⟩ := of_andThen_ok closes
    cases answers
    exact closeStep_closes (distinct step.entryId) ends

section Standard

variable (standard : kit.extensions = Builtin.extensions)

include standard

/-- Until a join is decided only the arriving step is closed. -/
theorem gather_allows {joinId : NodeId} {opened : Option Gathering}
    (distinct : ∀ id, ((turn.world.store.currentSteps id).map (·.id)).Nodup)
    (ran : kit.gather joinId action outcome leaving turn = (.ok opened, after)) :
    (Checkpoint.joined leaving (turn.closing action.id (kit.statusLeft outcome turn))).Allows
      turn.world.store after.world.store := by
  unfold gather at ran
  obtain ⟨scope, _, seen, finds⟩ := of_andThen_ok ran
  cases seen
  obtain ⟨join, _, found, outcomes⟩ := of_andThen_ok finds
  obtain ⟨-, rfl⟩ := of_ofOption_ok found
  obtain ⟨joined, _, leads, arrives⟩ := of_andThen_ok outcomes
  obtain ⟨-, rfl⟩ := of_ofOption_ok leads
  obtain ⟨arrived, closed, closes, recalls⟩ := of_andThen_ok arrives
  have allows := arrive_allows distinct closes
  -- after the arrival the turn only looks
  have hosts : kit.Hosts _ fun turn => closed.world.store.KeepsSteps turn.world.store :=
    hosts_of_modest (Turn.keepsSteps_stable _) (standard ▸ Builtin.extensions_modest)
  obtain ⟨history, _, reads, shows⟩ := of_andThen_ok recalls
  obtain ⟨world, asked, rfl⟩ := Turn.of_onWorld_ok reads
  obtain ⟨same, -, -⟩ := World.historySteps_served (World.served_of_request asked)
  obtain ⟨_, _, showing, decides⟩ := of_andThen_ok shows
  cases showing
  obtain ⟨passed, judged, asks, answers⟩ := of_andThen_ok decides
  cases answers
  have looked : closed.world.store.KeepsSteps world.store := same ▸ .refl _
  exact Checkpoint.Allows.around (.refl _) allows ((hosts.guards _ _).answer looked asks)

end Standard

end Toolkit

namespace Execution

variable {execution : Execution} {failure : Failure} {last : Turn}

section Standard

variable (standard : execution.kit.extensions = Builtin.extensions)

include standard

/-- Validators that reject inputs have changed no step. -/
theorem keepsSteps_of_rejected {calls : List Call} {now : Turn}
    (rejects : execution.kit.runValidators calls now = (.error failure, last)) :
    now.world.store.KeepsSteps last.world.store := by
  have hosts : execution.kit.Hosts _ fun turn => now.world.store.KeepsSteps turn.world.store :=
    Toolkit.hosts_of_modest (Turn.keepsSteps_stable _) (standard ▸ Builtin.extensions_modest)
  exact ((hosts.validators calls).failure (.refl _) rejects).1

/-- An action that is rejected itself has only been looked at. -/
theorem RejectedAt.surveyed (rejected : execution.RejectedAt failure last .action) :
    (execution.turn.begun execution.chosen).Surveyed last := by
  have refuses : execution.kit.extensions.Refuses Builtin.Refusal :=
    standard ▸ Builtin.extensions_modest.toRefuses
  cases rejected with
  | action leaves rejects =>
    have searched := (Toolkit.leavingStep_keeps (Toolkit.isAvailable_surveys refuses) _).answer
      (Turn.Surveyed.refl _) leaves
    exact ((Toolkit.runValidators_surveys refuses _).failure searched rejects).1

/-- Whatever is rejected, no more has been done to entries and steps than its checkpoint allows. -/
theorem RejectedAt.allows {checkpoint : Checkpoint}
    (distinct : ∀ id, ((execution.turn.world.store.currentSteps id).map (·.id)).Nodup)
    (rejected : execution.RejectedAt failure last checkpoint) :
    checkpoint.Allows execution.turn.world.store last.world.store := by
  have begins := Toolkit.ready_hooked standard execution.chosen execution.turn
  cases rejected with
  | action leaves rejects =>
    have surveyed := RejectedAt.surveyed standard (.action leaves rejects)
    exact surveyed.store ▸ Store.KeepsSteps.refl _
  | outcome prepares elects rejects =>
    have fails := Toolkit.ready_of_rejected prepares elects rejects
    exact (begins.failure rfl fails).1.keepsSteps
  | siblings readied leads found rejects =>
    obtain ⟨-, hooked⟩ := begins.answer rfl readied
    exact hooked.keepsSteps.trans (keepsSteps_of_rejected standard rejects)
  | @joined leaving outcome joinId gathering now gathered readied leads gathers rejects =>
    obtain ⟨-, hooked⟩ := begins.answer rfl readied
    have keeps : execution.turn.world.store.KeepsSteps now.world.store := hooked.keepsSteps
    have closing : ∀ status, now.closing execution.chosen.action.id status =
        execution.turn.closing execution.chosen.action.id status := by
      obtain ⟨bindings, scope⟩ := hooked.scope
      intro status
      rw [Turn.closing, hooked.now, scope]
      rfl
    have nowDistinct : ∀ id, ((now.world.store.currentSteps id).map (·.id)).Nodup := by
      intro id
      rw [keeps.current]
      exact distinct id
    have closes := Toolkit.gather_allows standard nowDistinct gathers
    rw [closing] at closes
    exact .around keeps closes (keepsSteps_of_rejected standard rejects)

end Standard

/-- An action whose inputs are rejected, wherever that is, has changed no entry and no step, but
that the validators of a join find the arriving step closed. If it is rejected itself, nothing is
stored and no variable is set. -/
theorem rejections_precede_steps {happenings : List Happening} {text : String}
    {fields : SortedMap String String} {last : Turn}
    (standard : execution.kit.extensions = Builtin.extensions)
    (reached : execution.turn.world = World.through {} happenings)
    (rejected : execution.kit.execute execution.chosen execution.turn =
      (.error (.invalidInput text fields), last)) :
    (∃ checkpoint, execution.RejectedAt (.invalidInput text fields) last checkpoint) ∧
      ∀ checkpoint, execution.RejectedAt (.invalidInput text fields) last checkpoint →
        checkpoint.Allows execution.turn.world.store last.world.store ∧
          (checkpoint = .action → last.world.store = execution.turn.world.store ∧
            last.scope.bindings = execution.turn.scope.bindings) := by
  obtain ⟨_, _, booked⟩ := World.through_booked happenings
  rw [← reached] at booked
  refine ⟨rejectedAt_of_failed standard rfl rejected, fun checkpoint at_ => ⟨?_, ?_⟩⟩
  · exact at_.allows standard fun id => (booked.handles id).distinct
  · rintro rfl
    have surveyed := at_.surveyed standard
    exact ⟨surveyed.store, congrArg (fun scope => scope.bindings) surveyed.scope⟩

end Execution

/-! ### A report that lacks a summary -/

/-- The inquiry whose report needs a summary. -/
def summedUp : Blueprint :=
  { inquiry with
    joins := inquiry.joins.map fun join =>
      { join with
        outcome := join.outcome.map fun outcome =>
          { outcome with
            validators := [{ type := "required-inputs", args := .ofList [("names", "summary")] }] } } }

/-- The arrival of the first step, without a summary. -/
def unsummed : Execution where
  kit := arriving.kit
  chosen := arriving.chosen
  turn := { arriving.turn with scope := { arriving.turn.scope with blueprint := summedUp } }

/-- The step that arrives is left, and the one that was to be gathered with it stays where it is. -/
theorem unsummed_rejected :
    (unsummed.kit.execute unsummed.chosen unsummed.turn).1 =
        .error (.invalidInput "missing required inputs: 1" (.ofList [("summary", "required")])) ∧
      unsummed.after.store.historyIds unsummed.entryId = [1, 4] ∧
      unsummed.after.store.currentIds unsummed.entryId = [2, 3] := by
  have failed : (unsummed.kit.execute unsummed.chosen unsummed.turn).1 =
      .error (.invalidInput "missing required inputs: 1" (.ofList [("summary", "required")])) :=
    failed_of_eval (by decide +kernel)
  have readies : (unsummed.kit.ready unsummed.chosen unsummed.turn.scope
      (unsummed.turn.begun unsummed.chosen)).1 =
        .ok (unsummed.turn.scope.currentSteps[2]?, { target := .join 1, oldStatus := "Done" }) :=
    ok_of_eval (by decide +kernel)
  obtain ⟨⟨checkpoint, rejected⟩, sound⟩ :=
    Execution.rejections_precede_steps rfl rfl (eq_of_first failed)
  obtain ⟨allows, -⟩ := sound checkpoint rejected
  cases rejected with
  | action leaves rejects => cases rejects
  | outcome prepares elects rejects =>
    rw [Toolkit.ready_of_rejected prepares elects rejects] at readies
    cases readies
  | siblings readied leads found rejects =>
    rw [readied] at readies
    cases readies
    cases leads
  | joined readied leads gathers rejects =>
    rw [readied] at readies
    cases readies
    have rest := congrArg (List.map (·.id)) allows.others
    unfold Execution.after
    refine ⟨failed, allows.historyIds.trans ?_, rest.trans ?_⟩
    · decide +kernel
    · decide +kernel

end Caseflow
