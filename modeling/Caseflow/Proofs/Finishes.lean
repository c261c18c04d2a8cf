import Caseflow.Proofs.Gatherings
import Caseflow.Proofs.Successors
import Caseflow.Proofs.Sweeps
/-! Finishes. An action that finishes its entry opens no step, wherever its outcome leads. A step
or a join as its target closes the step being left, a split closes nothing, and a join whose
conditions pass retires what it gathers as it is. Whatever is still current then is swept into the
history when the entry is completed, so each step that was current is there once. -/
namespace Caseflow

open Run

namespace Arrangement

/-- Of the steps that were current some have been closed and others retired as they are. The rest is
still current, and none has been opened. -/
structure Reduces (before : Arrangement) (closing : Closing) (closed retired : List Step)
    (after : Arrangement) : Prop where
  counted : after.count = before.count
  history : after.history = before.history ++ closed.map closing.mark ++ retired
  parts : (closed ++ retired ++ after.current).Perm before.current

namespace Reduces

variable {before after : Arrangement} {closing : Closing} {closed : List Step}

theorem here (before : Arrangement) (closing : Closing) : before.Reduces closing [] [] before where
  counted := rfl
  history := by simp
  parts := .refl _

/-- The step being left is one part of the current steps, and the others are the rest. -/
theorem left {leaving : Option Step} (distinct : (before.current.map (·.id)).Nodup)
    (among : ∀ step ∈ leaving, step ∈ before.current) :
    before.Reduces closing leaving.toList [] (before.leave closing leaving) where
  counted := rfl
  history := (List.append_nil _).symm
  parts := by
    cases leaving with
    | none => simp [leave]
    | some step =>
      have alone : before.current.filter (·.id = step.id) = [step] :=
        filter_own distinct (among step rfl)
      have parted := List.filter_append_perm (fun other => decide (other.id = step.id)) before.current
      rw [alone] at parted
      simpa [leave, Toolkit.others] using parted

/-- A part of what is still current is retired. -/
theorem retired (reduces : before.Reduces closing closed [] after)
    (distinct : (after.current.map (·.id)).Nodup) (part : Step → Bool) :
    before.Reduces closing closed (after.current.filter part)
      (after.retire (after.current.filter part)) where
  counted := reduces.counted
  history := by
    show after.history ++ after.current.filter part = _
    rw [reduces.history, List.append_nil]
  parts := by
    show (closed ++ after.current.filter part ++ (after.current.filter fun step =>
      step.id ∉ (after.current.filter part).map (·.id))).Perm before.current
    rw [filter_apart distinct, List.append_assoc]
    have parted := (List.filter_append_perm part after.current).append_left closed
    have parts := reduces.parts
    rw [List.append_nil] at parts
    exact parted.trans parts

/-- The rest can be worked on as before. -/
theorem handles {id : EntryId} {retired : List Step}
    (reduces : before.Reduces closing closed retired after) (handles : Handles id before.current) :
    Handles id after.current where
  own step member := handles.own step (reduces.parts.subset (List.mem_append_right _ member))
  distinct := by
    have distinct := (reduces.parts.map (·.id)).nodup_iff.mpr handles.distinct
    rw [List.map_append] at distinct
    exact (List.nodup_append.mp distinct).2.1

end Reduces

end Arrangement

namespace Lifecycle

variable {start : World} {entry : Entry} {past left : List Step}

/-- A move to a state that is no end sweeps nothing. -/
theorem move_ahead_sweeps {target : EntryState} (goesOn : target.isTerminal = false)
    (finishedStatus : String) (actionId : ActionId) (caller : Option String) :
    Meets (start.Swept entry past left) (move finishedStatus entry.id target actionId caller)
      (fun _ world => ∃ state, (state = entry.state ∨ state = target) ∧
        start.Swept { entry with state } past left world)
      (fun _ _ => True) := by
  unfold move
  refine meets_bind (meets_failures (findEntry_sweeps ⟨actionId, start.now, finishedStatus, caller⟩)
    fun _ _ _ => trivial) fun found => meets_given fun isEntry => ?_
  rw [isEntry]
  split
  · exact meets_pure fun world swept => ⟨entry.state, .inl rfl, swept⟩
  · split
    · exact meets_fail fun _ _ => trivial
    · dsimp only
      rw [if_neg (by simp [goesOn])]
      refine meets_bind_via (fun _ => start.Swept { entry with state := target } past left) ?_
        fun _ => meets_pure fun world swept => ⟨target, .inr rfl, swept⟩
      apply meets_request
      · exact fun world value after swept served => swept.stated served
      · exact fun _ _ _ _ _ => trivial

end Lifecycle

namespace Turn

/-- The entry is stored like this. -/
def Stores (entry : Entry) (turn : Turn) : Prop :=
  turn.world.store.findEntry? entry.id = some entry

theorem stores_stable {entry : Entry} : Stable (Stores entry) := by
  intro before after hooked stored
  obtain ⟨change, store⟩ := hooked.store
  rw [Stores, store, Store.findEntry?_modifyProperties]
  exact stored

/-- Until the state of an entry is touched, it is stored as it was. -/
theorem stores_carried {entry : Entry} : Carried (fun _ => True) (Stores entry) where
  own _ _ := trivial
  amended _ _ stored _ := stored
  looked turn _ _ _ stored served := stores_stable (hooked_history turn served) stored
  finished _ _ _ _ _ stored served := by
    cases served with
    | refused error => exact stored
    | answered marked store done => exact (Store.findEntry?_markFinished done _).trans stored
    | absent marked lost => cases lost
  moved _ _ _ _ stored served := by
    cases served with
    | refused error => exact stored
    | answered value store done =>
      obtain ⟨_, moves, same⟩ := exists_of_map_eq_ok done
      cases same
      exact (Store.findEntry?_moveToHistory moves _).trans stored
    | absent value lost => cases lost
  created _ _ _ _ stored _ served := by
    cases served with
    | refused error => exact stored
    | answered step store done => exact (Store.findEntry?_createStep done _).trans stored
    | absent step lost => cases lost

end Turn

namespace Toolkit

variable {kit : Toolkit} {start turn after : Turn} {steps : Arrangement} {leaving : Option Step}
  {outcome : Outcome} {action : Action}

/-- Only a join that is declared is opened. -/
theorem join_of_opened {joinId : NodeId} {opened : Option (Outcome × List StepId)}
    (ran : kit.openJoin joinId action outcome leaving turn = (.ok opened, after)) :
    ∃ join, turn.scope.blueprint.join? joinId = some join := by
  unfold openJoin at ran
  obtain ⟨scope, _, seen, finds⟩ := of_andThen_ok ran
  cases seen
  obtain ⟨join, _, found, _⟩ := of_andThen_ok finds
  exact ⟨join, (of_ofOption_ok found).1⟩

/-- A plain outcome of a finishing action only closes the step being left. -/
theorem takePlain_finishes (finishes : action.finish = true)
    (arranged : Turn.Arranged start steps turn) (handles : Handles start.scope.entry.id steps.current)
    (among : ∀ step ∈ leaving, step ∈ steps.current)
    (ran : kit.takePlain action outcome leaving turn = (.ok (), after)) :
    Turn.Arranged start
      (steps.leave (start.closing action.id (kit.statusLeft outcome turn)) leaving) after := by
  unfold takePlain at ran
  rw [if_pos finishes] at ran
  cases leaving with
  | none =>
    cases ran
    rw [steps.leave_none]
    exact arranged
  | some step =>
    obtain ⟨status, _, told, closes⟩ := of_andThen_ok ran
    rw [oldStatus_eq] at told
    cases told
    obtain ⟨closed, _, ends, answers⟩ := of_andThen_ok closes
    cases answers
    exact (arranged.closed handles (among step rfl) ends).2

section Standard

variable (standard : kit.extensions = Builtin.extensions) (finishes : action.finish = true)

include standard finishes

/-- A split of a finishing action only runs its hooks. -/
theorem takeSplit_finishes {splitId : NodeId} (arranged : Turn.Arranged start steps turn)
    (ran : kit.takeSplit splitId action leaving turn = (.ok (), after)) :
    Turn.Arranged start steps after := by
  have hosts : kit.Hosts _ (Turn.Arranged start steps) := arranged_hosted standard
  unfold takeSplit at ran
  obtain ⟨scope, _, seen, finds⟩ := of_andThen_ok ran
  cases seen
  obtain ⟨split, _, found, validates⟩ := of_andThen_ok finds
  obtain ⟨-, rfl⟩ := of_ofOption_ok found
  obtain ⟨_, _, validated, runs⟩ := of_andThen_ok validates
  obtain ⟨_, _, run, follows⟩ := of_andThen_ok runs
  rw [if_neg (by simp [finishes])] at follows
  have before := (hosts.validators _).answer arranged validated
  exact (hosts.functions _).answer ((hosts.functions _).answer before run) follows

/-- What follows on the arrival of a finishing action touches no step. -/
theorem followJoin_finishes {joined : Option (Outcome × List StepId)}
    (arranged : Turn.Arranged start steps turn)
    (ran : kit.followJoin action leaving joined turn = (.ok (), after)) :
    Turn.Arranged start steps after := by
  unfold followJoin at ran
  cases joined with
  | none =>
    cases ran
    exact arranged.showing none
  | some following =>
    dsimp only at ran
    rw [if_neg (by simp [finishes])] at ran
    obtain ⟨_, _, runs, hides⟩ := of_andThen_ok ran
    cases hides
    exact (((arranged_hosted standard).functions _).answer arranged runs).showing none

/-- Wherever the outcome of a finishing action leads, it only takes away from the current steps. -/
theorem takeOutcome_reduces (arranged : Turn.Arranged start steps turn)
    (handles : Handles start.scope.entry.id steps.current)
    (among : ∀ step ∈ leaving, step ∈ steps.current) (shown : steps.shown = steps.current)
    (ran : kit.takeOutcome action outcome leaving turn = (.ok (), after)) :
    ∃ closed retired later,
      steps.Reduces (start.closing action.id (kit.statusLeft outcome turn)) closed retired later ∧
        Turn.Arranged start later after := by
  unfold takeOutcome at ran
  cases target : outcome.target with
  | step id =>
    rw [target] at ran
    exact ⟨_, _, _, .left handles.distinct among,
      takePlain_finishes finishes arranged handles among ran⟩
  | split id =>
    rw [target] at ran
    exact ⟨_, _, _, .here _ _, takeSplit_finishes standard finishes arranged ran⟩
  | join id =>
    rw [target] at ran
    dsimp only at ran
    rw [takeJoin_eq] at ran
    obtain ⟨opened, _, opens, follows⟩ := of_andThen_ok ran
    obtain ⟨join, found⟩ := join_of_opened opens
    rw [arranged.blueprint] at found
    have parted : steps.Reduces (start.closing action.id (kit.statusLeft outcome turn))
        leaving.toList [] _ := .left handles.distinct among
    rcases openJoin_arranged standard arranged handles among shown found opens with
      ⟨-, rfl, waits⟩ | ⟨-, joined, -, rfl, passes⟩
    · exact ⟨_, _, _, parted, followJoin_finishes standard finishes waits follows⟩
    · rw [feeding_eq, shown] at passes
      have distinct : ((others leaving steps.current).map (·.id)).Nodup :=
        handles.distinct.sublist ((List.filter_sublist ..).map _)
      exact ⟨_, _, _, parted.retired distinct _, followJoin_finishes standard finishes passes follows⟩

end Standard

/-- While an outcome is taken the entry stays as it is stored. -/
theorem takeOutcome_stores {entry : Entry} (standard : kit.extensions = Builtin.extensions)
    (stored : turn.Stores entry) (ran : kit.takeOutcome action outcome leaving turn = (.ok (), after)) :
    after.Stores entry := by
  have hosts : kit.Hosts _ (Turn.Stores entry) :=
    hosts_of_modest Turn.stores_stable (standard ▸ Builtin.extensions_modest)
  have carried : Turn.Carried _ (Turn.Stores entry) := Turn.stores_carried
  have takes := takeOutcome_keeps carried.toBears (closeStep_keeps carried) hosts action outcome leaving
  exact takes.answer stored ran

section Ending

variable {begin : World} {entry : Entry} {past left : List Step}

/-- An initial action may activate the entry before that. -/
theorem activate_sweeps {declared : ActionScope} (swept : begin.Swept entry past left turn.world)
    (ran : kit.activate entry.id declared turn = (.ok (), after)) :
    ∃ state, (state = entry.state ∨ state = .activated) ∧
      begin.Swept { entry with state } past left after.world ∧
      after.scope.caller = turn.scope.caller := by
  unfold activate at ran
  obtain ⟨scope, _, seen, acts⟩ := of_andThen_ok ran
  cases seen
  split at acts
  · obtain ⟨_, _, moves, notes⟩ := of_andThen_ok acts
    obtain ⟨world, moved, rfl⟩ := Turn.of_onWorld_ok moves
    cases notes
    obtain ⟨state, known, sweeps⟩ :=
      (Lifecycle.move_ahead_sweeps rfl kit.settings.finishedStatus 0 _).answer swept moved
    exact ⟨state, known, sweeps, rfl⟩
  · cases acts
    exact ⟨entry.state, .inl rfl, swept, rfl⟩

/-- The completion of an entry sweeps whatever is current. -/
theorem finish_sweeps {progress : Progress} (finishes : action.finish = true)
    (swept : begin.Swept entry past left turn.world) (apart : entry.state ≠ .completed)
    (own : ∀ step ∈ left, step.entryId = entry.id)
    (ran : kit.finish entry.id action turn = (.ok progress, after)) :
    progress = .finished ∧ begin.Swept { entry with state := .completed }
      (past ++ left.map
        (Closing.mark ⟨action.id, begin.now, kit.settings.finishedStatus, turn.scope.caller⟩))
      [] after.world := by
  unfold finish at ran
  rw [if_pos finishes] at ran
  obtain ⟨scope, _, seen, completes⟩ := of_andThen_ok ran
  cases seen
  obtain ⟨_, _, moves, notes⟩ := of_andThen_ok completes
  obtain ⟨world, moved, rfl⟩ := Turn.of_onWorld_ok moves
  cases notes
  have ends : EntryState.completed.isTerminal = true := rfl
  exact ⟨rfl, (Lifecycle.move_sweeps ends apart own _ _ _).answer swept moved⟩

end Ending

/-- A finishing action completes its entry, and sweeps what is still current. -/
theorem conclude_finishes {chosen : ScopedAction} {scope : Scope} {entry : Entry} {progress : Progress}
    (standard : kit.extensions = Builtin.extensions) (finishes : chosen.action.finish = true)
    (arranged : Turn.Arranged start steps turn) (stored : turn.Stores entry)
    (unfinished : entry.state ≠ .completed) (own : start.scope.entry.id = entry.id)
    (named : scope.entry.id = entry.id) (handles : Handles entry.id steps.current)
    (ran : kit.conclude chosen scope outcome turn = (.ok progress, after)) :
    progress = .finished ∧ ∃ concluded : Turn, Turn.Arranged start steps concluded ∧
      concluded.world.Swept { entry with state := .completed }
        (steps.history ++
          steps.current.map (start.closing chosen.action.id kit.settings.finishedStatus).mark)
        [] after.world := by
  have hosts : kit.Hosts _ (Turn.Arranged start steps) := arranged_hosted standard
  have hostsEntry : kit.Hosts _ (Turn.Stores entry) :=
    hosts_of_modest Turn.stores_stable (standard ▸ Builtin.extensions_modest)
  unfold conclude at ran
  rw [named] at ran
  obtain ⟨_, _, followed, acts⟩ := of_andThen_ok ran
  obtain ⟨_, concluded, acted, activates⟩ := of_andThen_ok acts
  obtain ⟨_, activated, activates, ends⟩ := of_andThen_ok activates
  have stays := (hosts.functions _).answer ((hosts.functions _).answer arranged followed) acted
  have held := (hostsEntry.functions _).answer ((hostsEntry.functions _).answer stored followed) acted
  have world := stays.world
  rw [own] at world
  have begun : concluded.world.Swept entry steps.history steps.current concluded.world := by
    have here := World.Swept.here held (List.forall₂_same.mpr fun step _ => Step.Remains.refl step)
    rw [world.current, world.history] at here
    exact here
  obtain ⟨state, known, ahead, caller⟩ := activate_sweeps begun activates
  have apart : state ≠ .completed := by
    rcases known with rfl | rfl
    · exact unfinished
    · decide
  obtain ⟨finished, swept⟩ := finish_sweeps finishes ahead apart handles.own ends
  rw [caller, stays.caller, world.now] at swept
  exact ⟨finished, concluded, stays, swept⟩

end Toolkit

namespace Execution

variable {execution : Execution}

/-- An action that finishes its entry, and succeeds, completes it. It opens no step, and leaves
none current: the history goes on by the steps that were current, each of them once. First come
those that the outcome of the action has closed and those that a join has retired, then those that
were still current, closed as the entry ended. -/
theorem finishes_cleanly {happenings : List Happening} {entry : Entry} {last : Turn}
    {progress : Progress} (standard : execution.kit.extensions = Builtin.extensions)
    (reached : execution.turn.world = World.through {} happenings)
    (shown : execution.turn.scope.currentSteps =
      execution.turn.world.store.currentSteps execution.entryId)
    (stored : execution.turn.world.store.findEntry? execution.entryId = some entry)
    (unfinished : entry.state ≠ .completed) (finishes : execution.chosen.action.finish = true)
    (answered : execution.kit.execute execution.chosen execution.turn = (.ok progress, last)) :
    let store := execution.turn.world.store
    let id := execution.entryId
    let closing := execution.turn.closing execution.chosen.action.id
    progress = .finished ∧
      last.world.store.findEntry? id = some { entry with state := .completed } ∧
      last.world.store.stepCount = store.stepCount ∧
      last.world.store.currentSteps id = [] ∧
      (∃ closed retired swept status, (closed ++ retired ++ swept).Perm (store.currentSteps id) ∧
        last.world.store.historySteps id = store.historySteps id ++ closed.map (closing status).mark ++
          retired ++ swept.map (closing execution.kit.settings.finishedStatus).mark) ∧
      ∀ other, other ≠ id → last.world.store.currentSteps other = store.currentSteps other ∧
        last.world.store.historySteps other = store.historySteps other := by
  intro store id closing
  obtain ⟨_, _, booked⟩ := World.through_booked happenings
  rw [← reached] at booked
  have handles : Handles id (store.currentSteps id) := booked.handles id
  have own : execution.entryId = entry.id := (Store.id_of_findEntry? stored).symm
  obtain ⟨⟨leaving, outcome⟩, now, readied, -⟩ :=
    of_andThen_ok ((Toolkit.execute_ready ..).symm.trans answered)
  obtain ⟨taken, takes, concludes⟩ := of_executed readied answered
  -- up to the outcome only hooks run
  obtain ⟨isShown, before⟩ := ready_arranged standard readied
  rw [shown] at isShown
  have storedNow : now.Stores entry := by
    obtain ⟨-, hooked⟩ :=
      (Toolkit.ready_hooked standard execution.chosen execution.turn).answer rfl readied
    exact Turn.stores_stable hooked ((congrArg _ own.symm).trans stored)
  -- the outcome only takes away from the current steps
  obtain ⟨closed, retired, steps, reduces, after⟩ :=
    Toolkit.takeOutcome_reduces standard finishes before handles isShown shown takes
  have storedThen := Toolkit.takeOutcome_stores standard storedNow takes
  -- whatever is still current is swept as the entry ends
  obtain ⟨finished, concluded, ends, swept⟩ := Toolkit.conclude_finishes standard finishes after
    storedThen unfinished own own (own ▸ reduces.handles handles) concludes
  let status := execution.kit.statusLeft outcome now
  refine ⟨finished, ?_, ?_, ?_, ⟨closed, retired, steps.current, status, reduces.parts, ?_⟩, ?_⟩
  · exact (congrArg _ own).trans swept.held
  · exact swept.counted.trans (ends.world.counted.trans reduces.counted)
  · exact (congrArg _ own).trans swept.rested
  · refine (congrArg _ own).trans (swept.history.trans ?_)
    rw [reduces.history]
    rfl
  · intro other apart
    obtain ⟨sameCurrent, sameHistory⟩ := ends.world.elsewhere other apart
    obtain ⟨current, history⟩ := swept.elsewhere other (own ▸ apart)
    exact ⟨current.trans sameCurrent, history.trans sameHistory⟩

end Execution

/-! ### A report that ends an inquiry -/

/-- The inquiry whose actions finish it. -/
def lastInquiry : Blueprint :=
  { inquiry with
    steps := inquiry.steps.map fun step =>
      { step with actions := step.actions.map fun action => { action with finish := true } } }

/-- The arrival of the first step, which ends the inquiry. -/
def reporting : Execution where
  kit := arriving.kit
  chosen := ⟨.step 1, { arriving.chosen.action with finish := true }⟩
  turn := { arriving.turn with scope := { arriving.turn.scope with blueprint := lastInquiry } }

/-- Of the steps with the numbers 2, 3 and 4 the last one arrives, and the one before it is
gathered. The step aside is swept as the entry ends. -/
theorem reporting_finishes :
    (reporting.kit.execute reporting.chosen reporting.turn).1 = .ok .finished ∧
      reporting.after.store.findEntry? reporting.entryId =
        some ⟨1, "inquiry", .completed, ⟨0, 0⟩⟩ ∧
      reporting.after.store.stepCount = 4 ∧
      reporting.after.store.currentSteps reporting.entryId = [] ∧
      (reporting.after.store.historyIds reporting.entryId).Perm [1, 2, 3, 4] := by
  have answered : (reporting.kit.execute reporting.chosen reporting.turn).1 = .ok .finished :=
    ok_of_eval (by decide +kernel)
  have reached : reporting.turn.world = World.through {} inquiryBegun := rfl
  have shown : reporting.turn.scope.currentSteps =
      reporting.turn.world.store.currentSteps reporting.entryId := rfl
  have stored : reporting.turn.world.store.findEntry? reporting.entryId =
      some ⟨1, "inquiry", .activated, ⟨0, 0⟩⟩ := by
    decide +kernel
  have finishes : reporting.chosen.action.finish = true := rfl
  have left : reporting.turn.world.store.historyIds reporting.entryId = [1] := by decide +kernel
  have opened : reporting.turn.world.store.currentIds reporting.entryId = [2, 3, 4] := by
    decide +kernel
  have count : reporting.turn.world.store.stepCount = 4 := by decide +kernel
  obtain ⟨-, completed, counted, rested, ⟨closed, retired, swept, status, parts, history⟩, -⟩ :=
    Execution.finishes_cleanly rfl reached shown stored (by decide) finishes (eq_of_first answered)
  unfold Execution.after Store.historyIds
  refine ⟨answered, completed, counted.trans count, rested, ?_⟩
  have ids := congrArg (List.map (·.id)) history
  have among := parts.map (·.id)
  unfold Store.historyIds at left
  unfold Store.currentIds at opened
  simp only [List.map_append, List.map_map, Function.comp_def, Closing.mark, left, List.append_assoc]
    at ids
  rw [opened, List.map_append, List.map_append, List.append_assoc] at among
  rw [ids]
  exact among.append_left [1]

end Caseflow
