import Caseflow.Proofs.Bookkeeping
import Caseflow.Proofs.Joining
import Caseflow.Proofs.WaitingJoins
/-! Arrangements. What the parts of a transition do to the steps of an entry is told exactly: which
steps are current and which were left, with their records and in which order, which steps the turn
shows, how many the store has numbered, and which closings are noted. Closing, retiring and
entering steps make one arrangement of another. Hooks and moves of the entry leave it as it is, and
so does all of this with the steps of other entries. -/
namespace Caseflow

open Run

/-- The event is a part of leaving a step. -/
def Event.isClosing : Event → Bool
  | .stepFinished _ _ _ _ | .stepMoved _ => true
  | _ => false

/-- What is noted when a step is closed. -/
def Closing.events (closing : Closing) (step : Step) : List Event :=
  [.stepFinished step.id closing.actionId closing.status closing.caller, .stepMoved step.id]

/-- The current steps of an entry, those that it has left, those that a turn shows, how many steps
there are, and what is noted of closings. -/
structure Arrangement where
  current : List Step
  history : List Step
  shown : List Step
  count : Nat
  closings : List Event

namespace Arrangement

variable (steps : Arrangement)

/-- The step being left, if there is one, is closed. -/
def leave (closing : Closing) (leaving : Option Step) : Arrangement :=
  { steps with
    current := Toolkit.others leaving steps.current
    history := steps.history ++ leaving.toList.map closing.mark
    closings := steps.closings ++ leaving.toList.flatMap closing.events }

/-- Some of the current steps are moved to the history as they are. -/
def retire (retired : List Step) : Arrangement :=
  { steps with
    current := steps.current.filter fun step => step.id ∉ retired.map (·.id)
    history := steps.history ++ retired
    closings := steps.closings ++ retired.map (.stepMoved ·.id) }

/-- Steps are created, which the turn shows from then on or not. -/
def enter (shows : Bool) (created : List Step) : Arrangement :=
  { steps with
    current := steps.current ++ created
    shown := steps.shown ++ if shows then created else []
    count := steps.count + created.length }

@[simp] theorem leave_none (closing : Closing) : steps.leave closing none = steps := by
  simp [leave]

@[simp] theorem retire_nil : steps.retire [] = steps := by
  simp [retire]

@[simp] theorem enter_nil (shows : Bool) : steps.enter shows [] = steps := by
  simp [enter]

theorem retire_retire (first rest : List Step) :
    (steps.retire first).retire rest = steps.retire (first ++ rest) := by
  unfold retire
  simp only [List.filter_filter, List.map_append, List.mem_append, not_or, Bool.decide_and,
    List.append_assoc, Bool.and_comm]

theorem enter_enter (shows : Bool) (first rest : List Step) :
    (steps.enter shows first).enter shows rest = steps.enter shows (first ++ rest) := by
  cases shows <;> simp [enter, Nat.add_assoc]

end Arrangement

/-- An option that is answered is there, and nothing has changed. -/
theorem Run.of_ofOption_ok {σ α : Type} {failure : Failure} {found : Option α} {value : α}
    {state after : σ} (ran : ofOption failure found state = (.ok value, after)) :
    found = some value ∧ after = state := by
  cases found with
  | none => cases ran
  | some value =>
    cases ran
    exact ⟨rfl, rfl⟩

/-- An option that fails is not there. -/
theorem Run.of_ofOption_error {σ α : Type} {failure cause : Failure} {found : Option α}
    {state after : σ} (failed : ofOption failure found state = (.error cause, after)) :
    found = none ∧ cause = failure := by
  cases found with
  | none =>
    cases failed
    exact ⟨rfl, rfl⟩
  | some value => cases failed

/-- A pair is told by its first part, and its second as it is. -/
theorem eq_of_first {α β : Type} {pair : α × β} {first : α} (same : pair.1 = first) :
    pair = (first, pair.2) := by
  rw [← same]

/-! ### Requests -/

/-- What a request answers, it was served. -/
theorem World.served_of_request {request : StoreRequest} {world after : World}
    {value : request.Answer} (ran : Run.request request world = (.ok value, after)) :
    World.Served world request (.ok value) after := by
  have served := world.ask_served request
  unfold Run.request at ran
  split at ran
  · rename_i answer reached asked
    cases ran
    rw [asked] at served
    exact served
  · cases ran

/-- A closing leaves the number of a step, so that it is found again. -/
theorem Toolkit.find?_marked {steps : List Step} {step : Step} (closing : Closing)
    (found : steps.find? (·.id = step.id) = some step) :
    (steps.map fun held => if held.id = step.id then closing.mark held else held).find?
      (·.id = step.id) = some (closing.mark step) := by
  have sameId : (fun other : Step => decide (other.id = step.id)) ∘
      (fun held => if held.id = step.id then closing.mark held else held) =
        fun other => decide (other.id = step.id) := by
    funext other
    by_cases here : other.id = step.id <;> simp [here, Closing.mark]
  rw [List.find?_map, sameId, found, Option.map_some, if_pos rfl]

/-- Among steps with numbers of their own, moving one away leaves the others. -/
theorem Toolkit.erase_own {steps : List Step} (distinct : (steps.map (·.id)).Nodup) (step : Step) :
    steps.eraseP (·.id = step.id) = steps.filter fun other => other.id ∉ [step.id] := by
  induction steps with
  | nil => rfl
  | cons first rest ih =>
    obtain ⟨apart, distinct⟩ := List.nodup_cons.mp distinct
    by_cases here : first.id = step.id
    · have kept : rest.filter (fun other => other.id ∉ [step.id]) = rest := by
        apply List.filter_eq_self.mpr
        intro other member
        have elsewhere : other.id ≠ step.id := fun same =>
          apart (List.mem_map.mpr ⟨other, member, same.trans here.symm⟩)
        simpa using elsewhere
      rw [List.eraseP_cons_of_pos (by simpa using here),
        List.filter_cons_of_neg (by simpa using here), kept]
    · rw [List.eraseP_cons_of_neg (by simpa using here), ih distinct,
        List.filter_cons_of_pos (by simpa using here)]

namespace World

/-- Since `start` the steps of an entry have come to be arranged like this, apart from what turns
show. Time stands still, and the steps of all other entries are as they were. -/
structure Arranged (start : World) (id : EntryId) (steps : Arrangement) (world : World) : Prop where
  now : world.now = start.now
  current : world.store.currentSteps id = steps.current
  history : world.store.historySteps id = steps.history
  counted : world.store.stepCount = steps.count
  noted : world.journal.filter Event.isClosing = steps.closings
  elsewhere : ∀ other, other ≠ id →
    world.store.currentSteps other = start.store.currentSteps other ∧
      world.store.historySteps other = start.store.historySteps other

variable {start world after : World} {id : EntryId} {steps : Arrangement}

namespace Arranged

variable (arranged : Arranged start id steps world)

include arranged

/-- Events that are no part of a closing may be noted. -/
theorem note {events : List Event} (others : ∀ event ∈ events, event.isClosing = false) :
    Arranged start id steps (world.note events) := by
  refine { arranged with noted := ?_ }
  show (world.journal ++ events).filter Event.isClosing = _
  rw [List.filter_append, arranged.noted, List.filter_eq_nil_iff.mpr, List.append_nil]
  exact fun event member => by simp [others event member]

/-- A closing is noted on the current step that is found under a number, which stays current. -/
theorem finished {step held marked : Step} {closing : Closing} (own : step.entryId = id)
    (found : steps.current.find? (·.id = step.id) = some held)
    (served : Served world (.markFinished step closing) (.ok marked) after) :
    marked = closing.mark held ∧ Arranged start id
      { steps with
        current := steps.current.map fun held =>
          if held.id = step.id then closing.mark held else held
        closings := steps.closings ++
          [.stepFinished step.id closing.actionId closing.status closing.caller] } after := by
  cases served with
  | answered marked store done =>
    obtain ⟨left, isLeft, isMarked, changed⟩ := Store.markFinished_eq done
    have same : left = held := by
      rw [Store.currentStep?, own, arranged.current, found] at isLeft
      exact (Option.some.inj isLeft).symm
    subst same
    have named : left.id = step.id := by simpa using List.find?_some found
    refine ⟨isMarked, arranged.now, ?_, ?_, ?_, ?_, fun other elsewhere => ⟨?_, ?_⟩⟩
    · refine (Store.currentSteps_markFinished done id).trans ?_
      rw [if_pos own.symm, arranged.current]
    · exact (Store.historySteps_markFinished done id).trans arranged.history
    · rw [changed]
      exact arranged.counted
    · show (world.journal ++ [Event.stepFinished marked.id marked.actionId marked.status
        marked.caller]).filter Event.isClosing = _
      rw [List.filter_append, arranged.noted, isMarked, ← named]
      rfl
    · refine (Store.currentSteps_markFinished done other).trans ?_
      rw [if_neg (own ▸ elsewhere)]
      exact (arranged.elsewhere other elsewhere).1
    · exact (Store.historySteps_markFinished done other).trans (arranged.elsewhere other elsewhere).2
  | absent value lost => cases lost

/-- The current step that is found under a number is moved to the history. -/
theorem moved {step held : Step} {value : Unit} (own : step.entryId = id)
    (found : steps.current.find? (·.id = step.id) = some held)
    (served : Served world (.moveToHistory step) (.ok value) after) :
    Arranged start id
      { steps with
        current := steps.current.eraseP (·.id = step.id)
        history := steps.history ++ [held]
        closings := steps.closings ++ [.stepMoved step.id] } after := by
  cases served with
  | answered value store done =>
    obtain ⟨_, moves, same⟩ := exists_of_map_eq_ok done
    cases same
    obtain ⟨left, isLeft, history⟩ := Store.historySteps_moveToHistory moves
    obtain ⟨_, -, changed⟩ := Store.moveToHistory_eq moves
    have same : left = held := by
      rw [Store.currentStep?, own, arranged.current, found] at isLeft
      exact (Option.some.inj isLeft).symm
    refine ⟨arranged.now, ?_, ?_, ?_, ?_, fun other elsewhere => ⟨?_, ?_⟩⟩
    · refine (Store.currentSteps_moveToHistory moves id).trans ?_
      rw [if_pos own.symm, arranged.current]
    · refine (history id).trans ?_
      rw [if_pos own.symm, arranged.history, same]
    · rw [changed]
      exact arranged.counted
    · show (world.journal ++ [Event.stepMoved step.id]).filter Event.isClosing = _
      rw [List.filter_append, arranged.noted]
      rfl
    · refine (Store.currentSteps_moveToHistory moves other).trans ?_
      rw [if_neg (own ▸ elsewhere)]
      exact (arranged.elsewhere other elsewhere).1
    · refine (history other).trans ?_
      rw [if_neg (own ▸ elsewhere)]
      exact (arranged.elsewhere other elsewhere).2
  | absent value lost => cases lost

/-- A step is created under the next number, behind the current ones. -/
theorem created {new : NewStep} {step : Step} (own : new.entryId = id)
    (served : Served world (.createStep new) (.ok step) after) :
    step = new.toStep (steps.count + 1) ∧
      Arranged start id
        { steps with current := steps.current ++ [step], count := steps.count + 1 } after := by
  cases served with
  | answered step store done =>
    obtain ⟨-, isNew, changed⟩ := Store.createStep_eq done
    refine ⟨arranged.counted ▸ isNew, arranged.now, ?_, ?_, ?_, ?_, fun other elsewhere => ⟨?_, ?_⟩⟩
    · refine (Store.currentSteps_createStep done id).trans ?_
      rw [if_pos own.symm, arranged.current]
    · exact (Store.historySteps_createStep done id).trans arranged.history
    · rw [changed]
      exact congrArg (· + 1) arranged.counted
    · show (world.journal ++ [Event.stepCreated step.id step.defId]).filter Event.isClosing = _
      rw [List.filter_append, arranged.noted]
      exact List.append_nil _
    · refine (Store.currentSteps_createStep done other).trans ?_
      rw [if_neg (own ▸ elsewhere)]
      exact (arranged.elsewhere other elsewhere).1
    · exact (Store.historySteps_createStep done other).trans (arranged.elsewhere other elsewhere).2
  | absent value lost => cases lost

/-- The state of an entry has nothing to do with its steps. -/
theorem stated {entry : EntryId} {state : EntryState} {value : Unit}
    (served : Served world (.setEntryState entry state) (.ok value) after) :
    Arranged start id steps after := by
  cases served with
  | answered value store done =>
    obtain ⟨_, set, same⟩ := exists_of_map_eq_ok done
    cases same
    obtain ⟨-, changed⟩ := Store.setEntryState_eq set
    have noted : Arranged start id steps (world.note [.entryStateSet entry state]) :=
      arranged.note (by simp [Event.isClosing])
    refine ⟨arranged.now, ?_, ?_, ?_, noted.noted, fun other elsewhere => ⟨?_, ?_⟩⟩
    · exact (Store.currentSteps_setEntryState set id).trans arranged.current
    · exact (Store.historySteps_setEntryState set id).trans arranged.history
    · rw [changed]
      exact arranged.counted
    · exact (Store.currentSteps_setEntryState set other).trans (arranged.elsewhere other elsewhere).1
    · exact (Store.historySteps_setEntryState set other).trans (arranged.elsewhere other elsewhere).2
  | absent value lost => cases lost

/-- An entry is looked up. -/
theorem lookedUp {entry : EntryId} {found : Option Entry}
    (served : Served world (.findEntry entry) (.ok found) after) : Arranged start id steps after := by
  obtain ⟨store, journal, -⟩ := findEntry_served served
  refine ⟨(now_of_served served).trans arranged.now, ?_, ?_, ?_, ?_, ?_⟩
  · exact store ▸ arranged.current
  · exact store ▸ arranged.history
  · exact store ▸ arranged.counted
  · exact journal ▸ arranged.noted
  · exact store ▸ arranged.elsewhere

/-- An entry that is moved to a state which is no end keeps its steps. -/
theorem changed {finishedStatus : String} {entryId : EntryId} {target : EntryState}
    {caller : Option String} {value : Bool} (goesOn : target.isTerminal = false)
    (ran : Lifecycle.changeState finishedStatus entryId target caller world = (.ok value, after)) :
    Arranged start id steps after := by
  unfold Lifecycle.changeState Lifecycle.move at ran
  obtain ⟨entry, middle, found, ran⟩ := of_andThen_ok ran
  obtain ⟨stored, looked, asked, isStored⟩ := of_andThen_ok found
  have arranged := arranged.lookedUp (served_of_request asked)
  have same : looked = middle := by
    cases stored with
    | none => cases isStored
    | some stored => exact congrArg Prod.snd isStored
  rw [same] at arranged
  split at ran
  · cases ran
    exact arranged
  · split at ran
    · cases ran
    · rw [if_neg (by simp [goesOn])] at ran
      obtain ⟨_, _, set, ended⟩ := of_andThen_ok ran
      cases ended
      exact arranged.stated (served_of_request set)

end Arranged

end World

/-! ### Turns -/

namespace Turn

/-- Since the turn `start` the steps of its entry have come to be arranged like this. It is still
for the same caller and about the same entry and workflow. -/
structure Arranged (start : Turn) (steps : Arrangement) (turn : Turn) : Prop where
  own : turn.scope.entry.id = start.scope.entry.id
  caller : turn.scope.caller = start.scope.caller
  blueprint : turn.scope.blueprint = start.scope.blueprint
  shown : turn.scope.currentSteps = steps.shown
  world : World.Arranged start.world start.scope.entry.id steps turn.world

variable {start turn after : Turn} {steps : Arrangement} {α : Type} {value : α}

/-- How the steps of the entry of a turn are arranged. -/
def arrangement (turn : Turn) : Arrangement where
  current := turn.world.store.currentSteps turn.scope.entry.id
  history := turn.world.store.historySteps turn.scope.entry.id
  shown := turn.scope.currentSteps
  count := turn.world.store.stepCount
  closings := turn.world.journal.filter Event.isClosing

/-- How a step is closed in a turn. -/
def closing (turn : Turn) (actionId : ActionId) (status : String) : Closing :=
  ⟨actionId, turn.world.now, status, turn.scope.caller⟩

theorem arranged_refl (turn : Turn) : Arranged turn turn.arrangement turn :=
  ⟨rfl, rfl, rfl, rfl, rfl, rfl, rfl, rfl, rfl, fun _ _ => ⟨rfl, rfl⟩⟩

/-- No hook touches a step. -/
theorem arranged_stable : Stable (Arranged start steps) := by
  intro before after hooked arranged
  obtain ⟨bindings, scope⟩ := hooked.scope
  obtain ⟨change, store⟩ := hooked.store
  obtain ⟨calls, noted, areCalls⟩ := hooked.journal
  have others : ∀ event ∈ calls, event.isClosing = false := by
    intro event member
    have isCall := areCalls event member
    cases event <;> first | rfl | cases isCall
  have world : World.Arranged start.world start.scope.entry.id steps after.world := by
    refine ⟨hooked.now.trans arranged.world.now, ?_, ?_, ?_, ?_, ?_⟩
    · simpa [store] using arranged.world.current
    · simpa [store] using arranged.world.history
    · simpa [store] using arranged.world.counted
    · rw [noted]
      exact (arranged.world.note others).noted
    · simpa [store] using arranged.world.elsewhere
  constructor
  · exact scope ▸ arranged.own
  · exact scope ▸ arranged.caller
  · exact scope ▸ arranged.blueprint
  · exact scope ▸ arranged.shown
  · exact world

/-- The beginning of an action is noted. -/
theorem arranged_begun (turn : Turn) (chosen : ScopedAction) :
    Arranged turn turn.arrangement (turn.begun chosen) where
  own := rfl
  caller := rfl
  blueprint := rfl
  shown := rfl
  world := (arranged_refl turn).world.note (by simp [Event.isClosing])

/-- What runs on the world of a turn leaves the rest of the turn as it is. -/
theorem of_onWorld_ok {computation : Run World α} (ran : onWorld computation turn = (.ok value, after)) :
    ∃ world, computation turn.world = (.ok value, world) ∧ after = { turn with world } := by
  unfold onWorld within at ran
  cases reached : computation turn.world with
  | mk result world =>
    rw [reached] at ran
    cases ran
    exact ⟨world, rfl, rfl⟩

namespace Arranged

variable (arranged : Arranged start steps turn)

include arranged

theorem onWorld {later : Arrangement} {world : World} (shown : later.shown = steps.shown)
    (holds : World.Arranged start.world start.scope.entry.id later world) :
    Arranged start later { turn with world } :=
  ⟨arranged.own, arranged.caller, arranged.blueprint, arranged.shown.trans shown.symm, holds⟩

/-- A step that is closed goes to the history with the closing noted on it. -/
theorem closed {step closed : Step} {actionId : ActionId} {status : String}
    (handles : Handles start.scope.entry.id steps.current) (current : step ∈ steps.current)
    (ran : Toolkit.closeStep step actionId status turn = (.ok closed, after)) :
    closed = (start.closing actionId status).mark step ∧
      Arranged start (steps.leave (start.closing actionId status) step) after := by
  have own : step.entryId = start.scope.entry.id := handles.own step current
  have isFound : steps.current.find? (·.id = step.id) = some step :=
    find?_of_mem handles.distinct current
  obtain ⟨held, _, marks, ran⟩ := of_andThen_ok ran
  obtain ⟨between, finished, rfl⟩ := of_onWorld_ok marks
  obtain ⟨_, _, moves, ran⟩ := of_andThen_ok ran
  obtain ⟨last, moved, rfl⟩ := of_onWorld_ok moves
  cases ran
  have served := World.served_of_request finished
  rw [arranged.world.now, arranged.caller] at served
  obtain ⟨isMarked, marked⟩ := arranged.world.finished own isFound served
  have left := marked.moved own (Toolkit.find?_marked _ isFound) (World.served_of_request moved)
  dsimp only at left
  rw [Toolkit.erase_marked handles.distinct, List.append_assoc] at left
  exact ⟨isMarked, arranged.onWorld rfl left⟩

/-- Steps that are retired go to the history in turn. -/
theorem retired {retired : List Step} (handles : Handles start.scope.entry.id steps.current)
    (distinct : (retired.map (·.id)).Nodup) (current : ∀ step ∈ retired, step ∈ steps.current)
    (ran : Toolkit.retire retired turn = (.ok (), after)) :
    Arranged start (steps.retire retired) after := by
  induction retired generalizing steps turn with
  | nil =>
    cases ran
    rw [steps.retire_nil]
    exact arranged
  | cons first rest ih =>
    obtain ⟨apart, distinct⟩ := List.nodup_cons.mp distinct
    have isCurrent : first ∈ steps.current := current first (List.mem_cons_self ..)
    obtain ⟨_, _, moves, ran⟩ := of_andThen_ok ran
    obtain ⟨between, moved, rfl⟩ := of_onWorld_ok moves
    have left := arranged.world.moved (handles.own first isCurrent)
      (find?_of_mem handles.distinct isCurrent) (World.served_of_request moved)
    rw [Toolkit.erase_own handles.distinct] at left
    have stays : Arranged start (steps.retire [first]) { turn with world := between } :=
      arranged.onWorld rfl left
    have others : (steps.retire [first]).current.Sublist steps.current := List.filter_sublist ..
    have later := ih stays (handles.sublist others) distinct (fun step member => ?_) ran
    · rw [Arrangement.retire_retire] at later
      exact later
    · have elsewhere : step.id ≠ first.id := fun same =>
        apart (List.mem_map.mpr ⟨step, member, same⟩)
      apply List.mem_filter.mpr
      exact ⟨current step (List.mem_cons_of_mem _ member), by simpa using elsewhere⟩

/-- Looking at the history tells it, and touches no step. -/
theorem recalled {history : List Step}
    (ran : Turn.onWorld (World.historySteps start.scope.entry.id) turn = (.ok history, after)) :
    history = steps.history ∧ Arranged start steps after := by
  obtain ⟨world, asked, rfl⟩ := of_onWorld_ok ran
  have served := World.served_of_request asked
  have stays := arranged_stable (hooked_history turn served) arranged
  obtain ⟨-, -, ⟨_, refused⟩ | answered⟩ := World.historySteps_served served
  · cases refused
  · rw [arranged.world.history] at answered
    exact ⟨Except.ok.inj answered, stays⟩

/-- The entry is activated, where the action is an initial one; its steps stay. -/
theorem activated {kit : Toolkit} {entryId : EntryId} {declared : ActionScope}
    (ran : kit.activate entryId declared turn = (.ok (), after)) : Arranged start steps after := by
  unfold Toolkit.activate at ran
  obtain ⟨scope, _, seen, ran⟩ := of_andThen_ok ran
  cases seen
  split at ran
  · obtain ⟨_, _, changes, ran⟩ := of_andThen_ok ran
    obtain ⟨world, changed, rfl⟩ := of_onWorld_ok changes
    cases ran
    have stays := arranged.onWorld rfl (arranged.world.changed rfl changed)
    exact ⟨stays.own, stays.caller, stays.blueprint, stays.shown, stays.world⟩
  · cases ran
    exact arranged

end Arranged

end Turn

/-! ### Steps that are entered -/

/-- The step definition that an outcome leads to: the one it names, or that of the step being left
where it says to stay. -/
def Outcome.leadsTo? (outcome : Outcome) (leaving : Option Step) : Option StepDefId :=
  match outcome.target with
  | .step id => if id = Target.sameStep then leaving.map (·.defId) else some id
  | .split _ | .join _ => none

/-- An open step of the entry, under the definition that the outcome leads to and behind other
steps. -/
structure Step.EnteredFor (step : Step) (entry : EntryId) (outcome : Outcome) (leaving : Option Step)
    (previous : List StepId) : Prop where
  own : step.entryId = entry
  leads : outcome.leadsTo? leaving = some step.defId
  action : step.actionId = 0
  caller : step.caller = none
  unfinished : step.finishDate = none
  follows : step.previous = previous

namespace Toolkit

variable {kit : Toolkit} {start turn after : Turn} {steps : Arrangement} {leaving : Option Step}
  {outcome : Outcome} {actionId : ActionId}

/-- The status that a step left by the outcome gets in a turn: the old status that the outcome
tells, or the finished status where that is empty. -/
def statusLeft (kit : Toolkit) (outcome : Outcome) (turn : Turn) : String :=
  let status := Interpolation.rendered (kit.resolver turn.scope turn.properties outcome.oldStatus)
  if status.isEmpty then kit.settings.finishedStatus else status

theorem oldStatus_eq (kit : Toolkit) (outcome : Outcome) (turn : Turn) :
    kit.oldStatus outcome turn = (.ok (kit.statusLeft outcome turn), turn) := rfl

theorem leadsTo_of_entered {defId : StepDefId}
    (ran : enteredStep actionId leaving outcome.target turn = (.ok defId, after)) :
    outcome.leadsTo? leaving = some defId ∧ after = turn := by
  unfold Outcome.leadsTo?
  unfold enteredStep at ran
  cases target : outcome.target with
  | step id =>
    rw [target] at ran
    dsimp only at ran ⊢
    split at ran
    · rename_i stays
      rw [if_pos stays]
      cases leaving with
      | none => cases ran
      | some step =>
        cases ran
        exact ⟨rfl, rfl⟩
    · rename_i goes
      cases ran
      exact ⟨if_neg goes, rfl⟩
  | split id | join id =>
    rw [target] at ran
    cases ran

section Standard

variable (standard : kit.extensions = Builtin.extensions)

include standard

theorem arranged_hosted :
    kit.Hosts (fun failure => ∃ kind, Builtin.Refusal kind failure) (Turn.Arranged start steps) :=
  hosts_of_modest Turn.arranged_stable (standard ▸ Builtin.extensions_modest)

/-- A step is created behind the current ones, and the functions of its definition run. -/
private theorem created_arranged (arranged : Turn.Arranged start steps turn) {planned : NewStep}
    (own : planned.entryId = start.scope.entry.id) (shows : Bool) (calls : List Call)
    (ran : (do
      let created ← Turn.onWorld (World.createStep planned)
      Turn.amendScope fun scope =>
        { scope with
          createdStep := some created
          currentSteps := if shows then scope.currentSteps ++ [created] else scope.currentSteps }
      kit.runFunctions calls) turn = (.ok (), after)) :
    Turn.Arranged start (steps.enter shows [planned.toStep (steps.count + 1)]) after := by
  obtain ⟨created, _, creates, ran⟩ := of_andThen_ok ran
  obtain ⟨world, asked, rfl⟩ := Turn.of_onWorld_ok creates
  obtain ⟨rfl, holds⟩ := arranged.world.created own (World.served_of_request asked)
  obtain ⟨_, _, amended, ran⟩ := of_andThen_ok ran
  cases amended
  refine Meets.answer ((arranged_hosted standard).functions calls) ?_ ran
  refine ⟨arranged.own, arranged.caller, arranged.blueprint, ?_, holds.now, holds.current,
    holds.history, holds.counted, holds.noted, holds.elsewhere⟩
  cases shows <;> simp [Arrangement.enter, arranged.shown]

/-- Where the outcome leads a step is created, after the step being left was closed where that is
asked for. -/
theorem enterStep_arranged (arranged : Turn.Arranged start steps turn) {closing : Bool}
    {previous : List StepId}
    (handles : closing = true → Handles start.scope.entry.id steps.current)
    (among : closing = true → ∀ step ∈ leaving, step ∈ steps.current)
    (ran : kit.enterStep outcome actionId leaving closing previous turn = (.ok (), after)) :
    ∃ created, Step.EnteredFor created start.scope.entry.id outcome leaving previous ∧
      created.id = steps.count + 1 ∧
      Turn.Arranged start
        ((if closing then
            steps.leave (start.closing actionId (kit.statusLeft outcome turn)) leaving
          else steps).enter leaving.isNone [created]) after := by
  unfold enterStep at ran
  obtain ⟨defId, _, entered, plans⟩ := of_andThen_ok ran
  obtain ⟨leads, rfl⟩ := leadsTo_of_entered entered
  obtain ⟨_, _, seen, looks⟩ := of_andThen_ok plans
  cases seen
  obtain ⟨definition, _, found, goes⟩ := of_andThen_ok looks
  obtain ⟨-, rfl⟩ := of_ofOption_ok found
  have enters (number : StepId) :
      Step.EnteredFor ((kit.plannedStep outcome defId previous _).toStep number)
        start.scope.entry.id outcome leaving previous :=
    ⟨arranged.own, leads, rfl, rfl, rfl, rfl⟩
  refine ⟨_, enters (steps.count + 1), rfl, ?_⟩
  dsimp only at goes
  split at goes
  · rename_i closes
    rw [if_pos closes]
    cases leaving with
    | none =>
      rw [steps.leave_none]
      exact created_arranged standard arranged arranged.own true _ goes
    | some step =>
      obtain ⟨status, _, told, closing⟩ := of_andThen_ok goes
      rw [oldStatus_eq] at told
      cases told
      obtain ⟨closed, _, ends, opens⟩ := of_andThen_ok closing
      obtain ⟨-, left⟩ := arranged.closed (handles closes) (among closes step rfl) ends
      exact created_arranged standard left arranged.own false _ opens
  · rename_i stays
    rw [if_neg stays]
    exact created_arranged standard arranged arranged.own leaving.isNone _ goes

/-- What follows on the outcome of an action that does not finish the entry touches no step. -/
theorem conclude_arranged (arranged : Turn.Arranged start steps turn) {chosen : ScopedAction}
    (goesOn : chosen.action.finish = false) {scope : Scope} {progress : Progress}
    (ran : kit.conclude chosen scope outcome turn = (.ok progress, after)) :
    progress = .continued ∧ Turn.Arranged start steps after := by
  have hosts : kit.Hosts _ (Turn.Arranged start steps) := arranged_hosted standard
  unfold conclude at ran
  obtain ⟨_, _, followed, acts⟩ := of_andThen_ok ran
  obtain ⟨_, _, acted, activates⟩ := of_andThen_ok acts
  obtain ⟨_, _, activated, finishes⟩ := of_andThen_ok activates
  have stays := (hosts.functions _).answer ((hosts.functions _).answer arranged followed) acted
  unfold finish at finishes
  rw [if_neg (by simp [goesOn])] at finishes
  cases finishes
  exact ⟨rfl, Turn.Arranged.activated stays activated⟩

end Standard

end Toolkit

namespace Execution

variable {execution : Execution} {leaving : Option Step} {outcome : Outcome} {now last : Turn}
  {progress : Progress}

/-- Up to the outcome no step has been touched, and the step being left is one of those shown. -/
theorem ready_arranged (standard : execution.kit.extensions = Builtin.extensions)
    (readied : execution.kit.ready execution.chosen execution.turn.scope
      (execution.turn.begun execution.chosen) = (.ok (leaving, outcome), now)) :
    (∀ step ∈ leaving, step ∈ execution.turn.scope.currentSteps) ∧
      execution.turn.Arranged execution.turn.arrangement now := by
  obtain ⟨isShown, hooked⟩ :=
    (Toolkit.ready_hooked standard execution.chosen execution.turn).answer rfl readied
  exact ⟨isShown, Turn.arranged_stable hooked (Turn.arranged_begun execution.turn execution.chosen)⟩

/-- An action that is executed has taken its outcome, and has concluded. -/
theorem of_executed
    (readied : execution.kit.ready execution.chosen execution.turn.scope
      (execution.turn.begun execution.chosen) = (.ok (leaving, outcome), now))
    (answered : execution.kit.execute execution.chosen execution.turn = (.ok progress, last)) :
    ∃ taken, execution.kit.takeOutcome execution.chosen.action outcome leaving now = (.ok (), taken) ∧
      execution.kit.conclude execution.chosen execution.turn.scope outcome taken =
        (.ok progress, last) := by
  rw [Toolkit.execute_ready, bind_eq, andThen_ok readied] at answered
  obtain ⟨_, taken, takes, concludes⟩ := of_andThen_ok answered
  exact ⟨taken, takes, concludes⟩

end Execution

/-- The books of a store that came to be by its own operations are right. -/
theorem World.through_booked (happenings : List Happening) :
    ∃ entries steps, (World.through {} happenings).store.Booked entries steps := by
  have new : (World.store {}).Booked 0 0 := .new
  exact ⟨_, _, World.booked_through new happenings⟩

/-- The current steps in right books can be worked on. -/
theorem Store.Booked.handles {store : Store} {entries steps : Nat}
    (booked : store.Booked entries steps) (id : EntryId) : Handles id (store.currentSteps id) where
  own step member := booked.filed id step (List.mem_append_left _ member)
  distinct := by
    have distinct := booked.distinct id
    rw [Store.steps, List.map_append] at distinct
    exact (List.nodup_append.mp distinct).1

end Caseflow
