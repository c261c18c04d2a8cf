import Caseflow.Proofs.Lifecycle
/-! The execution of an action from beginning to end. As long as its hooks run, the entry stays as
it was; then an initial action activates it, and a finishing action completes it. Wherever a
failure stops the execution, the entry is stored in one of the states on that way. -/
namespace Caseflow

open Run

/-- The turn works on an entry that is stored as its scope shows it. -/
structure Turn.WorksOn (entry : Entry) (around : Surroundings) (turn : Turn) : Prop where
  shown : turn.scope.entry = entry
  holds : turn.world.Holds entry around

/-- The entry once an action declared there has been carried out, unless the action finishes it. -/
def Entry.startedBy (entry : Entry) (declared : ActionScope) : Entry :=
  if declared = .initial then { entry with state := .activated } else entry

/-- The entry as an executed action declared there leaves it. -/
def Entry.leftBy (entry : Entry) (declared : ActionScope) : Progress → Entry
  | .continued => entry.startedBy declared
  | .finished => { entry.startedBy declared with state := .completed }

/-- The state that an executed action leaves its entry in. -/
def Progress.state : Progress → EntryState
  | .continued => .activated
  | .finished => .completed

@[simp] theorem Entry.id_startedBy (entry : Entry) (declared : ActionScope) :
    (entry.startedBy declared).id = entry.id := by
  unfold startedBy
  split <;> rfl

@[simp] theorem Entry.id_leftBy (entry : Entry) (declared : ActionScope) (progress : Progress) :
    (entry.leftBy declared progress).id = entry.id := by
  cases progress <;> exact entry.id_startedBy declared

@[simp] theorem Entry.workflow_leftBy (entry : Entry) (declared : ActionScope)
    (progress : Progress) : (entry.leftBy declared progress).workflow = entry.workflow := by
  cases progress <;> (simp only [leftBy, startedBy]; split <;> rfl)

theorem Entry.startedBy_later (entry : Entry) {declared : ActionScope}
    (later : declared ≠ .initial) : entry.startedBy declared = entry :=
  if_neg later

/-- An initial action activates the entry; other actions are executed on an active one. -/
theorem Entry.state_leftBy (entry : Entry) {declared : ActionScope}
    (active : declared = .initial ∨ entry.state = .activated) (progress : Progress) :
    (entry.leftBy declared progress).state = progress.state := by
  cases progress with
  | finished => rfl
  | continued =>
    by_cases initial : declared = .initial
    · simp [leftBy, startedBy, initial, Progress.state]
    · have already : entry.state = .activated := active.resolve_left initial
      simp [leftBy, startedBy, initial, already, Progress.state]

variable {around : Surroundings} {entry : Entry} {kit : Toolkit}
  {refused : Failure → Prop}

namespace Turn

/-- The hooks leave the entry as it is stored. -/
theorem worksOn_stable : Stable (WorksOn entry around) := by
  intro before after step works
  obtain ⟨bindings, scope⟩ := step.scope
  obtain ⟨change, store⟩ := step.store
  obtain ⟨calls, journal, areCalls⟩ := step.journal
  refine ⟨by rw [scope]; exact works.shown, ⟨⟨?_, ?_, ?_⟩, ?_⟩⟩
  · rw [store, journal]
    exact (works.holds.orderly.modifyProperties _ _).note (World.silent_calls areCalls)
  · exact step.verdict.trans works.holds.verdict
  · rw [journal]
    exact works.holds.grown.trans (List.prefix_append _ _)
  · rw [store, Store.findEntry?_modifyProperties]
    exact works.holds.held

/-- An entry that is not at its end stays as it is stored while an action is executed on it. -/
theorem worksOn_carried (live : entry.state.isTerminal = false) :
    Carried (· = entry.id) (WorksOn entry around) where
  own _ works := by rw [works.shown]
  amended _ _ works same := ⟨same.trans works.shown, works.holds⟩
  looked turn _ _ _ works served := worksOn_stable (hooked_history turn served) works
  finished _ _ _ _ _ works served := ⟨works.shown, works.holds.finished served⟩
  moved _ _ _ _ works served := ⟨works.shown, works.holds.moved served⟩
  created _ _ _ _ works own served := ⟨works.shown, works.holds.created live own served⟩

end Turn

namespace Toolkit

/-- How far an action got on an entry when a failure stopped it. -/
inductive Stopped (refused : Failure → Prop) (around : Surroundings) (entry : Entry)
    (declared : ActionScope) (failure : Failure) (world : World) : Prop where
  | underway (holds : world.Holds entry around) (cause : Refusal refused failure)
  | activating (initial : declared = .initial) (holds : world.Holds entry around)
      (cause : Lifecycle.Refusal around entry .activated failure)
  | completing (holds : world.Holds (entry.startedBy declared) around)
      (cause : Lifecycle.Refusal around (entry.startedBy declared) .completed failure)

/-- A move of the entry at hand, and the note of it in the scope. -/
private theorem moveHere_meets {target : EntryState} {move : Run World Bool}
    {failed : Failure → Turn → Prop}
    (moves : Meets (World.Holds entry around) move
      (fun _ => World.Holds { entry with state := target } around)
      (fun failure world => world.Holds entry around ∧
        Lifecycle.Refusal around entry target failure))
    (failures : ∀ failure turn, turn.world.Holds entry around →
      Lifecycle.Refusal around entry target failure → failed failure turn) :
    Meets (Turn.WorksOn entry around)
      (do
        let _ ← Turn.onWorld move
        Turn.amendScope fun scope => { scope with entry := { scope.entry with state := target } })
      (fun _ => Turn.WorksOn { entry with state := target } around) failed := by
  refine meets_bind_via (fun _ turn => turn.scope.entry = entry ∧
    turn.world.Holds { entry with state := target } around) ?_ fun _ => ?_
  · refine meets_within fun turn works => ?_
    refine meets_mono moves (fun world same => same ▸ works.holds) ?_ ?_
    · exact fun _ world moved => ⟨works.shown, moved⟩
    · exact fun failure world ends => failures failure _ ends.1 ends.2
  · refine meets_change fun turn ends => ⟨?_, ends.2⟩
    show { turn.scope.entry with state := target } = _
    rw [ends.1]

theorem activate_meets (declared : ActionScope) :
    Meets (Turn.WorksOn entry around) (kit.activate entry.id declared)
      (fun _ => Turn.WorksOn (entry.startedBy declared) around)
      (fun failure turn => Stopped refused around entry declared failure turn.world) := by
  unfold activate
  refine meets_scopeNow_bind fun turn works => ?_
  rw [works.shown]
  split
  · rename_i needed
    have started : entry.startedBy declared = { entry with state := .activated } :=
      if_pos needed.1
    rw [started]
    exact moveHere_meets (Lifecycle.move_meets _ .activated 0 _)
      fun failure turn holds cause => .activating needed.1 holds cause
  · rename_i needless
    have started : entry.startedBy declared = entry := by
      unfold Entry.startedBy
      split
      · rename_i initial
        have already : entry.state = .activated := by simpa [initial] using needless
        rw [← already]
      · rfl
    rw [started]
    exact meets_pure fun _ works => works

theorem finish_meets {declared : ActionScope} (action : Action) :
    Meets (Turn.WorksOn (entry.startedBy declared) around) (kit.finish entry.id action)
      (fun progress turn => turn.world.Holds (entry.leftBy declared progress) around)
      (fun failure turn => Stopped refused around entry declared failure turn.world) := by
  unfold finish
  split
  · refine meets_scopeNow_bind fun turn works => ?_
    rw [← entry.id_startedBy declared]
    dsimp only
    unfold Lifecycle.complete
    rw [← bind_assoc]
    refine meets_bind (moveHere_meets (Lifecycle.move_meets _ .completed action.id _) ?_)
      fun _ => meets_pure fun _ works => works.holds
    exact fun failure turn holds cause => .completing holds cause
  · exact meets_pure fun _ works => works.holds

/-- The execution of an action on a live entry ends with the entry started and, where the action
says so, completed; or it stops on that way. -/
theorem execute_settles (hosts : kit.Hosts refused (Turn.WorksOn entry around))
    (live : entry.state.isTerminal = false) (chosen : ScopedAction) :
    Meets (Turn.WorksOn entry around) (kit.execute chosen)
      (fun progress turn => turn.world.Holds (entry.leftBy chosen.scope progress) around)
      (fun failure turn => Stopped refused around entry chosen.scope failure turn.world) := by
  rw [execute_eq]
  refine meets_scopeNow_bind fun turn works => ?_
  refine meets_bind_via (fun _ => Turn.WorksOn entry around) ?_ fun _ => ?_
  · refine meets_within fun turn works => ?_
    rintro _ rfl
    exact ⟨works.shown, works.holds.note (by simp [Event.stateOf?])⟩
  · have carried : Turn.Carried _ (Turn.WorksOn entry around) := Turn.worksOn_carried live
    refine carryOut_meets carried.toBears (closeStep_keeps carried) hosts
      (fun failure turn works cause => .underway works.holds cause) ?_
    rw [works.shown]
    exact meets_bind (activate_meets chosen.scope) fun _ => finish_meets chosen.action

end Toolkit

end Caseflow
