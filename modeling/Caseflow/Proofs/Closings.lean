import Caseflow.Proofs.Bookkeeping
import Caseflow.Proofs.Rollback
import Caseflow.Proofs.Upholding
/-! Closings. A step is closed by two writes: it is marked as finished, and it is moved to the
history. While the store is in order nothing comes between them: where the first is answered, the
second is too. So in any run over such a store, wherever its calls fail, no current step is
marked. -/
namespace Caseflow

open Run

/-- No closing is noted on the step. -/
structure Step.Unmarked (step : Step) : Prop where
  actionId : step.actionId = 0
  finishDate : step.finishDate = none
  caller : step.caller = none

theorem NewStep.toStep_unmarked (new : NewStep) (id : StepId) : (new.toStep id).Unmarked where
  actionId := rfl
  finishDate := rfl
  caller := rfl

/-- The request notes the closing of a step. -/
def StoreRequest.marks : StoreRequest → Bool
  | .markFinished _ _ => true
  | _ => false

namespace Store

variable {store after : Store}

/-- No closing is noted on any current step. -/
def Clean (store : Store) : Prop :=
  ∀ id, ∀ step ∈ store.currentSteps id, step.Unmarked

theorem Clean.of_subset (clean : store.Clean)
    (fewer : ∀ id, after.currentSteps id ⊆ store.currentSteps id) : after.Clean :=
  fun id step member => clean id step (fewer id member)

/-- Every request but one to mark a step keeps the current steps clean. -/
theorem Clean.answered {now : Instant} {request : StoreRequest} {value : request.Answer}
    (clean : store.Clean) (numbered : store.Numbered) (apart : request.marks = false)
    (done : store.answer now request = .ok (value, after)) : after.Clean := by
  cases request with
  | markFinished handle closing => cases apart
  | createEntry workflow =>
    apply clean.of_subset
    intro id
    rw [currentSteps_createEntry numbered done]
    split
    · exact List.nil_subset _
    · exact List.Subset.refl _
  | createStep new =>
    obtain ⟨-, isNew, -⟩ := createStep_eq done
    intro id step member
    rw [currentSteps_createStep done] at member
    split at member
    · rcases List.mem_append.mp member with old | created
      · exact clean id step old
      · rw [List.mem_singleton.mp created, isNew]
        exact new.toStep_unmarked _
    · exact clean id step member
  | setEntryState entry state =>
    obtain ⟨_, set, same⟩ := exists_of_map_eq_ok done
    cases same
    apply clean.of_subset
    intro id
    rw [currentSteps_setEntryState set]
    exact List.Subset.refl _
  | moveToHistory handle =>
    obtain ⟨_, moved, same⟩ := exists_of_map_eq_ok done
    cases same
    apply clean.of_subset
    intro id
    rw [currentSteps_moveToHistory moved]
    split
    · exact List.eraseP_subset
    · exact List.Subset.refl _
  | properties entry =>
    obtain ⟨_, -, same⟩ := exists_of_map_eq_ok done
    cases same
    exact clean
  | findEntry | currentSteps | historySteps | query =>
    cases done
    exact clean

/-- Among steps with numbers of their own none but the one that is erased bears its number. -/
private theorem id_ne_of_mem_eraseP {steps : List Step} {erased : StepId}
    (distinct : (steps.map (·.id)).Nodup) {step : Step}
    (member : step ∈ steps.eraseP (·.id = erased)) : step.id ≠ erased := by
  induction steps with
  | nil => cases member
  | cons first rest ih =>
    obtain ⟨apart, distinct⟩ := List.nodup_cons.mp distinct
    by_cases here : first.id = erased
    · rw [List.eraseP_cons_of_pos (by simpa using here)] at member
      intro same
      exact apart (List.mem_map.mpr ⟨step, member, same.trans here.symm⟩)
    · rw [List.eraseP_cons_of_neg (by simpa using here)] at member
      rcases List.mem_cons.mp member with rfl | later
      · exact here
      · exact ih distinct later

/-- Where the step that was marked is moved away, the current steps are clean again. -/
theorem Clean.closed {entries steps : Nat} {marked : Store} {handle step : Step} {closing : Closing}
    (clean : store.Clean) (booked : marked.Booked entries steps)
    (done : store.markFinished handle closing = .ok (step, marked))
    (moved : marked.moveToHistory handle = .ok after) : after.Clean := by
  intro id kept member
  rw [currentSteps_moveToHistory moved] at member
  split at member
  · rename_i here
    have distinct : ((marked.currentSteps id).map (·.id)).Nodup :=
      (booked.distinct id).sublist ((List.sublist_append_left _ _).map _)
    have apart := id_ne_of_mem_eraseP distinct member
    have wasThere := List.mem_of_mem_eraseP member
    rw [currentSteps_markFinished done, if_pos here] at wasThere
    obtain ⟨held, isHeld, rfl⟩ := List.mem_map.mp wasThere
    by_cases named : held.id = handle.id
    · rw [if_pos named] at apart
      exact absurd named apart
    · rw [if_neg named]
      exact clean id held isHeld
  · rename_i elsewhere
    rw [currentSteps_markFinished done, if_neg elsewhere] at member
    exact clean id kept member

end Store

namespace World

/-- The store is in order and will be, its books are right, and no current step is marked. -/
structure Whole (world : World) : Prop where
  inOrder : ∀ method call, world.outages.verdict method call = none
  booked : ∃ entries steps, world.store.Booked entries steps
  clean : world.store.Clean

/-- The same but for the step that the handle names, which has just been marked. -/
structure Halfway (handle : Step) (world : World) : Prop where
  inOrder : ∀ method call, world.outages.verdict method call = none
  booked : ∃ entries steps, world.store.Booked entries steps
  marked : ∃ store closing step, Store.Clean store ∧
    store.markFinished handle closing = .ok (step, world.store)

variable {world after : World} {request : StoreRequest} {answer : Except StoreError request.Answer}

theorem Whole.new (now : Instant) : Whole { now } where
  inOrder _ _ := rfl
  booked := ⟨0, 0, .new⟩
  clean := by simp [Store.Clean, Store.currentSteps, Store.record?]

theorem Whole.served (whole : world.Whole) (apart : request.marks = false)
    (served : Served world request answer after) : after.Whole := by
  obtain ⟨entries, steps, booked⟩ := whole.booked
  cases served with
  | refused error => exact ⟨whole.inOrder, whole.booked, whole.clean⟩
  | answered value store done =>
    exact ⟨whole.inOrder, ⟨_, _, booked.answered done⟩,
      whole.clean.answered booked.numbered apart done⟩
  | absent value lost => exact ⟨whole.inOrder, whole.booked, whole.clean⟩

theorem Whole.written (whole : world.Whole) (entry : EntryId) (change : Values → Values) :
    Whole { world with store := world.store.modifyProperties entry change } := by
  obtain ⟨entries, steps, booked⟩ := whole.booked
  refine ⟨whole.inOrder, ⟨entries, steps, booked.modifyProperties entry change⟩, ?_⟩
  apply whole.clean.of_subset
  intro id
  rw [Store.currentSteps_modifyProperties]
  exact List.Subset.refl _

theorem Whole.observed {start : World} (whole : start.Whole) (observed : Observed start world) :
    world.Whole := by
  refine ⟨?_, ?_, ?_⟩
  · rw [observed.verdict]
    exact whole.inOrder
  · rw [observed.store]
    exact whole.booked
  · rw [observed.store]
    exact whole.clean

theorem request_whole {admitted : Failure → Prop} (stored : ∀ error, admitted (.store error))
    (request : StoreRequest) (apart : request.marks = false) :
    Keeps Whole admitted (Run.request request) :=
  keeps_request stored fun _ _ _ whole served => whole.served apart served

theorem markFinished_whole {admitted : Failure → Prop} (stored : ∀ error, admitted (.store error))
    (handle : Step) (closing : Closing) :
    Meets Whole (markFinished handle closing) (fun _ => Halfway handle)
      fun failure world => world.Whole ∧ admitted failure := by
  refine meets_request (fun world value after whole served => ?_) fun world error after whole served => ?_
  · obtain ⟨entries, steps, booked⟩ := whole.booked
    cases served with
    | answered value store done =>
      exact ⟨whole.inOrder, ⟨_, _, booked.markFinished done⟩,
        world.store, closing, value, whole.clean, done⟩
    | absent value lost => cases lost
  · cases served
    exact ⟨⟨whole.inOrder, whole.booked, whole.clean⟩, stored error⟩

/-- The step that was just marked is current, so a store in order moves it. -/
theorem moveToHistory_whole {admitted : Failure → Prop} (handle : Step) :
    Meets (Halfway handle) (moveToHistory handle) (fun _ => Whole)
      fun failure world => world.Whole ∧ admitted failure := by
  refine meets_request (fun world value after halfway served => ?_)
    fun world error after halfway served => ?_
  · obtain ⟨entries, steps, booked⟩ := halfway.booked
    obtain ⟨store, closing, step, clean, done⟩ := halfway.marked
    cases served with
    | answered value moved answered =>
      refine ⟨halfway.inOrder, ⟨_, _, booked.answered answered⟩, ?_⟩
      obtain ⟨_, moved, same⟩ := exists_of_map_eq_ok answered
      cases same
      exact clean.closed booked done moved
    | absent value lost => cases lost
  · obtain ⟨store, closing, step, clean, done⟩ := halfway.marked
    have fits : (StoreRequest.moveToHistory handle).Fits world.store := by
      obtain ⟨held, found, -, -⟩ := Store.markFinished_eq done
      show handle.id ∈ world.store.currentIds handle.entryId
      rw [Store.currentIds_markFinished done]
      exact Store.mem_currentIds_iff.mpr (Option.isSome_iff_exists.mpr ⟨held, found⟩)
    cases served with
    | refused error cause =>
      rcases cause with outage | refused
      · rw [Outages.next, halfway.inOrder] at outage
        cases outage
      · exact absurd refused (fits.answered _ _)

/-- To mark a step as finished and to move it to the history is one closing. -/
theorem closing_whole {admitted : Failure → Prop} (stored : ∀ error, admitted (.store error))
    (handle : Step) (closing : Closing) :
    Keeps Whole admitted (do
      let _ ← markFinished handle closing
      moveToHistory handle) :=
  meets_bind (markFinished_whole stored handle closing) fun _ => moveToHistory_whole handle

end World

/-! ### Calls -/

theorem Lifecycle.move_whole (finishedStatus : String) (entryId : EntryId) (target : EntryState)
    (actionId : ActionId) (caller : Option String) :
    Keeps World.Whole (fun _ => True) (move finishedStatus entryId target actionId caller) := by
  have stored (error : StoreError) : True := trivial
  apply move_keeps_of_closings
  · exact fun _ => trivial
  · exact fun _ _ _ => trivial
  · exact fun id => World.request_whole stored (.findEntry id) rfl
  · exact fun id => World.request_whole stored (.currentSteps id) rfl
  · exact World.closing_whole stored
  · exact fun id state => World.request_whole stored (.setEntryState id state) rfl

namespace Turn

theorem whole_stable : Stable fun turn => turn.world.Whole := by
  intro before after hooked whole
  obtain ⟨change, changed⟩ := hooked.store
  have written := whole.written before.home change
  refine ⟨?_, ?_, ?_⟩
  · rw [hooked.verdict]
    exact whole.inOrder
  · rw [changed]
    exact written.booked
  · rw [changed]
    exact written.clean

theorem whole_bears : Bears (fun _ => True) fun turn => turn.world.Whole where
  own _ _ := trivial
  amended _ _ whole _ := whole
  looked _ _ _ _ whole served := whole.served rfl served
  moved _ _ _ _ whole served := whole.served rfl served
  created _ _ _ _ whole _ served := whole.served rfl served

end Turn

theorem Toolkit.closeStep_whole {refused : Failure → Prop} (step : Step) (actionId : ActionId)
    (status : String) :
    Keeps (fun turn => turn.world.Whole) (Refusal refused) (closeStep step actionId status) := by
  unfold closeStep
  refine keeps_read_bind fun turn _ => ?_
  refine meets_bind_via (fun _ turn => turn.world.Halfway step) ?_ fun finished => ?_
  · exact meets_within fun turn whole => meets_at (World.markFinished_whole .store step _) whole
  · refine meets_bind (meets_within fun turn halfway => ?_) fun _ => meets_pure fun _ whole => whole
    exact meets_at (World.moveToHistory_whole step) halfway

namespace Engine

/-- No transition and no move along the lifecycle leaves a closing half done. -/
theorem Standard.whole {engine : Engine} (standard : engine.Standard) :
    engine.Upholds World.Whole fun _ => True where
  toAdmits := engine.admits_any
  looked whole observed := whole.observed observed
  executed chosen turn whole :=
    Toolkit.execute_meets Turn.whole_bears Toolkit.closeStep_whole
      (Toolkit.hosts_of_modest Turn.whole_stable standard.modest) Lifecycle.move_whole
      (fun _ _ => trivial) chosen turn ⟨whole.inOrder, whole.booked, whole.clean⟩
  moved := Lifecycle.move_whole

end Engine

/-- Calls of standard engines lead to the world from a new store that is never out of order.
Between the calls the time goes on, the methods of the store may be called, and the entries may be
looked at. -/
inductive World.ReachableInOrder : World → Prop where
  | new (now : Instant) : ReachableInOrder { now }
  | call {world : World} {engine : Engine} (before : ReachableInOrder world)
      (standard : engine.Standard) (operation : Operation) :
      ReachableInOrder (engine.perform world operation)
  | meanwhile {world : World} {events : List Event} (before : ReachableInOrder world) (now : Instant)
      (calls : StoreMethod → Nat) (areCalls : ∀ event ∈ events, Event.isCall event = true) :
      ReachableInOrder { world.note events with now, outages := { world.outages with calls } }

theorem World.ReachableInOrder.whole {world : World} (reachable : world.ReachableInOrder) :
    world.Whole := by
  induction reachable with
  | new now => exact .new now
  | call before standard operation ih =>
    apply standard.whole.perform_keeps ih
    · exact fun workflow => request_whole (fun _ => trivial) (.createEntry workflow) rfl
    · exact fun world entryId change whole => whole.written entryId change
  | meanwhile before now calls areCalls ih => exact ⟨ih.inOrder, ih.booked, ih.clean⟩

/-- While the store is in order, whatever is called and wherever a call fails, every current step of
every entry is open: no action, no finish date and no caller is noted on it. -/
theorem current_steps_open {world : World} (reachable : world.ReachableInOrder) (id : EntryId) :
    ∀ step ∈ world.store.currentSteps id,
      step.actionId = 0 ∧ step.finishDate = none ∧ step.caller = none := by
  intro step member
  have unmarked := reachable.whole.clean id step member
  exact ⟨unmarked.actionId, unmarked.finishDate, unmarked.caller⟩

/-- A workflow of two branches. The action of the first one leads to a join, and the join to a
split, where no transition can go. -/
def frayed : Blueprint where
  name := "frayed"
  initialActions :=
    [{ id := 1, name := "enter", unconditionalOutcome := some { target := .split 1 } }]
  steps :=
    [{ id := 1, name := "loose",
       actions := [{ id := 10, name := "gather",
                     unconditionalOutcome := some { target := .join 1, oldStatus := "Done" } }] },
     { id := 2, name := "fast" }]
  splits :=
    [{ id := 1,
       outcomes := [{ target := .step 1, status := "Open" }, { target := .step 2, status := "Open" }] }]
  joins := [{ id := 1, outcome := some { target := .split 1, status := "Open" } }]

def frayedEngine : Engine where
  catalog := ((default : Catalog).register frayed).toOption.getD default
  caller := some "weaver"

/-- The call on that action fails with the step of the first branch closed; the one of the other
branch is current and open. -/
theorem frayed_stays_open :
    let world := frayedEngine.perform { now := ⟨7, 0⟩ } (.start "frayed" 1 ∅)
    let reply := frayedEngine.doAction 1 10 ∅ world
    reply.world.ReachableInOrder ∧
      reply.result = .error (.configuration (.targetCreatesNoStep (.split 1))) ∧
      (∃ past ∈ reply.world.store.historySteps 1, past.actionId = 10 ∧ past.finishDate = some ⟨7, 0⟩ ∧
        past.caller = some "weaver") ∧
      ∃ step ∈ reply.world.store.currentSteps 1,
        step.actionId = 0 ∧ step.finishDate = none ∧ step.caller = none := by
  intro world reply
  have standard : frayedEngine.Standard := rfl
  have reachable : reply.world.ReachableInOrder :=
    .call (.call (.new ⟨7, 0⟩) standard (.start "frayed" 1 ∅)) standard (.act 1 10 ∅)
  have closed : ∃ past ∈ reply.world.store.historySteps 1, past.actionId = 10 ∧
      past.finishDate = some ⟨7, 0⟩ ∧ past.caller = some "weaver" := by
    decide +kernel
  have remains : ∃ step ∈ reply.world.store.currentSteps 1, step.defId = 2 := by
    decide +kernel
  obtain ⟨step, isCurrent, -⟩ := remains
  exact ⟨reachable, failed_of_eval (by decide +kernel), closed, step, isCurrent,
    current_steps_open reachable 1 step isCurrent⟩

end Caseflow
