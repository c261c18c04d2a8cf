import Caseflow.Proofs.Arrangements
import Caseflow.Proofs.Calls
/-! Sweeps. A move of an entry to an end of its lifecycle sweeps its current steps into the
history, one after the other, each by two requests, and sets the state last. A refusal of the store
may stop it between any two requests. The steps swept so far are in the history then, and the
others are still current and in order, the first of them perhaps with a closing noted on it
already. Such a note is written over by the closing of a later move, so a later move goes on from
there as if the steps were untouched. -/
namespace Caseflow

open Run

/-- The step is as it was, but for a closing that may have been noted on it since. -/
def Step.Remains (step held : Step) : Prop :=
  held = step ∨ ∃ closing : Closing, held = closing.mark step

namespace Step.Remains

variable {step held : Step}

theorem refl (step : Step) : step.Remains step :=
  .inl rfl

theorem mark (remains : step.Remains held) (closing : Closing) : step.Remains (closing.mark held) := by
  obtain rfl | ⟨_, rfl⟩ := remains <;> exact .inr ⟨closing, rfl⟩

theorem id (remains : step.Remains held) : held.id = step.id := by
  obtain rfl | ⟨_, rfl⟩ := remains <;> rfl

theorem entryId (remains : step.Remains held) : held.entryId = step.entryId := by
  obtain rfl | ⟨_, rfl⟩ := remains <;> rfl

/-- A closing writes over the one before it. -/
theorem closed (remains : step.Remains held) (closing : Closing) :
    closing.mark held = closing.mark step := by
  obtain rfl | ⟨_, rfl⟩ := remains <;> rfl

end Step.Remains

namespace World

/-- What leaves the store and the journal alone leaves the steps as they are. -/
theorem Arranged.untouched {start world after : World} {id : EntryId} {steps : Arrangement}
    (arranged : Arranged start id steps world) (store : after.store = world.store)
    (journal : after.journal = world.journal) (now : after.now = world.now) :
    Arranged start id steps after where
  now := now.trans arranged.now
  current := store ▸ arranged.current
  history := store ▸ arranged.history
  counted := store ▸ arranged.counted
  noted := journal ▸ arranged.noted
  elsewhere := store ▸ arranged.elsewhere

/-- Since `start` only steps of the entry have been closed. It has left the steps `past`, and the
steps `left` are still current. -/
structure Swept (start : World) (entry : Entry) (past left : List Step) (world : World) : Prop where
  held : world.store.findEntry? entry.id = some entry
  arranged : ∃ current closings, List.Forall₂ Step.Remains left current ∧
    Arranged start entry.id ⟨current, past, [], start.store.stepCount, closings⟩ world

namespace Swept

variable {start world after : World} {entry : Entry} {past left rest : List Step} {step handle : Step}

/-- Nothing has been closed yet. -/
theorem here (held : world.store.findEntry? entry.id = some entry)
    (remains : List.Forall₂ Step.Remains left (world.store.currentSteps entry.id)) :
    Swept world entry (world.store.historySteps entry.id) left world where
  held := held
  arranged := ⟨_, _, remains, rfl, rfl, rfl, rfl, rfl, fun _ _ => ⟨rfl, rfl⟩⟩

theorem history (swept : Swept start entry past left world) :
    world.store.historySteps entry.id = past := by
  obtain ⟨current, closings, -, arranged⟩ := swept.arranged
  exact arranged.history

theorem current (swept : Swept start entry past left world) :
    List.Forall₂ Step.Remains left (world.store.currentSteps entry.id) := by
  obtain ⟨current, closings, remains, arranged⟩ := swept.arranged
  exact arranged.current ▸ remains

theorem now (swept : Swept start entry past left world) : world.now = start.now := by
  obtain ⟨current, closings, -, arranged⟩ := swept.arranged
  exact arranged.now

theorem counted (swept : Swept start entry past left world) :
    world.store.stepCount = start.store.stepCount := by
  obtain ⟨current, closings, -, arranged⟩ := swept.arranged
  exact arranged.counted

theorem elsewhere (swept : Swept start entry past left world) :
    ∀ other, other ≠ entry.id →
      world.store.currentSteps other = start.store.currentSteps other ∧
        world.store.historySteps other = start.store.historySteps other := by
  obtain ⟨current, closings, -, arranged⟩ := swept.arranged
  exact arranged.elsewhere

theorem rested (swept : Swept start entry past [] world) : world.store.currentSteps entry.id = [] :=
  List.forall₂_nil_left_iff.mp swept.current

/-- What leaves the store and the journal alone sweeps nothing. -/
theorem untouched (swept : Swept start entry past left world) (store : after.store = world.store)
    (journal : after.journal = world.journal) (now : after.now = world.now) :
    Swept start entry past left after := by
  obtain ⟨current, closings, remains, arranged⟩ := swept.arranged
  exact ⟨store ▸ swept.held, current, closings, remains, arranged.untouched store journal now⟩

/-- A refused request sweeps nothing. -/
theorem refused (swept : Swept start entry past left world) {request : StoreRequest} {error : StoreError}
    (served : Served world request (.error error) after) : Swept start entry past left after := by
  cases served with
  | refused error cause => exact swept.untouched rfl rfl rfl

/-- The first of the steps that are left is the one that a handle of its number finds. -/
private theorem found_first {held : Step} (remains : step.Remains handle)
    (first : step.Remains held) (others : List Step) :
    (held :: others).find? (·.id = handle.id) = some held :=
  List.find?_cons_of_pos (by simp [first.id, remains.id])

/-- A closing is noted on the first of the steps that are left, which stays current. -/
theorem finished (swept : Swept start entry past (step :: rest) world) (remains : step.Remains handle)
    (own : step.entryId = entry.id) {closing : Closing} {marked : Step}
    (served : Served world (.markFinished handle closing) (.ok marked) after) :
    Swept start entry past (step :: rest) after ∧
      after.store.currentStep? handle = some (closing.mark step) := by
  obtain ⟨current, closings, all, arranged⟩ := swept.arranged
  cases all with
  | @cons _ held _ others first remain =>
    have ownHandle : handle.entryId = entry.id := remains.entryId.trans own
    obtain ⟨-, noted⟩ := arranged.finished ownHandle (found_first remains first others) served
    have marks (other held : Step) (remain : other.Remains held) :
        other.Remains (if held.id = handle.id then closing.mark held else held) := by
      split
      · exact remain.mark closing
      · exact remain
    constructor
    · refine ⟨?_, _, _, ?_, noted⟩
      · cases served with
        | answered marked store done =>
          exact (Store.findEntry?_markFinished done entry.id).trans swept.held
        | absent marked lost => cases lost
      · exact List.forall₂_map_right_iff.mpr ((List.Forall₂.cons first remain).imp marks)
    · have same : held.id = handle.id := first.id.trans remains.id.symm
      rw [Store.currentStep?, ownHandle, noted.current, List.map_cons, if_pos same, first.closed]
      exact found_first remains ((Step.Remains.refl step).mark closing) _

/-- The first of the steps that are left is moved to the history as it is by then. -/
theorem moved (swept : Swept start entry past (step :: rest) world) (remains : step.Remains handle)
    (own : step.entryId = entry.id) {kept : Step} (found : world.store.currentStep? handle = some kept)
    {value : Unit} (served : Served world (.moveToHistory handle) (.ok value) after) :
    Swept start entry (past ++ [kept]) rest after := by
  obtain ⟨current, closings, all, arranged⟩ := swept.arranged
  cases all with
  | @cons _ held _ others first remain =>
    have ownHandle : handle.entryId = entry.id := remains.entryId.trans own
    have isFirst := found_first remains first others
    rw [Store.currentStep?, ownHandle, arranged.current, isFirst] at found
    obtain rfl := Option.some.inj found
    have left := arranged.moved ownHandle isFirst served
    have erased : (held :: others).eraseP (·.id = handle.id) = others :=
      List.eraseP_cons_of_pos (by simp [first.id, remains.id])
    dsimp only at left
    rw [erased] at left
    refine ⟨?_, _, _, remain, left⟩
    cases served with
    | answered value store done =>
      obtain ⟨_, moved, same⟩ := exists_of_map_eq_ok done
      cases same
      exact (Store.findEntry?_moveToHistory moved entry.id).trans swept.held
    | absent value lost => cases lost

/-- The state of the entry is set. -/
theorem stated (swept : Swept start entry past left world) {state : EntryState} {value : Unit}
    (served : Served world (.setEntryState entry.id state) (.ok value) after) :
    Swept start { entry with state } past left after := by
  obtain ⟨current, closings, remains, arranged⟩ := swept.arranged
  refine ⟨?_, current, closings, remains, arranged.stated served⟩
  cases served with
  | answered value store done =>
    obtain ⟨_, set, same⟩ := exists_of_map_eq_ok done
    cases same
    refine (Store.findEntry?_setEntryState set entry.id).trans ?_
    simp [swept.held]
  | absent value lost => cases lost

end Swept

end World

/-! ### Moves to an end -/

namespace Lifecycle

variable {start : World} {entry : Entry} {past left handles : List Step}

/-- A failure that leaves a sweep unfinished: some of the steps have been swept, and the others are
left. -/
def Unfinished (start : World) (entry : Entry) (past left : List Step) (closing : Closing)
    (world : World) : Prop :=
  ∃ swept rest, swept ++ rest = left ∧ start.Swept entry (past ++ swept.map closing.mark) rest world

theorem unfinished_at_once {closing : Closing} {world : World}
    (swept : start.Swept entry past left world) : Unfinished start entry past left closing world :=
  ⟨[], left, rfl, by simpa using swept⟩

/-- Closing the steps that are left sweeps them in turn. -/
theorem closeSteps_sweeps (closing : Closing) (remain : List.Forall₂ Step.Remains left handles)
    (own : ∀ step ∈ left, step.entryId = entry.id) :
    Meets (start.Swept entry past left) (closeSteps closing handles)
      (fun _ => start.Swept entry (past ++ left.map closing.mark) [])
      (fun _ => Unfinished start entry past left closing) := by
  induction remain generalizing past with
  | nil => exact meets_done fun _ swept => by simpa using swept
  | @cons step handle rest others remains remain ih =>
    have ownStep : step.entryId = entry.id := own step (List.mem_cons_self ..)
    have ownRest : ∀ later ∈ rest, later.entryId = entry.id :=
      fun later member => own later (List.mem_cons_of_mem _ member)
    have closes : Meets (start.Swept entry past (step :: rest))
        (do
          let _ ← World.markFinished handle closing
          World.moveToHistory handle)
        (fun _ => start.Swept entry (past ++ [closing.mark step]) rest)
        (fun _ => Unfinished start entry past (step :: rest) closing) := by
      refine meets_bind_via (fun _ world => start.Swept entry past (step :: rest) world ∧
        world.store.currentStep? handle = some (closing.mark step)) ?_ fun _ => ?_
      · apply meets_request
        · exact fun world marked after swept served => swept.finished remains ownStep served
        · exact fun world error after swept served => unfinished_at_once (swept.refused served)
      · apply meets_request
        · exact fun world value after noted served => noted.1.moved remains ownStep noted.2 served
        · exact fun world error after noted served => unfinished_at_once (noted.1.refused served)
    refine meets_andThen closes fun _ => meets_mono (ih ownRest) (fun _ swept => swept) ?_ ?_
    · intro _ world swept
      rw [List.append_assoc] at swept
      exact swept
    · rintro failure world ⟨swept, left, rfl, unfinished⟩
      refine ⟨step :: swept, left, rfl, ?_⟩
      rw [List.append_assoc] at unfinished
      exact unfinished

/-- Closing whatever is current sweeps the steps that are left. -/
theorem closeAll_sweeps (own : ∀ step ∈ left, step.entryId = entry.id) (finishedStatus : String)
    (actionId : ActionId) (caller : Option String) :
    Meets (start.Swept entry past left) (closeAll finishedStatus entry.id actionId caller)
      (fun _ => start.Swept entry
        (past ++ left.map (Closing.mark ⟨actionId, start.now, finishedStatus, caller⟩)) [])
      (fun _ => Unfinished start entry past left ⟨actionId, start.now, finishedStatus, caller⟩) := by
  unfold closeAll
  refine meets_read_bind fun now sweptNow => ?_
  rw [sweptNow.now]
  refine meets_bind_via (fun handles world => List.Forall₂ Step.Remains left handles ∧
    start.Swept entry past left world) ?_ fun handles => ?_
  · apply meets_request
    · intro world handles after swept served
      obtain ⟨store, journal, ⟨_, refused⟩ | answered⟩ := World.currentSteps_served served
      · cases refused
      · obtain rfl := Except.ok.inj answered
        exact ⟨swept.current, swept.untouched store journal (World.now_of_served served)⟩
    · exact fun world error after swept served => unfinished_at_once (swept.refused served)
  · exact meets_given fun remain => closeSteps_sweeps _ remain own

/-- An entry is found as it is stored, if it is found. -/
theorem findEntry_sweeps (closing : Closing) :
    Meets (start.Swept entry past left) (World.findEntry entry.id)
      (fun found world => found = entry ∧ start.Swept entry past left world)
      (fun _ => Unfinished start entry past left closing) := by
  unfold World.findEntry
  refine meets_bind_via (fun found world => (found = some entry ∨ found = none) ∧
    start.Swept entry past left world) ?_ fun found => meets_given fun known => ?_
  · apply meets_request
    · intro world found after swept served
      obtain ⟨store, journal, ⟨_, refused⟩ | answered | ⟨lost, -⟩⟩ := World.findEntry_served served
      · cases refused
      · have isFound := (Except.ok.inj answered).trans swept.held
        exact ⟨.inl isFound, swept.untouched store journal (World.now_of_served served)⟩
      · have isLost := Except.ok.inj lost
        exact ⟨.inr isLost, swept.untouched store journal (World.now_of_served served)⟩
    · exact fun world error after swept served => unfinished_at_once (swept.refused served)
  · apply meets_ofOption
    · rintro value rfl world swept
      exact ⟨by simpa using known, swept⟩
    · exact fun _ world swept => unfinished_at_once swept

/-- A move to an end that answers has swept all steps that were left; one that fails has left the
state as it was, and some of the steps. -/
theorem move_sweeps {target : EntryState} (ends : target.isTerminal = true)
    (apart : entry.state ≠ target) (own : ∀ step ∈ left, step.entryId = entry.id)
    (finishedStatus : String) (actionId : ActionId) (caller : Option String) :
    let closing : Closing := ⟨actionId, start.now, finishedStatus, caller⟩
    Meets (start.Swept entry past left) (move finishedStatus entry.id target actionId caller)
      (fun _ => start.Swept { entry with state := target } (past ++ left.map closing.mark) [])
      (fun _ => Unfinished start entry past left closing) := by
  intro closing
  unfold move
  refine meets_bind (findEntry_sweeps closing) fun found => meets_given fun isEntry => ?_
  rw [isEntry, if_neg apart]
  by_cases edge : entry.state.canMoveTo target = true
  · rw [if_neg (by simp [edge])]
    dsimp only
    rw [if_pos ends]
    refine meets_bind (closeAll_sweeps own finishedStatus actionId caller) fun _ => ?_
    refine meets_bind_via (fun _ => start.Swept { entry with state := target }
      (past ++ left.map closing.mark) []) ?_ fun _ => meets_pure fun _ swept => swept
    apply meets_request
    · exact fun world value after swept served => swept.stated served
    · intro world error after swept served
      exact ⟨left, [], List.append_nil _, swept.refused served⟩
  · rw [if_pos (by simp [edge])]
    exact meets_fail fun world swept => unfinished_at_once swept

/-- A move of an entry to the state it is in, or against the edges, leaves the store alone. -/
theorem move_idle {id : EntryId} {target : EntryState}
    (settled : ∀ stored, start.store.findEntry? id = some stored →
      stored.state = target ∨ stored.state.canMoveTo target = false)
    (finishedStatus : String) (actionId : ActionId) (caller : Option String) :
    Meets (· = start) (move finishedStatus id target actionId caller)
      (fun _ world => world.store = start.store) fun _ world => world.store = start.store := by
  unfold move
  refine meets_bind (meets_failures
    (meets_at (World.findEntry_observes start id) (.refl start)) fun _ _ ends => ends.1.store)
    fun stored => meets_given fun found => ?_
  split
  · exact meets_pure fun world observed => observed.store
  · rename_i apart
    have noEdge : stored.state.canMoveTo target = false := (settled stored found).resolve_left apart
    rw [if_pos (by simp [noEdge])]
    exact meets_fail fun world observed => observed.store

end Lifecycle

/-! ### Calls that go on where others have stopped -/

/-- A call that asks for the end of an entry: the engine that makes it, and the outages and the
time that it meets. -/
structure Attempt where
  engine : Engine
  outages : Outages := {}
  now : Instant := ⟨0, 0⟩

namespace Attempt

/-- How the call closes the steps that it sweeps. -/
def closing (attempt : Attempt) : Closing :=
  ⟨0, attempt.now, attempt.engine.kit.settings.finishedStatus, attempt.engine.caller⟩

/-- The world that the call meets. -/
def enter (attempt : Attempt) (world : World) : World :=
  { world with outages := attempt.outages, now := attempt.now }

def make (attempt : Attempt) (id : EntryId) (target : EntryState) (world : World) : Reply Unit :=
  attempt.engine.changeState id target (attempt.enter world)

end Attempt

namespace World

/-- The world after calls for the end of an entry, whether they succeed or fail. -/
def attempted (id : EntryId) (target : EntryState) (world : World) (attempts : List Attempt) : World :=
  attempts.foldl (fun world attempt => (attempt.make id target world).world) world

theorem attempted_append (id : EntryId) (target : EntryState) (world : World)
    (attempts : List Attempt) (attempt : Attempt) :
    world.attempted id target (attempts ++ [attempt]) =
      (attempt.make id target (world.attempted id target attempts)).world := by
  rw [attempted, List.foldl_append]
  rfl

/-- Since `start` each of the calls has swept its share of the steps that were current. The others
are left, and the entry is as it was but for its state. -/
structure Shared (start : World) (entry : Entry) (state : EntryState)
    (shares : List (Attempt × List Step)) (left : List Step) (world : World) : Prop where
  held : world.store.findEntry? entry.id = some { entry with state }
  history : world.store.historySteps entry.id = start.store.historySteps entry.id ++
    shares.flatMap fun share => share.2.map share.1.closing.mark
  current : List.Forall₂ Step.Remains left (world.store.currentSteps entry.id)
  all : shares.flatMap (·.2) ++ left = start.store.currentSteps entry.id

variable {start world after : World} {entry : Entry} {state : EntryState} {left : List Step}
  {shares : List (Attempt × List Step)}

theorem Shared.here (found : start.store.findEntry? entry.id = some entry) :
    Shared start entry entry.state [] (start.store.currentSteps entry.id) start where
  held := found
  history := (List.append_nil _).symm
  current := List.forall₂_same.mpr fun step _ => .refl step
  all := rfl

/-- What one more call sweeps is its share. -/
theorem Shared.grown (shared : start.Shared entry state shares left world) {attempt : Attempt}
    {swept rest : List Step} {next : EntryState} (split : swept ++ rest = left)
    (sweeps : Swept (attempt.enter world) { entry with state := next }
      (world.store.historySteps entry.id ++ swept.map attempt.closing.mark) rest after) :
    start.Shared entry next (shares ++ [(attempt, swept)]) rest after where
  held := sweeps.held
  history := by
    rw [List.flatMap_append, List.flatMap_singleton, ← List.append_assoc, ← shared.history]
    exact sweeps.history
  current := sweeps.current
  all := by
    rw [List.flatMap_append, List.flatMap_singleton, List.append_assoc, split]
    exact shared.all

end World

namespace Engine

theorem changeState_idle (engine : Engine) {world : World} {id : EntryId} {target : EntryState}
    (settled : ∀ stored, world.store.findEntry? id = some stored →
      stored.state = target ∨ stored.state.canMoveTo target = false) :
    (engine.changeState id target world).world.store = world.store := by
  unfold changeState
  rw [Reply.world_ofRun]
  have moves := Lifecycle.move_idle settled engine.kit.settings.finishedStatus 0 engine.caller
  exact (meets_bind moves fun _ => meets_pure fun _ stays => stays).ends rfl

/-- A call for the end of an entry succeeds just where it sweeps all the steps that are left. -/
theorem changeState_sweeps (engine : Engine) {world : World} {entry : Entry} {target : EntryState}
    {past left : List Step} (swept : world.Swept entry past left world)
    (own : ∀ step ∈ left, step.entryId = entry.id) (ends : target.isTerminal = true)
    (apart : entry.state ≠ target) :
    let closing : Closing := ⟨0, world.now, engine.kit.settings.finishedStatus, engine.caller⟩
    let reply := engine.changeState entry.id target world
    (reply.result = .ok () ∧
        world.Swept { entry with state := target } (past ++ left.map closing.mark) [] reply.world) ∨
      ∃ failure, reply.result = .error failure ∧
        Lifecycle.Unfinished world entry past left closing reply.world := by
  intro closing reply
  have moves := Lifecycle.move_sweeps ends apart own engine.kit.settings.finishedStatus 0 engine.caller
    world swept
  have calls : reply = Reply.ofRun Failure.requiresRollback (andThen
      (Lifecycle.move engine.kit.settings.finishedStatus entry.id target 0 engine.caller)
      fun _ => done ()) world := rfl
  rw [calls, Reply.ofRun, andThen_done]
  split at moves
  · rename_i reached
    rw [reached]
    exact .inl ⟨rfl, moves⟩
  · rename_i failure _ reached
    rw [reached]
    exact .inr ⟨failure, rfl, moves⟩

end Engine

namespace World

variable {start world : World} {entry : Entry} {target : EntryState}

section Ending

variable (own : ∀ step ∈ start.store.currentSteps entry.id, step.entryId = entry.id)
  (ends : target.isTerminal = true) (edge : entry.state.canMoveTo target = true)

include own ends edge

/-- One more call sweeps its share: all that is left where it succeeds, some of it where it fails,
and nothing once the entry is at its end. -/
theorem Shared.make {state : EntryState} {shares : List (Attempt × List Step)} {left : List Step}
    (shared : start.Shared entry state shares left world)
    (reached : state = entry.state ∨ state = target ∧ left = []) (attempt : Attempt) :
    let reply := attempt.make entry.id target world
    ∃ swept rest next, start.Shared entry next (shares ++ [(attempt, swept)]) rest reply.world ∧
      (next = entry.state ∨ next = target ∧ rest = []) ∧
      (reply.result = .ok () → next = target) ∧
      ∀ failure, reply.result = .error failure → next = state := by
  intro reply
  rcases reached with rfl | ⟨rfl, rfl⟩
  · have among : ∀ step ∈ left, step.entryId = entry.id := fun step member =>
      own step (shared.all ▸ List.mem_append_right _ member)
    have begun : (attempt.enter world).Swept entry (world.store.historySteps entry.id) left
        (attempt.enter world) := .here shared.held shared.current
    rcases attempt.engine.changeState_sweeps begun among ends
        (EntryState.apart_of_edge edge) with
      ⟨succeeded, sweeps⟩ | ⟨failure, failed, swept, rest, split, sweeps⟩
    · refine ⟨left, [], target, shared.grown (List.append_nil _) sweeps, .inr ⟨rfl, rfl⟩,
        fun _ => rfl, fun failure failed => ?_⟩
      cases succeeded.symm.trans failed
    · refine ⟨swept, rest, entry.state, shared.grown split sweeps, .inl rfl,
        fun succeeded => ?_, fun _ _ => rfl⟩
      cases succeeded.symm.trans failed
  · have settled : ∀ stored, (attempt.enter world).store.findEntry? entry.id = some stored →
        stored.state = state ∨ stored.state.canMoveTo state = false := by
      intro stored isStored
      obtain rfl := Option.some.inj (shared.held.symm.trans isStored)
      exact .inl rfl
    have idle := attempt.engine.changeState_idle settled
    have same : reply.world.store = world.store := idle
    refine ⟨[], [], state, ⟨same ▸ shared.held, ?_, same ▸ shared.current, ?_⟩, .inr ⟨rfl, rfl⟩,
      fun _ => rfl, fun _ _ => rfl⟩
    · rw [List.flatMap_append, List.flatMap_singleton, List.map_nil, List.append_nil]
      exact same ▸ shared.history
    · rw [List.flatMap_append, List.flatMap_singleton, List.append_nil]
      exact shared.all

/-- However many calls for the end of an entry there were, each has swept its share, and has added
it to the history when it was made. -/
theorem attempted_shared (found : start.store.findEntry? entry.id = some entry)
    (attempts : List Attempt) :
    ∃ shares left state, shares.map (·.1) = attempts ∧
      start.Shared entry state shares left (start.attempted entry.id target attempts) ∧
      (state = entry.state ∨ state = target ∧ left = []) ∧
      ∀ count, (start.attempted entry.id target (attempts.take count)).store.historySteps entry.id =
        start.store.historySteps entry.id ++
          (shares.take count).flatMap fun share => share.2.map share.1.closing.mark := by
  induction attempts using List.reverseRecOn with
  | nil => exact ⟨[], _, _, rfl, .here found, .inl rfl, fun count => by simp [attempted]⟩
  | append_singleton attempts attempt ih =>
    obtain ⟨shares, left, state, made, shared, reached, histories⟩ := ih
    obtain ⟨swept, rest, next, sharedThen, reachedThen, -, -⟩ :=
      shared.make own ends edge reached attempt
    rw [← attempted_append] at sharedThen
    refine ⟨_, rest, next, by rw [List.map_append, made]; rfl, sharedThen, reachedThen,
      fun count => ?_⟩
    have length : shares.length = attempts.length := by rw [← made, List.length_map]
    by_cases before : count ≤ attempts.length
    · rw [List.take_append_of_le_length before, List.take_append_of_le_length (length ▸ before)]
      exact histories count
    · have all : attempts.length + 1 ≤ count := Nat.lt_of_not_le before
      rw [List.take_of_length_le (by simpa using all),
        List.take_of_length_le (by simpa [length] using all)]
      exact sharedThen.history

end Ending

end World

namespace Engine

/-- Calls for the end of an entry go on where others were stopped. A call that fails leaves the
entry as it was stored, and where the store has failed it the work is marked as failed. As soon as
one succeeds, the entry is at its end and has no current steps, and its history goes on by all the
steps that were current, in order, each as the call closed it that swept it. Calls that ask for the
present state, or for one that no edge leads to, leave the store as it is. -/
theorem endings_resume (happenings : List Happening) {entry : Entry} {target : EntryState}
    (found : (World.through {} happenings).store.findEntry? entry.id = some entry)
    (ends : target.isTerminal = true) (edge : entry.state.canMoveTo target = true)
    (attempts : List Attempt) (attempt : Attempt) :
    let start := World.through {} happenings
    let before := start.attempted entry.id target attempts
    let reply := attempt.make entry.id target before
    (∀ failure, reply.result = .error failure →
        reply.world.store.findEntry? entry.id = before.store.findEntry? entry.id ∧
          ∀ error, failure = .store error → reply.rollback = true) ∧
      (reply.result = .ok () →
        reply.world.store.findEntry? entry.id = some { entry with state := target } ∧
          reply.world.store.currentSteps entry.id = [] ∧
          ∃ shares : List (Attempt × List Step), shares.map (·.1) = attempts ++ [attempt] ∧
            shares.flatMap (·.2) = start.store.currentSteps entry.id ∧
            ∀ count, (start.attempted entry.id target
                ((attempts ++ [attempt]).take count)).store.historySteps entry.id =
              start.store.historySteps entry.id ++
                (shares.take count).flatMap fun share => share.2.map share.1.closing.mark) ∧
      ∀ (engine : Engine) (world : World) (id : EntryId) (state : EntryState),
        (∀ stored, world.store.findEntry? id = some stored →
          stored.state = state ∨ stored.state.canMoveTo state = false) →
        (engine.changeState id state world).world.store = world.store := by
  intro start before reply
  obtain ⟨_, _, booked⟩ := World.through_booked happenings
  have own : ∀ step ∈ start.store.currentSteps entry.id, step.entryId = entry.id :=
    (booked.handles entry.id).own
  obtain ⟨_, _, state, -, shared, reached, -⟩ :=
    World.attempted_shared own ends edge found attempts
  obtain ⟨_, _, next, sharedThen, -, succeeds, fails⟩ :=
    shared.make own ends edge reached attempt
  refine ⟨fun failure failed => ⟨?_, ?_⟩, fun succeeded => ?_, fun engine world id state settled =>
    engine.changeState_idle settled⟩
  · rw [sharedThen.held, fails failure failed, shared.held]
  · rintro error rfl
    exact (Reply.of_failed failed).2
  · obtain ⟨shares, left, last, made, all, reached, histories⟩ :=
      World.attempted_shared own ends edge found (attempts ++ [attempt])
    rw [World.attempted_append] at all
    have isLast : last = target := by
      have same := Option.some.inj (all.held.symm.trans sharedThen.held)
      exact (congrArg Entry.state same).trans (succeeds succeeded)
    have none : left = [] := by
      rcases reached with rfl | ⟨-, none⟩
      · exact absurd isLast (EntryState.apart_of_edge edge)
      · exact none
    subst isLast none
    have rested := List.forall₂_nil_left_iff.mp all.current
    have swept := all.all
    rw [List.append_nil] at swept
    exact ⟨all.held, rested, shares, made, swept, histories⟩

end Engine

/-! ### An inquiry that is given up at the third call -/

namespace Attempt

/-- Ann's call is stopped when it would move a second step. -/
def byAnn : Attempt where
  engine := { catalog := default, caller := some "ann" }
  outages := Outages.plan {} .moveToHistory 1 (some (.failure (.backend "out of space")))
  now := ⟨1, 0⟩

/-- A call without a caller does not find the entry. -/
def byNobody : Attempt where
  engine := { catalog := default }
  outages := Outages.plan {} .findEntry 0 (some .absence)
  now := ⟨2, 0⟩

/-- Bob's call meets no outage. -/
def byBob : Attempt where
  engine := { catalog := default, caller := some "bob" }
  now := ⟨3, 0⟩

end Attempt

/-- An entry is active and has two current steps. -/
def inquiryOpened : List Happening :=
  [.asked (.createEntry "inquiry"), .asked (.setEntryState 1 .activated),
    .asked (.createStep { entryId := 1, defId := 1, startDate := ⟨0, 0⟩, status := "Open" }),
    .asked (.createStep { entryId := 1, defId := 2, startDate := ⟨0, 0⟩, status := "Asked" })]

/-- The active entry. -/
def inquiryEntry : Entry :=
  ⟨1, "inquiry", .activated, ⟨0, 0⟩⟩

/-- The entry is killed once Bob has called. The first step was closed for Ann, and the second one,
on which her closing had been noted already, for Bob. -/
theorem inquiry_killed :
    let start := World.through {} inquiryOpened
    let before := start.attempted inquiryEntry.id .killed [.byAnn, .byNobody]
    let reply := Attempt.byBob.make inquiryEntry.id .killed before
    (before.store.currentSteps inquiryEntry.id).map (fun step => (step.id, step.caller)) =
        [(2, some "ann")] ∧
      reply.result = .ok () ∧
      reply.world.store.findEntry? inquiryEntry.id = some { inquiryEntry with state := .killed } ∧
      reply.world.store.currentSteps inquiryEntry.id = [] ∧
      (reply.world.store.historySteps inquiryEntry.id).map
        (fun step => (step.id, step.actionId, step.status, step.finishDate, step.caller)) =
          [(1, 0, "Finished", some ⟨1, 0⟩, some "ann"),
            (2, 0, "Finished", some ⟨3, 0⟩, some "bob")] := by
  intro start before reply
  have found : start.store.findEntry? inquiryEntry.id = some inquiryEntry := by decide +kernel
  have ends : EntryState.killed.isTerminal = true := rfl
  have edge : inquiryEntry.state.canMoveTo .killed = true := rfl
  have succeeded : reply.result = .ok () := ok_of_eval (by decide +kernel)
  have noted : (before.store.currentSteps inquiryEntry.id).map (fun step => (step.id, step.caller)) =
      [(2, some "ann")] := by
    decide +kernel
  have afterAnn : ((start.attempted inquiryEntry.id .killed [.byAnn]).store.historySteps
      inquiryEntry.id).map (·.id) = [1] := by
    decide +kernel
  have afterNobody : (before.store.historySteps inquiryEntry.id).map (·.id) = [1] := by
    decide +kernel
  have opened : (start.store.currentSteps inquiryEntry.id).map (·.id) = [1, 2] := by decide +kernel
  have unleft : start.store.historySteps inquiryEntry.id = [] := by decide +kernel
  obtain ⟨-, succeeds, -⟩ :=
    Engine.endings_resume inquiryOpened found ends edge [.byAnn, .byNobody] .byBob
  obtain ⟨killed, rested, shares, made, all, histories⟩ := succeeds succeeded
  have opening : World.through {} inquiryOpened = start := rfl
  rw [opening] at killed rested all histories
  clear_value start
  -- what each call has swept is seen from the history after it
  have count : shares.length = 3 := by rw [← List.length_map, made]; rfl
  obtain ⟨first, second, third, rfl⟩ := List.length_eq_three.mp count
  obtain ⟨isAnn, -, isBob⟩ : first.1 = .byAnn ∧ second.1 = .byNobody ∧ third.1 = .byBob := by
    simpa using made
  have ids (count : Nat) := congrArg (List.map (·.id)) (histories count)
  simp only [List.map_append, List.map_flatMap, List.map_map, Function.comp_def, Closing.mark] at ids
  have isFirst : first.2.map (·.id) = [1] := by
    have later := (ids 1).symm.trans afterAnn
    simpa [unleft] using later
  have isSecond : second.2.map (·.id) = [] := by
    have later := (ids 2).symm.trans afterNobody
    simpa [unleft, isFirst] using later
  have isThird : third.2.map (·.id) = [2] := by
    have later := (congrArg (List.map (·.id)) all).trans opened
    simpa [isFirst, isSecond] using later
  obtain ⟨own, swept, isOwn⟩ := List.map_eq_singleton_iff.mp isFirst
  have unswept := List.map_eq_nil_iff.mp isSecond
  obtain ⟨other, sweptThen, isOther⟩ := List.map_eq_singleton_iff.mp isThird
  have history : reply.world.store.historySteps inquiryEntry.id =
      [Attempt.byAnn.closing.mark own, Attempt.byBob.closing.mark other] := by
    refine (histories 3).trans ?_
    simp [unleft, swept, unswept, sweptThen, isAnn, isBob]
  refine ⟨noted, succeeded, killed, rested, ?_⟩
  rw [history, ← isOwn, ← isOther]
  rfl

end Caseflow
