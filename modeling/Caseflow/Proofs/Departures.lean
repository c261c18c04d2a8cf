import Caseflow.Proofs.Authorization
import Caseflow.Proofs.BuiltinHooks
import Caseflow.Proofs.Ledgers
/-! How an action departs. Up to the choice of its outcome only hooks run, so the steps that the
turn shows are still the current ones, and the step being left is one of them. What is done to the
steps from then on is kept in a ledger. -/
namespace Caseflow

open Run

namespace Toolkit

/-- The choice of the outcome, once the step being left is known. -/
def choose (kit : Toolkit) (chosen : ScopedAction) (scope : Scope) (leaving : Option Step) :
    Run Turn Outcome := do
  kit.runValidators chosen.action.validators
  kit.leaveStep scope.blueprint leaving
  kit.runFunctions chosen.action.preFunctions
  let outcome ← kit.selectOutcome chosen.action ((leaving.map (·.defId)).getD (-1))
  kit.runValidators outcome.validators
  kit.runFunctions outcome.preFunctions
  return outcome

/-- What an action leaves and the outcome it takes, before it takes it. -/
def ready (kit : Toolkit) (chosen : ScopedAction) (scope : Scope) :
    Run Turn (Option Step × Outcome) := do
  let leaving ← kit.leavingStep chosen.id
  let outcome ← kit.choose chosen scope leaving
  return (leaving, outcome)

/-- What follows on the outcome. -/
def conclude (kit : Toolkit) (chosen : ScopedAction) (scope : Scope) (outcome : Outcome) :
    Run Turn Progress := do
  kit.runFunctions outcome.postFunctions
  kit.runFunctions chosen.action.postFunctions
  kit.activate scope.entry.id chosen.scope
  kit.finish scope.entry.id chosen.action

/-- An action gets ready, takes its outcome and concludes. -/
theorem execute_ready (kit : Toolkit) (chosen : ScopedAction) (turn : Turn) :
    kit.execute chosen turn =
      (kit.ready chosen turn.scope >>= fun readied => do
        kit.takeOutcome chosen.action readied.2 readied.1
        kit.conclude chosen turn.scope readied.2) (turn.begun chosen) := by
  rw [execute_begun]
  unfold ready depart choose conclude
  simp only [bind_assoc]
  rfl

end Toolkit

namespace Turn

/-- The turn shows an entry as it is stored, with all its current steps. -/
structure Fresh (turn : Turn) : Prop where
  lineal : turn.world.store.Lineal
  known : (turn.world.store.findEntry? turn.scope.entry.id).isSome
  shown : turn.scope.currentSteps = turn.world.store.currentSteps turn.scope.entry.id

/-- Since `start` only fitting requests were put, and the turn is about the entry. -/
structure Works (start : World) (id : EntryId) (turn : Turn) : Prop where
  own : turn.scope.entry.id = id
  proceeds : start.Proceeds turn.world

/-- The turn is about the entry, whose ledger is right. -/
structure Tracks (start : World) (id : EntryId) (ledger : Ledger) (turn : Turn) : Prop where
  own : turn.scope.entry.id = id
  tracks : start.Tracks id ledger turn.world

/-- The turn shows the steps and the blueprint, and its ledger is right. -/
structure Displays (start : World) (id : EntryId) (ledger : Ledger) (steps : List Step)
    (blueprint : Blueprint) (turn : Turn) : Prop extends Tracks start id ledger turn where
  steps : turn.scope.currentSteps = steps
  blueprint : turn.scope.blueprint = blueprint

/-- A failure stopped the turn, with the store as told. -/
def Breaks (start : World) (left : Store → Prop) (failure : Failure) (turn : Turn) : Prop :=
  start.Breaks left failure turn.world

variable {start : World} {id : EntryId} {ledger : Ledger} {α : Type}

theorem Tracks.works {turn : Turn} (tracks : Tracks start id ledger turn) : Works start id turn :=
  ⟨tracks.own, tracks.tracks.proceeds⟩

theorem works_stable : Stable (Works start id) := by
  intro before after hooked works
  obtain ⟨bindings, scope⟩ := hooked.scope
  constructor
  · rw [scope]
    exact works.own
  · exact works.proceeds.trans hooked.proceeds

theorem tracks_stable : Stable (Tracks start id ledger) := by
  intro before after hooked tracks
  obtain ⟨own, proceeds⟩ := works_stable hooked tracks.works
  obtain ⟨change, store⟩ := hooked.store
  refine ⟨own, proceeds, ?_, ?_, ?_⟩
  · simpa [store] using tracks.tracks.opened
  · simpa [store] using tracks.tracks.closed
  · simpa [store] using tracks.tracks.counted

/-- The ledger of a turn with all the steps that it shows. -/
def opening (turn : Turn) : Ledger :=
  ⟨turn.scope.currentSteps.map (·.id), [], turn.world.store.stepCount⟩

theorem mem_opening (turn : Turn) :
    ∀ step ∈ turn.scope.currentSteps, step.id ∈ turn.opening.opened :=
  fun _ member => List.mem_map_of_mem member

theorem Fresh.handles {turn : Turn} (fresh : turn.Fresh) :
    Handles turn.scope.entry.id turn.scope.currentSteps := by
  rw [fresh.shown]
  exact fresh.lineal.handles _

/-- While only hooks run, what a turn shows of its entry stays right. -/
theorem Fresh.displays {turn now : Turn} (fresh : turn.Fresh) {chosen : ScopedAction}
    (hooked : (turn.begun chosen).Hooked now) :
    Displays turn.world turn.scope.entry.id turn.opening turn.scope.currentSteps turn.scope.blueprint
      now := by
  have begun : Tracks turn.world turn.scope.entry.id turn.opening (turn.begun chosen) := by
    refine ⟨rfl, .noted .here _, ?_, nofun, rfl⟩
    intro step member
    have current : step ∈ turn.world.store.currentIds turn.scope.entry.id := by
      rw [Store.currentIds, ← fresh.shown]
      exact member
    exact current
  obtain ⟨bindings, scope⟩ := hooked.scope
  refine ⟨tracks_stable hooked begun, ?_, ?_⟩
  · rw [scope]
    rfl
  · rw [scope]
    rfl

theorem tracks_onWorld {computation : Run World α} {answered : α → World → Prop}
    {left : Store → Prop}
    (meets : Meets (start.Tracks id ledger) computation answered (start.Breaks left)) :
    Meets (Tracks start id ledger) (onWorld computation)
      (fun value turn => turn.scope.entry.id = id ∧ answered value turn.world)
      (Breaks start left) := by
  refine meets_within fun turn tracks => ?_
  refine meets_mono meets ?_ (fun _ _ ends => ⟨tracks.own, ends⟩) fun _ _ ends => ends
  rintro _ rfl
  exact tracks.tracks

/-- A hook that fails has left the ledger as it was. -/
theorem tracks_keeps {computation : Run Turn α}
    (keeps : Keeps (Tracks start id ledger) start.Explains computation) :
    Meets (Tracks start id ledger) computation (fun _ => Tracks start id ledger)
      (Breaks start (Store.Counts ledger.count)) :=
  meets_failures keeps fun _ _ ends =>
    ⟨ends.1.tracks.proceeds, ends.2, ends.1.tracks.counted⟩

theorem tracks_amend {amend : Scope → Scope} {failed : Failure → Turn → Prop}
    (entry : ∀ scope, (amend scope).entry = scope.entry) :
    Meets (Tracks start id ledger) (amendScope amend) (fun _ => Tracks start id ledger) failed := by
  refine meets_change fun turn tracks => ⟨?_, tracks.tracks⟩
  show (amend turn.scope).entry.id = id
  rw [entry]
  exact tracks.own

end Turn

namespace Toolkit

variable {kit : Toolkit} {start : World} {id : EntryId} {ledger : Ledger}

/-! ### The step being left -/

section Leaving

variable {kept : Turn → Prop} {refused : Failure → Prop} (hosts : kit.Hosts refused kept)
  {steps : List Step}

include hosts

private theorem firstOffering_shown (blueprint : Blueprint) (actionId : ActionId) {rest : List Step}
    (within : ∀ step ∈ rest, step ∈ steps) :
    Meets kept (kit.firstOffering blueprint actionId rest)
      (fun leaving turn => (∀ step ∈ leaving, step ∈ steps) ∧ kept turn)
      (fun failure turn => kept turn ∧ refused failure) := by
  induction rest with
  | nil => exact meets_done fun _ holds => ⟨by simp, holds⟩
  | cons step rest ih =>
    have later := ih fun other member => within other (List.mem_cons_of_mem _ member)
    unfold firstOffering
    split
    · exact later
    · refine meets_andThen (hosts.availability _ _) fun available => ?_
      cases available with
      | true => exact meets_done fun _ holds => ⟨by simpa using within step (by simp), holds⟩
      | false => exact later

/-- The step being left is one of those that the turn shows. -/
theorem leavingStep_shown (shown : ∀ turn, kept turn → turn.scope.currentSteps = steps)
    (actionId : ActionId) :
    Meets kept (kit.leavingStep actionId)
      (fun leaving turn => (∀ step ∈ leaving, step ∈ steps) ∧ kept turn)
      (fun failure turn => kept turn ∧ refused failure) := by
  unfold leavingStep
  refine meets_scopeNow_bind fun turn holds => ?_
  rw [shown turn holds]
  split
  · exact meets_pure fun _ holds => ⟨by simp, holds⟩
  · exact firstOffering_shown hosts _ _ fun _ member => member

end Leaving

/-- The choice of the outcome is up to hooks. -/
theorem choose_keeps {kept : Turn → Prop} (hosts : kit.Hosts start.Explains kept)
    (chosen : ScopedAction) (scope : Scope) (leaving : Option Step) :
    Keeps kept start.Explains (kit.choose chosen scope leaving) := by
  have left : Keeps kept start.Explains (kit.leaveStep scope.blueprint leaving) := by
    cases leaving with
    | none => exact keeps_done ()
    | some step => exact keeps_bind (keeps_ofOption nofun) fun _ => hosts.functions _
  have selected : Keeps kept start.Explains
      (kit.selectOutcome chosen.action ((leaving.map (·.defId)).getD (-1))) := by
    unfold selectOutcome
    refine keeps_bind (firstPassing_keeps hosts.guards _ _) fun found => ?_
    split
    · exact keeps_pure _
    · exact keeps_ofOption nofun
  unfold choose
  refine keeps_bind (hosts.validators _) fun _ => ?_
  refine keeps_bind left fun _ => ?_
  refine keeps_bind (hosts.functions _) fun _ => ?_
  refine keeps_bind selected fun outcome => ?_
  refine keeps_bind (hosts.validators _) fun _ => ?_
  exact keeps_bind (hosts.functions _) fun _ => keeps_pure outcome

/-- While an action gets ready its entry and the steps shown stay as they are, and the step being
left is one of those. -/
theorem ready_hooked (standard : kit.extensions = Builtin.extensions) (chosen : ScopedAction)
    (turn : Turn) :
    Meets (· = turn.begun chosen) (kit.ready chosen turn.scope)
      (fun ready now => (∀ step ∈ ready.1, step ∈ turn.scope.currentSteps) ∧
        (turn.begun chosen).Hooked now)
      (fun failure now => (turn.begun chosen).Hooked now ∧ turn.world.Explains failure) := by
  have proceeds (now : Turn) (hooked : (turn.begun chosen).Hooked now) :
      turn.world.Proceeds now.world :=
    (World.Proceeds.here.noted _).trans hooked.proceeds
  have hosts : kit.Hosts turn.world.Explains (turn.begun chosen).Hooked :=
    Builtin.hosts_explained (fun _ _ later hooked => hooked.trans later) proceeds standard
  have shown (now : Turn) (hooked : (turn.begun chosen).Hooked now) :
      now.scope.currentSteps = turn.scope.currentSteps := by
    obtain ⟨bindings, scope⟩ := hooked.scope
    rw [scope]
    rfl
  unfold ready
  refine meets_at ?_ (Turn.Hooked.refl (turn.begun chosen))
  refine meets_bind (leavingStep_shown hosts shown chosen.id) fun leaving => ?_
  refine meets_given fun isShown => ?_
  refine meets_bind (choose_keeps hosts chosen turn.scope leaving) fun outcome => ?_
  exact meets_pure fun _ hooked => ⟨isShown, hooked⟩

end Toolkit

end Caseflow
