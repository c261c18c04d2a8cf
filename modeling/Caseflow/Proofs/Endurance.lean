import Caseflow.Proofs.Upholding
/-! What endures. A property of worlds that survives requests, the writing of properties and the
notes that are taken on the way is kept by whatever an engine computes, with any extensions and
wherever it fails: an engine does nothing else to a world. -/
namespace Caseflow

open Run

/-- The property of worlds survives any request, the writing of properties, and the passing of time
with quiet events, among which are the calls of extensions. -/
structure World.Enduring (quiet : Event → Prop) (kept : World → Prop) : Prop where
  calls : ∀ event, Event.isCall event = true → quiet event
  served : ∀ {world request answer after}, kept world → World.Served world request answer after →
    kept after
  written : ∀ {world} entry change, kept world →
    kept { world with store := world.store.modifyProperties entry change }
  passed : ∀ {world} outages now {events}, kept world → (∀ event ∈ events, quiet event) →
    kept { world.note events with outages, now }

namespace World.Enduring

variable {quiet : Event → Prop} {kept : World → Prop} (enduring : Enduring quiet kept)

include enduring

theorem noted {world : World} {calls : List Event} (holds : kept world)
    (areCalls : ∀ event ∈ calls, Event.isCall event = true) : kept (world.note calls) :=
  enduring.passed world.outages world.now holds fun event member =>
    enduring.calls event (areCalls event member)

theorem observed {start world : World} (holds : kept start) (observed : Observed start world) :
    kept world := by
  obtain ⟨calls, areCalls, reached⟩ := observed.journal
  have same : world = { start.note calls with outages := world.outages, now := world.now } := by
    rw [note, ← reached, ← observed.store]
  rw [same]
  exact enduring.passed _ _ holds fun event member => enduring.calls event (areCalls event member)

theorem request_keeps (request : StoreRequest) :
    Keeps kept (fun _ => True) (Run.request request) :=
  keeps_request (fun _ => trivial) fun _ _ _ holds served => enduring.served holds served

theorem looks_keep {α : Type} {computation : Run World α} {admitted : Failure → Prop}
    (looks : Looks admitted computation) : Keeps kept (fun _ => True) computation :=
  keeps_mono (keeps_of_looks looks fun _ _ holds areCalls => enduring.noted holds areCalls)
    fun _ _ => trivial

/-- Whatever the program of a function does, it does by requests, by writing properties, or to the
scope. -/
theorem perform_keeps (program : Program) :
    Keeps (fun turn => kept turn.world) (fun _ => True) (Turn.perform program) := by
  induction program with
  | done => exact keeps_done ()
  | fail failure => exact keeps_fail trivial
  | look next ih => exact keeps_andThen keeps_read fun turn => ih turn.scope turn.properties
  | amend change next ih => exact keeps_andThen (keeps_change fun _ holds => holds) fun _ => ih
  | putProperty name value next ih =>
    exact keeps_andThen (keeps_change fun _ holds => enduring.written _ _ holds) fun _ => ih
  | dropProperty name next ih =>
    exact keeps_andThen (keeps_change fun _ holds => enduring.written _ _ holds) fun _ => ih
  | ask request next ih =>
    refine keeps_andThen (fun turn holds => ?_) ih
    exact enduring.served holds (turn.world.ask_served request)

/-- Any extensions keep what endures. -/
theorem hosts (kit : Toolkit) : kit.Hosts (fun _ => True) fun turn => kept turn.world where
  functions calls := by
    unfold Toolkit.runFunctions
    refine keeps_each fun call _ => keeps_bind keeps_read fun turn => ?_
    unfold Toolkit.callFunction
    refine keeps_bind Toolkit.scopeNow_keeps fun scope => ?_
    refine keeps_ofExcept_bind (fun _ _ => trivial) fun function _ => ?_
    refine keeps_bind (Turn.onWorld_keeps (keeps_change fun world holds => ?_)) fun _ =>
      enduring.perform_keeps _
    exact enduring.noted holds (by simp [Event.isCall])
  validators calls := by
    unfold Toolkit.runValidators
    refine keeps_each fun call _ => keeps_bind keeps_read fun turn => ?_
    exact Turn.onWorld_keeps
      (enduring.looks_keep (Toolkit.callValidator_looks kit.extensions.refuses_any _ _))
  guards tree stepId := by
    unfold Toolkit.passesNow
    refine keeps_bind keeps_read fun turn => ?_
    exact Turn.onWorld_keeps
      (enduring.looks_keep (Toolkit.treePasses_looks kit.extensions.refuses_any tree))
  availability candidate stepId := by
    unfold Toolkit.isAvailable
    refine keeps_bind keeps_read fun turn => ?_
    split
    · exact keeps_pure _
    · refine keeps_bind (Turn.onWorld_keeps (enduring.looks_keep
        (Toolkit.mayFire_looks kit.extensions.refuses_any _))) fun _ => ?_
      exact keeps_bind (keeps_change fun _ holds => holds) fun _ => keeps_pure _

theorem carried : Turn.Carried (fun _ => True) fun turn => kept turn.world where
  own _ _ := trivial
  amended _ _ holds _ := holds
  looked _ _ _ _ holds served := enduring.served holds served
  finished _ _ _ _ _ holds served := enduring.served holds served
  moved _ _ _ _ holds served := enduring.served holds served
  created _ _ _ _ holds _ served := enduring.served holds served

theorem move_keeps (finishedStatus : String) (entryId : EntryId) (target : EntryState)
    (actionId : ActionId) (caller : Option String) :
    Keeps kept (fun _ => True) (Lifecycle.move finishedStatus entryId target actionId caller) :=
  Lifecycle.move_keeps (fun _ => trivial) (fun _ _ _ => trivial)
    (fun request _ => enduring.request_keeps request) _ _ _ _ _

/-- An executed action keeps what still holds once it has begun. -/
theorem execute_meets (kit : Toolkit) (chosen : ScopedAction) (turn : Turn)
    (begins : kept (turn.world.note [.actionBegun turn.scope.entry.id chosen.key])) :
    Meets (· = turn) (kit.execute chosen) (fun _ after => kept after.world)
      fun _ after => kept after.world ∧ True :=
  Toolkit.execute_meets enduring.carried.toBears (Toolkit.closeStep_keeps enduring.carried)
    (enduring.hosts kit) enduring.move_keeps (fun _ _ => trivial) chosen turn begins

end World.Enduring

/-- An engine with any extensions upholds what endures whatever is noted. -/
theorem World.Enduring.upholds {kept : World → Prop} (enduring : Enduring (fun _ => True) kept)
    (engine : Engine) : engine.Upholds kept fun _ => True where
  toAdmits := engine.admits_any
  looked := enduring.observed
  executed chosen turn holds := by
    have begins : kept (turn.world.note [.actionBegun turn.scope.entry.id chosen.key]) :=
      enduring.passed turn.world.outages turn.world.now holds fun _ _ => trivial
    exact enduring.execute_meets engine.kit chosen turn begins
  moved := enduring.move_keeps

end Caseflow
