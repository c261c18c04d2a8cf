import Caseflow.Proofs.BuiltinHooks
import Caseflow.Proofs.Calls
/-! Runs: what any number of engines with the built-in extensions can make of a new store, by calls
in any order, with any method of the store failing at any time. Whatever a run does, the states of
every entry go along the edges of the lifecycle, and an entry at its end is at rest for good. -/
namespace Caseflow

open Run

/-- A call that changes something. -/
inductive Operation where
  | start (workflow : String) (actionId : ActionId) (inputs : Values)
  | act (entry : EntryId) (actionId : ActionId) (inputs : Values)
  | changeState (entry : EntryId) (target : EntryState)
  | setProperty (entry : EntryId) (name : String) (value : Json)

namespace Engine

/-- The world after a call of the engine, whether it succeeds or fails. -/
def perform (engine : Engine) (world : World) : Operation → World
  | .start workflow actionId inputs => (engine.startEntry workflow actionId inputs world).world
  | .act entry actionId inputs => (engine.doAction entry actionId inputs world).world
  | .changeState entry target => (engine.changeState entry target world).world
  | .setProperty entry name value => (setProperty entry name value world).2

/-- The engine works with the built-in extensions. -/
def Standard (engine : Engine) : Prop :=
  engine.kit.extensions = Builtin.extensions

theorem Standard.modest {engine : Engine} (standard : engine.Standard) :
    engine.kit.extensions.Modest Builtin.Refusal := by
  rw [standard]
  exact Builtin.extensions_modest

theorem perform_tidy {engine : Engine} (standard : engine.Standard) {around : Surroundings}
    {world : World} (tidy : world.Tidy around) (operation : Operation) :
    (engine.perform world operation).Tidy around := by
  cases operation with
  | start workflow actionId inputs => exact startEntry_tidy standard.modest tidy _ _ _
  | act entry actionId inputs => exact doAction_tidy standard.modest tidy _ _ _
  | changeState entry target => exact changeState_tidy tidy _ _
  | setProperty entry name value => exact setProperty_tidy tidy _ _ _

/-- No call has a hand in when the store falls out of order. -/
theorem perform_verdict {engine : Engine} (standard : engine.Standard) {world : World}
    (orderly : Orderly world.store world.journal) (operation : Operation) :
    (engine.perform world operation).outages.verdict = world.outages.verdict := by
  have tidy : world.Tidy ⟨world.outages.verdict, []⟩ := ⟨orderly, rfl, List.nil_prefix⟩
  exact (perform_tidy standard tidy operation).verdict

end Engine

/-- Calls of standard engines lead from one world to the other. Between the calls the time goes on,
the store falls out of order and recovers, and the entries may be looked at. -/
inductive World.Leads (start : World) : World → Prop where
  | here : Leads start start
  | call {world : World} {engine : Engine} (before : Leads start world)
      (standard : engine.Standard) (operation : Operation) :
      Leads start (engine.perform world operation)
  | meanwhile {world : World} {calls : List Event} (before : Leads start world)
      (outages : Outages) (now : Instant)
      (areCalls : ∀ event ∈ calls, Event.isCall event = true) :
      Leads start { world.note calls with outages, now }

/-- The outages and the time may be as at first again. -/
theorem World.Leads.recovered {start world : World} (leads : start.Leads world) {store : Store}
    (stored : world.store = store) : start.Leads { store, journal := world.journal } := by
  have areCalls : ∀ event ∈ ([] : List Event), Event.isCall event = true := by simp
  subst stored
  simpa [World.note] using leads.meanwhile {} ⟨0, 0⟩ areCalls

/-- Calls of standard engines lead to the world from a new store. -/
def World.Reachable (world : World) : Prop :=
  ∃ outages now, World.Leads { outages, now } world

theorem World.Leads.keeps {start world : World} (leads : start.Leads world)
    (orderly : Orderly start.store start.journal) :
    Orderly world.store world.journal ∧ start.journal <+: world.journal := by
  induction leads with
  | here => exact ⟨orderly, List.prefix_rfl⟩
  | @call world engine before standard operation ih =>
    have tidy : world.Tidy ⟨world.outages.verdict, start.journal⟩ := ⟨ih.1, rfl, ih.2⟩
    have after := Engine.perform_tidy standard tidy operation
    exact ⟨after.orderly, after.grown⟩
  | meanwhile before outages now areCalls ih =>
    exact ⟨ih.1.note (silent_calls areCalls), ih.2.trans (List.prefix_append _ _)⟩

/-- Every world that calls lead to from a new store is orderly. -/
theorem World.Reachable.orderly {world : World} (reachable : world.Reachable) :
    Orderly world.store world.journal := by
  obtain ⟨outages, now, leads⟩ := reachable
  exact (leads.keeps .new).1

namespace FollowsLifecycle

variable {states : List EntryState}

/-- A state after another one is reached along an edge. -/
theorem edge (follows : FollowsLifecycle states) (before after : List EntryState)
    {earlier later : EntryState} (split : states = before ++ earlier :: later :: after) :
    earlier.canMoveTo later = true := by
  have steps := follows.steps
  rw [split, List.isChain_append] at steps
  exact (List.isChain_cons_cons.mp steps.2.1).1

/-- No edge leads to the unknown state. -/
theorem known (follows : FollowsLifecycle states) : .unknown ∉ states := by
  intro member
  obtain ⟨before, after, split⟩ := List.append_of_mem member
  rcases List.eq_nil_or_concat before with rfl | ⟨earlier, last, rfl⟩
  · have first := follows.starts .unknown (by simp [split])
    cases first
  · have edge := follows.edge earlier after (by simpa using split)
    cases last <;> cases edge

/-- No edge leads from a terminal state. -/
theorem ends (follows : FollowsLifecycle states) (before after : List EntryState)
    {state : EntryState} (split : states = before ++ state :: after)
    (terminal : state.isTerminal = true) : after = [] := by
  cases after with
  | nil => rfl
  | cons next rest =>
    have edge := follows.edge before rest split
    cases state <;> cases terminal <;> cases next <;> cases edge

end FollowsLifecycle

/-- In every run the states of an entry begin with `created`, go along the edges of the lifecycle,
and end in the stored one; later calls only add to them, and none of them is unknown. An entry that
has reached a terminal state keeps it, and has no current step. -/
theorem lifecycle_of_run {world later : World} (reachable : world.Reachable)
    (leads : world.Leads later) (id : EntryId) :
    FollowsLifecycle (statesTold later.journal id) ∧
      (statesTold later.journal id).getLast? = (later.store.findEntry? id).map (·.state) ∧
      statesTold world.journal id <+: statesTold later.journal id ∧
      .unknown ∉ statesTold later.journal id ∧
      (∀ entry, world.store.findEntry? id = some entry → entry.state.isTerminal = true →
        statesTold later.journal id = statesTold world.journal id ∧
        (later.store.findEntry? id).map (·.state) = some entry.state) ∧
      (∀ entry, later.store.findEntry? id = some entry → entry.state.isTerminal = true →
        later.store.currentSteps id = []) := by
  obtain ⟨orderly, grown⟩ := leads.keeps reachable.orderly
  have before := reachable.orderly
  have added : statesTold world.journal id <+: statesTold later.journal id := grown.filterMap _
  refine ⟨orderly.follows id, orderly.told id, added, (orderly.follows id).known, ?_,
    orderly.rested id⟩
  intro entry found terminal
  obtain ⟨more, reached⟩ := added
  have last : (statesTold world.journal id).getLast? = some entry.state := by
    rw [before.told, found]
    rfl
  obtain ⟨earlier, split⟩ := List.getLast?_eq_some_iff.mp last
  have nothing : more = [] := by
    refine (orderly.follows id).ends earlier more ?_ terminal
    rw [← reached, split, List.append_assoc, List.singleton_append]
  have same : statesTold later.journal id = statesTold world.journal id := by
    rw [← reached, nothing, List.append_nil]
  exact ⟨same, by rw [← orderly.told, same, last]⟩

/-- A workflow that is over as soon as it has begun. -/
def brief : Blueprint where
  name := "brief"
  initialActions :=
    [{ id := 1, name := "pass", finish := true, unconditionalOutcome := some { target := .step 1 } }]
  steps := [{ id := 1, name := "never entered" }]

/-- An engine that knows the brief workflow. -/
def briefEngine : Engine where
  catalog := ((default : Catalog).register brief).toOption.getD default

/-- The world after the brief workflow was started. -/
def briefWorld : World :=
  briefEngine.perform {} (.start "brief" 1 ∅)

theorem lifecycle_of_brief_run :
    World.Reachable briefWorld ∧
      World.Leads briefWorld (briefEngine.perform briefWorld (.changeState 1 .killed)) ∧
      statesTold briefWorld.journal 1 = [.created, .activated, .completed] ∧
      statesTold (briefEngine.perform briefWorld (.changeState 1 .killed)).journal 1 =
        statesTold briefWorld.journal 1 := by
  have standard : briefEngine.Standard := rfl
  have reachable : World.Reachable briefWorld := ⟨{}, ⟨0, 0⟩, .call .here standard _⟩
  have leads : World.Leads briefWorld (briefEngine.perform briefWorld (.changeState 1 .killed)) :=
    .call .here standard _
  obtain ⟨-, -, -, -, terminal, -⟩ := lifecycle_of_run reachable leads 1
  have completed : (briefWorld.store.findEntry? 1).map (·.state) = some .completed := by
    decide +kernel
  obtain ⟨entry, found, state⟩ := Option.map_eq_some_iff.mp completed
  exact ⟨reachable, leads, by decide +kernel, (terminal entry found (by rw [state]; rfl)).1⟩

end Caseflow
