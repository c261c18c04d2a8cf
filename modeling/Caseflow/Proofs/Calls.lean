import Caseflow.Proofs.Settling
/-! The calls of an engine. Each leaves a tidy world, whatever stops it. An action that is turned
down has only been looked at; once it is selected, what stops it comes from a hook, from the store
or from the set-up; and an action that follows on its own is pending when the chain turns to it. -/
namespace Caseflow

open Run

/-- The world after a call is the one its computation ends in. -/
theorem Reply.world_ofRun {α : Type} (marks : Failure → Bool) (computation : Run World α)
    (world : World) : (Reply.ofRun marks computation world).world = (computation world).2 := by
  unfold Reply.ofRun
  split <;> simp_all

theorem Reply.result_ofRun {α : Type} (marks : Failure → Bool) (computation : Run World α)
    (world : World) : (Reply.ofRun marks computation world).result = (computation world).1 := by
  unfold Reply.ofRun
  split <;> simp_all

/-- A call that succeeds is one whose computation answers. -/
theorem Reply.of_answered {α : Type} {marks : Failure → Bool} {computation : Run World α}
    {world : World} {value : α}
    (answered : (Reply.ofRun marks computation world).result = .ok value) :
    computation world = (.ok value, (Reply.ofRun marks computation world).world) := by
  unfold Reply.ofRun at answered ⊢
  split at answered
  · rename_i reached
    cases answered
    rw [reached]
  · cases answered

/-- A failed call is one whose computation fails, and is marked as its failure tells. -/
theorem Reply.of_failed {α : Type} {marks : Failure → Bool} {computation : Run World α}
    {world : World} {failure : Failure}
    (failed : (Reply.ofRun marks computation world).result = .error failure) :
    computation world = (.error failure, (Reply.ofRun marks computation world).world) ∧
      (Reply.ofRun marks computation world).rollback = marks failure := by
  unfold Reply.ofRun at failed ⊢
  split at failed
  · cases failed
  · rename_i reached
    cases failed
    rw [reached]
    exact ⟨rfl, rfl⟩

namespace Engine

variable {engine : Engine} {entryId : EntryId} {inputs : Values} {around : Surroundings}
  {admitted : ExtensionKind → Failure → Prop}

/-- The failures of all kinds of extensions together. -/
abbrev OfSomeKind (admitted : ExtensionKind → Failure → Prop) (failure : Failure) : Prop :=
  ∃ kind, admitted kind failure

/-- What stops a call after it has selected an action: a transition is refused, or the entry is
lost. -/
inductive Broken (admitted : ExtensionKind → Failure → Prop) (around : Surroundings)
    (entryId : EntryId) : Failure → Prop where
  | refused {failure : Failure} (cause : Toolkit.Refusal (OfSomeKind admitted) failure) :
      Broken admitted around entryId failure
  | lost (lost : ¬ around.Candid) : Broken admitted around entryId (.entryNotFound entryId)

/-- The world is tidy, and what is to follow in it has been found out. -/
structure Following (engine : Engine) (entryId : EntryId) (inputs : Values) (around : Surroundings)
    (next : Option ActionId) (world : World) : Prop extends world.Tidy around where
  follows : engine.Follows entryId inputs next world.store

/-- Only actions that can be selected on an active entry are candidates. -/
theorem not_initial_of_candidate {blueprint : Blueprint} {steps : List Step} {actionId : ActionId}
    {candidate : Candidate} (member : candidate ∈ Toolkit.candidatesFor blueprint steps actionId) :
    candidate.1.scope ≠ .initial := by
  unfold Toolkit.candidatesFor at member
  rcases List.mem_append.mp member with isGlobal | offered
  · obtain ⟨chosen, numbered, rfl⟩ := List.mem_map.mp isGlobal
    obtain ⟨action, -, rfl⟩ := List.mem_map.mp (List.mem_filter.mp numbered).1
    simp
  · obtain ⟨step, -, offer⟩ := List.mem_filterMap.mp offered
    obtain ⟨chosen, found, rfl⟩ := Option.map_eq_some_iff.mp offer
    have offers := List.mem_of_find?_eq_some found
    unfold Blueprint.actionsForStep at offers
    split at offers
    · cases offers
    · rcases List.mem_append.mp offers with own | common
      · obtain ⟨action, -, rfl⟩ := List.mem_map.mp own
        simp
      · obtain ⟨number, -, declared⟩ := List.mem_filterMap.mp common
        obtain ⟨action, -, rfl⟩ := Option.map_eq_some_iff.mp declared
        simp

private theorem broken_of_stopped {entry : Entry} {declared : ActionScope} {failure : Failure}
    {world : World} (later : declared ≠ .initial) (active : entry.state = .activated)
    (stopped : Toolkit.Stopped (OfSomeKind admitted) around entry declared failure world) :
    world.Tidy around ∧ Broken admitted around entry.id failure := by
  cases stopped with
  | underway holds cause => exact ⟨holds.toTidy, .refused cause⟩
  | activating initial => exact absurd initial later
  | completing holds cause =>
    rw [entry.startedBy_later later] at holds cause
    refine ⟨holds.toTidy, ?_⟩
    cases cause with
    | store error => exact .refused (.store error)
    | absent lost => exact .lost lost
    | noEdge apart missing =>
      rw [active] at missing
      cases missing

private theorem broken_of_unsettled {entry : Entry} {blueprint : Blueprint} {failure : Failure}
    (known : engine.catalog.get entry.workflow = .ok blueprint)
    (unsettled : Unsettled engine admitted around entry failure) :
    Broken admitted around entry.id failure := by
  cases unsettled with
  | store error => exact .refused (.store error)
  | lost lost => exact .lost lost
  | unknown failed =>
    rw [known] at failed
    cases failed
  | hook kind was => exact .refused (.hook ⟨kind, was⟩)

/-- A chain ends where no action follows. -/
theorem chain_none (engine : Engine) (entryId : EntryId) (inputs : Values) (limit : Nat) :
    engine.chain entryId inputs limit none = done () := by
  cases limit <;> rfl

section Contracts

variable (modest : engine.kit.extensions.Modest admitted)

include modest

/-- A call on a tidy world leaves a tidy world. It is turned down without a trace, or it selects an
action. -/
theorem act_meets {start : World} (tidy : start.Tidy around) (actionId : ActionId) :
    Meets (World.Observed start) (engine.act entryId inputs actionId)
      (fun next => Following engine entryId inputs around next)
      (fun failure world => world.Tidy around ∧
        (World.Observed start world ∧
            Declined engine admitted entryId inputs actionId start failure ∨
          Broken admitted around entryId failure)) := by
  rw [act_eq]
  refine meets_bind (meets_failures (select_observes modest.toRefuses start)
    fun failure world ends => ⟨tidy.observed ends.1, .inl ends⟩)
    fun reached => meets_from fun _ selection => ?_
  obtain ⟨chosen, turn⟩ := reached
  obtain ⟨-, selected⟩ := selection
  have found := selected.sees.found
  have active := selected.sees.active
  obtain rfl : turn.scope.entry.id = entryId := Store.id_of_findEntry? found
  have works : turn.WorksOn turn.scope.entry around :=
    ⟨rfl, tidy.observed selected.observed, by rw [selected.observed.store]; exact found⟩
  have later : chosen.scope ≠ .initial := by
    obtain ⟨before, stepId, after, split, -⟩ := selected.granted
    exact not_initial_of_candidate (split ▸ List.mem_append_right before (List.mem_cons_self ..))
  have live : turn.scope.entry.state.isTerminal = false := by rw [active]; rfl
  have executes : Meets (Turn.WorksOn turn.scope.entry around) _ _ _ := Toolkit.execute_settles
    (Toolkit.hosts_of_modest Turn.worksOn_stable modest) live chosen
  refine meets_bind (meets_resume (meets_failures (meets_at executes works)
    fun failure turn stopped => ?_)) fun progress => ?_
  · obtain ⟨tidy, broke⟩ := broken_of_stopped later active stopped
    exact ⟨tidy, .inr broke⟩
  · have settles : Meets (World.Holds _ around) _ _ _ := settle_meets modest.toRefuses
      (turn.scope.entry.leftBy chosen.scope progress) inputs actionId progress
      (turn.scope.entry.state_leftBy (.inr active) progress)
    rw [Entry.id_leftBy] at settles
    refine meets_mono settles (fun _ holds => holds) (fun next world ends => ⟨ends.1, ends.2⟩)
      fun failure world ends => ⟨ends.1, .inr ?_⟩
    have known := selected.sees.known
    rw [← Entry.workflow_leftBy _ chosen.scope progress] at known
    have broke := broken_of_unsettled known ends.2
    rwa [Entry.id_leftBy] at broke

/-- What stops a chain of actions that follow one another on their own. -/
inductive ChainStopped (engine : Engine) (admitted : ExtensionKind → Failure → Prop)
    (entryId : EntryId) (inputs : Values) (around : Surroundings) (failure : Failure)
    (world : World) : Prop where
  | limit (reached : failure = .chainLimitExceeded engine.kit.settings.maxAutoChainDepth)
  | broken (cause : Broken admitted around entryId failure)
  | declined (start : World) (number : ActionId)
      (pending : engine.Pending entryId inputs start.store number)
      (observed : World.Observed start world)
      (cause : Declined engine admitted entryId inputs number start failure)

/-- A chain of actions leaves the entry at rest in a tidy world, and turns down an action only
where it is pending. -/
theorem chain_meets (limit : Nat) (next : Option ActionId) :
    Meets (Following engine entryId inputs around next) (engine.chain entryId inputs limit next)
      (fun _ world => world.Tidy around ∧ engine.AtRest entryId inputs world.store)
      (fun failure world => world.Tidy around ∧
        ChainStopped engine admitted entryId inputs around failure world) := by
  have rests {world : World} (following : Following engine entryId inputs around none world) :
      world.Tidy around ∧ engine.AtRest entryId inputs world.store :=
    ⟨following.toTidy, following.follows.rested rfl⟩
  induction limit generalizing next with
  | zero =>
    cases next with
    | none => exact meets_done fun _ => rests
    | some number => exact meets_fail fun _ following => ⟨following.toTidy, .limit rfl⟩
  | succ limit ih =>
    cases next with
    | none => exact meets_done fun _ => rests
    | some number =>
      refine meets_from fun start following => ?_
      refine meets_andThen (meets_failures (meets_at (act_meets modest following.toTidy number)
        (.refl start)) fun failure world ends => ⟨ends.1, ?_⟩) fun next => ih next
      rcases ends.2 with ⟨observed, declined⟩ | broken
      · exact .declined start number (following.follows.pending number rfl) observed declined
      · exact .broken broken

end Contracts

/-! ### Every call keeps a tidy world -/

private theorem tidy_after {α : Type} {computation : Run World α} {world : World}
    (tidy : world.Tidy around)
    (keeps : Keeps (World.Tidy around) (fun _ => True) computation) :
    (computation world).2.Tidy around :=
  keeps.after tidy

private theorem createEntry_meets (workflow : String) :
    Meets (World.Tidy around) (World.createEntry workflow)
      (fun entry world => entry.state = .created ∧ world.Holds entry around)
      (fun _ world => world.Tidy around) := by
  refine meets_request (fun world entry after tidy served => ?_)
    fun world error after tidy served => ?_
  · cases served with
    | answered entry store done =>
      have fresh : Entry.state entry = .created := by rw [(Store.createEntry_eq done).1]
      refine ⟨fresh, tidy.written (tidy.orderly.createEntry done) _, ?_⟩
      exact (Store.findEntry?_createEntry tidy.orderly.numbered done _).trans (if_pos rfl)
    | absent value lost => cases lost
  · cases served
    exact tidy.counted _

section Keeping

variable (modest : engine.kit.extensions.Modest admitted)

include modest

/-- A new entry is started or left where a failure stops it. -/
private theorem runInitial_meets {entry : Entry} (live : entry.state.isTerminal = false)
    (blueprint : Blueprint) (action : Action) (inputs : Values) :
    Meets (World.Holds entry around) (engine.runInitial entry blueprint action inputs)
      (fun next => Following engine entry.id inputs around next)
      (fun _ world => world.Tidy around) := by
  refine meets_from fun start holds => ?_
  rw [runInitial_eq]
  refine meets_bind (meets_failures (meets_at (initiate_observes modest.toRefuses start) (.refl start))
    fun _ _ observed => holds.toTidy.observed observed) fun reached => meets_from fun _ admission => ?_
  obtain ⟨_, turn⟩ := reached
  obtain ⟨-, observed, rfl, bindings, shown⟩ := admission
  have shows : turn.scope.entry = entry := congrArg Scope.entry shown
  have works : turn.WorksOn entry around := ⟨shows, holds.observed observed⟩
  have executes : Meets (Turn.WorksOn entry around) _ _ _ := Toolkit.execute_settles
    (Toolkit.hosts_of_modest Turn.worksOn_stable modest) live ⟨.initial, action⟩
  refine meets_bind (meets_resume (meets_failures (meets_at executes works)
    fun failure turn stopped => ?_)) fun progress => ?_
  · cases stopped with
    | underway holds => exact holds.toTidy
    | activating initial holds => exact holds.toTidy
    | completing holds => exact holds.toTidy
  · have settles : Meets (World.Holds _ around) _ _ _ := settle_meets modest.toRefuses
      (entry.leftBy .initial progress) inputs action.id progress
      (entry.state_leftBy (.inl rfl) progress)
    rw [Entry.id_leftBy] at settles
    exact meets_mono settles (fun _ holds => holds) (fun _ _ ends => ⟨ends.1, ends.2⟩)
      fun _ _ ends => ends.1

/-- The actions that follow on their own leave the entry at rest in a tidy world. -/
private theorem following_meets (next : Option ActionId) :
    Meets (Following engine entryId inputs around next)
      (engine.chain entryId inputs engine.kit.settings.maxAutoChainDepth next)
      (fun _ world => world.Tidy around ∧ engine.AtRest entryId inputs world.store)
      (fun _ world => world.Tidy around ∧ True) :=
  meets_failures (chain_meets modest _ next) fun _ _ ends => ⟨ends.1, trivial⟩

/-- The initial action of a new entry and those that follow it on their own leave the entry at
rest. -/
theorem entering_meets {entry : Entry} (live : entry.state.isTerminal = false)
    (blueprint : Blueprint) (action : Action) (inputs : Values) :
    Meets (World.Holds entry around)
      (andThen (engine.runInitial entry blueprint action inputs)
        (engine.chain entry.id inputs engine.kit.settings.maxAutoChainDepth))
      (fun _ world => world.Tidy around ∧ engine.AtRest entry.id inputs world.store)
      (fun _ world => world.Tidy around ∧ True) :=
  meets_andThen (meets_failures (runInitial_meets modest live blueprint action inputs)
    fun _ _ tidy => ⟨tidy, trivial⟩) fun next => following_meets modest next

/-- A started entry is left at rest. -/
theorem starting_meets (workflow : String) (blueprint : Blueprint) (action : Action)
    (inputs : Values) :
    Meets (World.Tidy around)
      (do
        let entry ← World.createEntry workflow
        let following ← engine.runInitial entry blueprint action inputs
        engine.chain entry.id inputs engine.kit.settings.maxAutoChainDepth following
        return entry.id)
      (fun entryId world => world.Tidy around ∧ engine.AtRest entryId inputs world.store)
      (fun _ world => world.Tidy around ∧ True) := by
  refine meets_bind (meets_failures (createEntry_meets workflow) fun _ _ tidy => ⟨tidy, trivial⟩)
    fun entry => meets_given fun fresh => ?_
  have live : entry.state.isTerminal = false := by rw [fresh]; rfl
  rw [← bind_assoc]
  exact meets_bind (entering_meets modest live blueprint action inputs) fun _ =>
    meets_pure fun _ ends => ends

/-- An action and those that follow it on their own leave the entry at rest. -/
theorem acting_meets (entryId : EntryId) (actionId : ActionId) (inputs : Values) :
    Meets (World.Tidy around)
      (Run.andThen (engine.act entryId inputs actionId)
        (engine.chain entryId inputs engine.kit.settings.maxAutoChainDepth))
      (fun _ world => world.Tidy around ∧ engine.AtRest entryId inputs world.store)
      (fun _ world => world.Tidy around ∧ True) := by
  refine meets_andThen (meets_from fun start tidy => ?_) fun next => following_meets modest next
  exact meets_failures (meets_at (act_meets modest tidy actionId) (.refl start))
    fun _ _ ends => ⟨ends.1, trivial⟩

theorem startEntry_tidy {world : World} (tidy : world.Tidy around) (workflow : String)
    (actionId : ActionId) (inputs : Values) :
    (engine.startEntry workflow actionId inputs world).world.Tidy around := by
  unfold startEntry
  split
  · exact tidy
  · rename_i blueprint action _
    rw [Reply.world_ofRun]
    exact tidy_after tidy
      (meets_answers (starting_meets modest workflow blueprint action inputs) fun _ _ ends => ends.1)

theorem doAction_tidy {world : World} (tidy : world.Tidy around) (entryId : EntryId)
    (actionId : ActionId) (inputs : Values) :
    (engine.doAction entryId actionId inputs world).world.Tidy around := by
  unfold doAction
  rw [Reply.world_ofRun]
  exact tidy_after tidy
    (meets_answers (acting_meets modest entryId actionId inputs) fun _ _ ends => ends.1)

end Keeping

/-- Moving an entry that is not there fails and changes nothing. -/
private theorem move_keeps (finishedStatus : String) (entryId : EntryId) (target : EntryState)
    (actionId : ActionId) (caller : Option String) :
    Keeps (World.Tidy around) (fun _ => True)
      (Lifecycle.move finishedStatus entryId target actionId caller) := by
  refine meets_from fun start tidy => ?_
  cases found : start.store.findEntry? entryId with
  | some entry =>
    obtain rfl := Store.id_of_findEntry? found
    have moves := meets_at (Lifecycle.move_meets finishedStatus target actionId caller) ⟨tidy, found⟩
    exact meets_mono moves (fun _ same => same) (fun _ _ moved => moved.toTidy)
      fun _ _ ends => ⟨ends.1.toTidy, trivial⟩
  | none =>
    unfold Lifecycle.move
    refine meets_bind (meets_failures (meets_at (World.findEntry_observes start entryId) (.refl start))
      fun _ _ ends => ⟨tidy.observed ends.1, trivial⟩) fun entry => meets_given fun held => ?_
    rw [found] at held
    cases held

theorem changeState_tidy {world : World} (tidy : world.Tidy around) (entryId : EntryId)
    (target : EntryState) : (engine.changeState entryId target world).world.Tidy around := by
  unfold changeState
  rw [Reply.world_ofRun]
  refine tidy_after tidy ?_
  exact keeps_bind (move_keeps _ _ _ _ _) fun _ => keeps_pure ()

/-- Setting a property looks at the entry, and at most its properties are changed then. -/
theorem setProperty_world (entryId : EntryId) (name : String) (value : Json) (world : World) :
    ∃ looked change, World.Observed world looked ∧ (setProperty entryId name value world).2 =
      { looked with store := looked.store.modifyProperties entryId change } := by
  have unchanged (looked : World) :
      looked = { looked with store := looked.store.modifyProperties entryId fun held => held } := by
    rw [Store.modifyProperties_id]
  have reads : Keeps (World.Observed world) (fun _ => True) (properties? entryId) := by
    unfold properties?
    refine keeps_orElse none (keeps_bind ?_ fun _ => keeps_pure _)
    exact meets_mono (World.properties_observes world entryId) (fun _ observed => observed)
      (fun _ _ ends => ends.2) fun _ _ ends => ⟨ends.1, trivial⟩
  have ends : Meets (World.Observed world) (setProperty entryId name value)
      (fun _ after => ∃ looked change, World.Observed world looked ∧
        after = { looked with store := looked.store.modifyProperties entryId change })
      (fun _ after => ∃ looked change, World.Observed world looked ∧
        after = { looked with store := looked.store.modifyProperties entryId change }) := by
    unfold setProperty
    refine meets_bind (meets_failures reads fun _ looked ends =>
      ⟨looked, _, ends.1, unchanged looked⟩) fun held => ?_
    split
    · exact meets_pure fun looked observed => ⟨looked, _, observed, unchanged looked⟩
    · refine meets_bind (meets_change fun looked observed => ?_) fun _ =>
        meets_pure fun _ ends => ends
      exact ⟨looked, _, observed, rfl⟩
  exact ends.ends (.refl world)

theorem setProperty_tidy {world : World} (tidy : world.Tidy around) (entryId : EntryId)
    (name : String) (value : Json) : (setProperty entryId name value world).2.Tidy around := by
  obtain ⟨looked, change, observed, reached⟩ := setProperty_world entryId name value world
  have kept := tidy.observed observed
  rw [reached]
  exact ⟨kept.orderly.modifyProperties entryId change, kept.verdict, kept.grown⟩

end Engine

end Caseflow
