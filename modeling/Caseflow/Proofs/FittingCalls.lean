import Caseflow.Proofs.Acceptance
import Caseflow.Proofs.Outcomes
import Caseflow.Proofs.Runs
/-! Calls put fitting requests only. An action is executed on the entry as it has just been read,
the lifecycle reads the steps that it closes, and the catalog has no blueprint without a name. So
no call works on a step that was closed before or on an entry that is not there, and only an outage
can keep the store from answering. -/
namespace Caseflow

open Run

variable {start : World} {id : EntryId} {admitted : Failure → Prop} {α : Type}

/-- A look is only noted. -/
theorem looks_proceed {computation : Run World α} (looks : Looks admitted computation)
    (explained : ∀ failure, admitted failure → start.Explains failure) :
    Keeps start.Proceeds start.Explains computation :=
  keeps_mono (keeps_of_looks looks fun _ _ proceeds _ => proceeds.noted _) explained

/-- The turn shows the entry as it is stored, after fitting requests only. -/
structure World.Poises (start : World) (id : EntryId) (turn : Turn) : Prop extends turn.Fresh where
  own : turn.scope.entry.id = id
  proceeds : start.Proceeds turn.world

namespace Engine

variable {engine : Engine} {inputs : Values} {actionId : ActionId}

/-- A missing blueprint has nothing to do with the store. -/
theorem unknown_explains {workflow : String} {failure : Failure}
    (unknown : engine.catalog.get workflow = .error failure) : start.Explains failure := by
  obtain rfl := Catalog.get_fails unknown
  nofun

/-- What an entry is started with is an initial action of a blueprint of the catalog. -/
theorem initial_of_found {workflow : String} {blueprint : Blueprint} {action : Action}
    (found : engine.initialAction workflow actionId = .ok (blueprint, action)) :
    engine.catalog.get workflow = .ok blueprint ∧ blueprint.initialAction? actionId = some action := by
  unfold initialAction at found
  cases known : engine.catalog.get workflow with
  | error failure =>
    rw [known] at found
    cases found
  | ok held =>
    simp only [known, bind, Except.bind] at found
    split at found
    · rename_i isInitial
      cases found
      exact ⟨rfl, isInitial⟩
    · cases found

theorem known_of_initial {workflow : String} {blueprint : Blueprint} {action : Action}
    (found : engine.initialAction workflow actionId = .ok (blueprint, action)) :
    engine.catalog.get workflow = .ok blueprint :=
  (initial_of_found found).1

/-- There is nothing to start where there is no such workflow, or no such initial action in it. -/
theorem nothing_to_start {workflow : String} {failure : Failure}
    (missing : engine.initialAction workflow actionId = .error failure) :
    engine.catalog.get workflow = .error failure ∧ failure = .workflowNotFound workflow ∨
      ∃ blueprint, engine.catalog.get workflow = .ok blueprint ∧
        blueprint.initialAction? actionId = none ∧ failure = .notInitialAction actionId workflow := by
  unfold initialAction at missing
  cases known : engine.catalog.get workflow with
  | error unknown =>
    rw [known] at missing
    cases missing
    exact .inl ⟨rfl, Catalog.get_fails known⟩
  | ok held =>
    simp only [known, bind, Except.bind] at missing
    split at missing
    · cases missing
    · rename_i isNone
      cases missing
      exact .inr ⟨held, rfl, isNone, rfl⟩

theorem uninitiated_explains {workflow : String} {failure : Failure}
    (missing : engine.initialAction workflow actionId = .error failure) :
    start.Explains failure := by
  obtain ⟨-, rfl⟩ | ⟨_, -, -, rfl⟩ := nothing_to_start missing <;> nofun

section Standard

variable (standard : engine.Standard)

include standard

theorem scope_proceeds (properties : Values) (entry : Entry) (blueprint : Blueprint)
    (steps : List Step) (inputs : Values) :
    Keeps start.Proceeds start.Explains (engine.scope properties entry blueprint steps inputs) := by
  have refuses : engine.kit.extensions.Refuses Builtin.Refusal := standard.modest.toRefuses
  exact looks_proceed (Toolkit.buildScope_looks refuses _ inputs)
    fun _ refusal => refusal.explains nofun

/-- A search among candidates puts no request. -/
theorem firstAvailable_proceeds (candidates : List Candidate) :
    Keeps (fun turn => start.Proceeds turn.world) start.Explains
      (engine.kit.firstAvailable candidates) := by
  have hosts : engine.kit.Hosts start.Explains fun turn => start.Proceeds turn.world :=
    Builtin.hosts_explained (fun _ _ hooked proceeds => proceeds.trans hooked.proceeds)
      (fun _ proceeds => proceeds) standard
  induction candidates with
  | nil => exact keeps_done none
  | cons candidate rest ih =>
    unfold Toolkit.firstAvailable
    refine keeps_andThen (hosts.availability _ _) fun available => ?_
    cases available with
    | true => exact keeps_done _
    | false => exact ih

variable (lineal : start.store.Lineal)

include lineal

theorem select_proceeds :
    Keeps start.Proceeds start.Explains (engine.select id inputs actionId) := by
  unfold select
  refine meets_bind World.findEntry_proceeds fun entry => meets_onwards fun middle found => ?_
  obtain ⟨proceeds, known⟩ := found
  refine ⟨proceeds, suits_of_keeps ?_⟩
  split
  · exact keeps_fail nofun
  · refine keeps_ofExcept_bind (fun _ => unknown_explains) fun blueprint _ => ?_
    refine keeps_bind (keeps_fitting fun _ _ => trivial) fun steps => ?_
    refine keeps_bind (keeps_fitting fun world later => ?_) fun properties => ?_
    · exact (later.grows (proceeds.lineal lineal)).known id known
    refine keeps_bind (scope_proceeds standard _ _ _ _ _) fun scope => ?_
    refine meets_watch fun world later => ?_
    exact meets_at (keeps_bind (firstAvailable_proceeds standard _) fun _ => keeps_ofOption nofun)
      later

theorem settle_proceeds (progress : Progress) :
    Keeps start.Proceeds start.Explains (engine.settle id actionId inputs progress) := by
  cases progress with
  | finished => exact keeps_done none
  | continued =>
    unfold settle
    refine meets_bind World.findEntry_proceeds fun entry => meets_onwards fun middle found => ?_
    obtain ⟨proceeds, known⟩ := found
    refine ⟨proceeds, suits_of_keeps ?_⟩
    have grown := proceeds.lineal lineal
    split
    · exact keeps_pure none
    · refine keeps_ofExcept_bind (fun _ => unknown_explains) fun blueprint _ => ?_
      refine keeps_bind (keeps_fitting fun _ _ => trivial) fun steps => ?_
      split
      · exact keeps_bind (Lifecycle.move_proceeds grown _ _ _ _) fun _ => keeps_pure none
      · refine keeps_bind (keeps_fitting fun world later => ?_) fun properties => ?_
        · exact (later.grows grown).known id known
        refine keeps_bind (scope_proceeds standard _ _ _ _ _) fun scope => ?_
        refine keeps_bind (meets_turn fun world later => ?_) fun _ => keeps_pure _
        exact meets_at (firstAvailable_proceeds standard _) later

/-- An action is selected on an entry as it is stored. -/
theorem select_fits :
    Meets (· = start) (engine.select id inputs actionId)
      (fun reached world => reached.2.world = world ∧ start.Poises id reached.2)
      (fun failure world => start.Proceeds world ∧ start.Explains failure) := by
  have refuses : engine.kit.extensions.Refuses Builtin.Refusal := standard.modest.toRefuses
  have observes : Meets (World.Observed start) (engine.select id inputs actionId) _ _ :=
    select_observes refuses start
  refine meets_mono (meets_both (suits_of_keeps (select_proceeds standard lineal))
    (meets_at observes (.refl start))) (fun _ same => same) ?_ fun _ _ ends => ends.1
  rintro ⟨chosen, turn⟩ _ ⟨proceeds, rfl, selected⟩
  obtain rfl := Store.id_of_findEntry? selected.sees.found
  refine ⟨rfl, ⟨proceeds.lineal lineal, ?_, ?_⟩, rfl, proceeds⟩
  · rw [selected.observed.store, selected.sees.found]
    rfl
  · rw [selected.observed.store]
    exact selected.sees.steps

theorem initiate_proceeds {entry : Entry} (blueprint : Blueprint) (action : Action)
    (known : (start.store.findEntry? entry.id).isSome) :
    Keeps start.Proceeds start.Explains (engine.initiate entry blueprint action inputs) := by
  have refuses : engine.kit.extensions.Refuses Builtin.Refusal := standard.modest.toRefuses
  unfold initiate
  refine keeps_bind (keeps_fitting fun world later => ?_) fun properties => ?_
  · exact (later.grows lineal).known _ known
  refine keeps_bind (scope_proceeds standard _ _ _ _ _) fun scope => ?_
  refine keeps_bind (looks_proceed (Toolkit.treePasses_looks refuses _)
    fun _ refusal => refusal.explains nofun) fun allowed => ?_
  split
  · exact keeps_fail nofun
  · refine meets_watch fun world proceeds => meets_done ?_
    rintro _ rfl
    exact proceeds

/-- The initial action is judged on a new entry, which has no step. -/
theorem initiate_fits {entry : Entry} (blueprint : Blueprint) (action : Action)
    (known : (start.store.findEntry? entry.id).isSome)
    (empty : start.store.currentSteps entry.id = []) :
    Meets (· = start) (engine.initiate entry blueprint action inputs)
      (fun reached world => reached.2.world = world ∧ start.Poises entry.id reached.2)
      (fun failure world => start.Proceeds world ∧ start.Explains failure) := by
  have refuses : engine.kit.extensions.Refuses Builtin.Refusal := standard.modest.toRefuses
  have observes : Meets (World.Observed start) (engine.initiate entry blueprint action inputs) _ _ :=
    initiate_observes refuses start
  refine meets_mono (meets_both (suits_of_keeps (initiate_proceeds standard lineal blueprint action known))
    (meets_at observes (.refl start))) (fun _ same => same) ?_ fun _ _ ends => ends.1
  rintro ⟨chosen, turn⟩ _ ⟨proceeds, rfl, admitted⟩
  obtain ⟨bindings, shown⟩ := admitted.shown
  have own : turn.scope.entry.id = entry.id := by rw [shown]
  refine ⟨rfl, ⟨proceeds.lineal lineal, ?_, ?_⟩, own, proceeds⟩
  · rw [own]
    exact (proceeds.grows lineal).known _ known
  · rw [own, admitted.observed.store, empty, shown]

end Standard

/-- An action that was selected on the entry as it is stored is executed and settled. -/
theorem carryOn_suits (standard : engine.Standard) {selected : ScopedAction × Turn}
    (fresh : selected.2.Fresh) :
    selected.2.world.Suits (engine.carryOn id inputs actionId selected) := by
  refine meets_bind (meets_resume (Toolkit.execute_proceeds standard fresh selected.1))
    fun progress => ?_
  exact settle_proceeds standard fresh.lineal progress

section Standard

variable (standard : engine.Standard) (lineal : start.store.Lineal)

include standard lineal

theorem act_suits : start.Suits (engine.act id inputs actionId) := by
  rw [act_eq]
  refine meets_bind (select_fits standard lineal) fun reached => meets_onwards fun middle ends => ?_
  obtain ⟨rfl, poises⟩ := ends
  exact ⟨poises.proceeds, carryOn_suits standard poises.toFresh⟩

theorem chain_suits (limit : Nat) (next : Option ActionId) :
    start.Suits (engine.chain id inputs limit next) := by
  induction limit generalizing next start with
  | zero =>
    cases next with
    | none => exact suits_of_keeps (keeps_done ())
    | some number => exact suits_of_keeps (keeps_fail nofun)
  | succ limit ih =>
    cases next with
    | none => exact suits_of_keeps (keeps_done ())
    | some number =>
      refine meets_andThen (act_suits standard lineal) fun next => meets_onwards fun middle later => ?_
      exact ⟨later, ih (later.lineal lineal) next⟩

theorem runInitial_suits {entry : Entry} (blueprint : Blueprint) (action : Action)
    (known : (start.store.findEntry? entry.id).isSome)
    (empty : start.store.currentSteps entry.id = []) :
    start.Suits (engine.runInitial entry blueprint action inputs) := by
  rw [runInitial_eq]
  refine meets_bind (initiate_fits standard lineal blueprint action known empty) fun reached => ?_
  refine meets_onwards fun middle ends => ?_
  obtain ⟨rfl, poises⟩ := ends
  exact ⟨poises.proceeds, carryOn_suits standard poises.toFresh⟩

end Standard

end Engine

/-! ### Every call -/

/-- Since `start` a call has put fitting requests only, and it has not failed for the store but in
an outage. -/
structure World.Replies (start : World) (reply : Reply α) : Prop where
  proceeds : start.Proceeds reply.world
  explains : ∀ failure, reply.result = .error failure → start.Explains failure

theorem World.Suits.replies {computation : Run World α} (suits : start.Suits computation)
    (marks : Failure → Bool) : start.Replies (Reply.ofRun marks computation start) := by
  have ends := suits start rfl
  unfold Reply.ofRun
  split at ends
  · rename_i reached
    rw [reached]
    exact ⟨ends, nofun⟩
  · rename_i reached
    rw [reached]
    refine ⟨ends.1, fun failure same => ?_⟩
    cases same
    exact ends.2

namespace Engine

variable {engine : Engine} (standard : engine.Standard) (lineal : start.store.Lineal)

/-- A new entry is there and has no steps. -/
theorem createEntry_fits {workflow : String} (named : Text.isAllBlank workflow = false)
    (lineal : start.store.Lineal) :
    Meets (· = start) (World.createEntry workflow)
      (fun entry world => start.Proceeds world ∧ (world.store.findEntry? entry.id).isSome ∧
        world.store.currentSteps entry.id = [])
      (fun failure world => start.Proceeds world ∧ start.Explains failure) := by
  refine meets_fitting (fun world same => ?_) ?_ fun _ _ _ _ proceeds explains _ =>
    ⟨proceeds, explains⟩
  · subst same
    exact ⟨.here, named⟩
  · rintro _ entry after rfl proceeds served
    cases served with
    | answered entry store done =>
      refine ⟨proceeds, ?_, ?_⟩
      · exact Option.isSome_iff_exists.mpr
          ⟨entry, (Store.findEntry?_createEntry lineal.numbered done _).trans (if_pos rfl)⟩
      · exact (Store.currentSteps_createEntry lineal.numbered done _).trans (if_pos rfl)
    | absent value lost => cases lost

include standard lineal

theorem startEntry_replies (workflow : String) (actionId : ActionId) (inputs : Values) :
    start.Replies (engine.startEntry workflow actionId inputs start) := by
  unfold startEntry
  split
  · rename_i failure missing
    refine ⟨.here, fun _ same => ?_⟩
    cases same
    exact uninitiated_explains missing
  · rename_i blueprint action found
    refine World.Suits.replies ?_ _
    obtain ⟨name, sound⟩ := Catalog.get_sound (known_of_initial found)
    have named : Text.isAllBlank workflow = false := name ▸ blueprint.named_of_validate sound
    refine meets_bind (createEntry_fits named lineal) fun entry => meets_onwards fun middle ends => ?_
    obtain ⟨proceeds, known, empty⟩ := ends
    have grown := proceeds.lineal lineal
    refine ⟨proceeds, ?_⟩
    refine meets_bind (runInitial_suits standard grown blueprint action known empty) fun next => ?_
    refine meets_bind (meets_onwards fun last later => ?_) fun _ => meets_pure fun _ ends => ends
    exact ⟨later, chain_suits standard (later.lineal grown) _ next⟩

theorem doAction_replies (entryId : EntryId) (actionId : ActionId) (inputs : Values) :
    start.Replies (engine.doAction entryId actionId inputs start) := by
  refine World.Suits.replies ?_ _
  refine meets_andThen (act_suits standard lineal) fun next => meets_onwards fun middle later => ?_
  exact ⟨later, chain_suits standard (later.lineal lineal) _ next⟩

omit standard in
theorem changeState_replies (entryId : EntryId) (target : EntryState) :
    start.Replies (engine.changeState entryId target start) := by
  refine World.Suits.replies (suits_of_keeps ?_) _
  exact keeps_bind (Lifecycle.move_proceeds lineal _ _ _ _) fun _ => keeps_pure ()

omit standard in
/-- Setting a property looks at the entry and changes its properties only. -/
private theorem setProperty_grows (entryId : EntryId) (name : String) (value : Json) :
    (setProperty entryId name value start).2.store.Lineal ∧
      start.store.Grows (setProperty entryId name value start).2.store := by
  obtain ⟨looked, change, observed, reached⟩ := setProperty_world entryId name value start
  rw [reached, observed.store]
  exact ⟨lineal.modifyProperties entryId change, by constructor <;> simp⟩

/-- No call breaks the lineage of steps or loses anything of it. -/
theorem perform_grows (operation : Operation) :
    (engine.perform start operation).store.Lineal ∧
      start.store.Grows (engine.perform start operation).store := by
  have grown {reply : World} (proceeds : start.Proceeds reply) :
      reply.store.Lineal ∧ start.store.Grows reply.store :=
    ⟨proceeds.lineal lineal, proceeds.grows lineal⟩
  cases operation with
  | start workflow actionId inputs =>
    exact grown (startEntry_replies standard lineal workflow actionId inputs).proceeds
  | act entry actionId inputs =>
    exact grown (doAction_replies standard lineal entry actionId inputs).proceeds
  | changeState entry target => exact grown (changeState_replies lineal entry target).proceeds
  | setProperty entry name value => exact setProperty_grows lineal entry name value

end Engine

/-! ### Runs -/

theorem World.Leads.grows {world : World} (leads : start.Leads world)
    (lineal : start.store.Lineal) : world.store.Lineal ∧ start.store.Grows world.store := by
  induction leads with
  | here => exact ⟨lineal, .refl _⟩
  | call before standard operation ih =>
    obtain ⟨grown, grows⟩ := Engine.perform_grows standard ih.1 operation
    exact ⟨grown, ih.2.trans grows⟩
  | meanwhile before outages now areCalls ih => exact ih

theorem World.Reachable.lineal {world : World} (reachable : world.Reachable) :
    world.store.Lineal := by
  obtain ⟨outages, now, leads⟩ := reachable
  exact (leads.grows .new).1

/-- Whatever a run does and wherever its store fails, a step follows steps of its own entry that
were created before it and that the entry has left for good, each of them once. -/
theorem steps_follow_history {world : World} (reachable : world.Reachable) (id : EntryId) :
    ∀ step ∈ world.store.currentSteps id ++ world.store.historySteps id,
      step.previous.Nodup ∧ ∀ earlier ∈ step.previous, earlier < step.id ∧
        (∃ past ∈ world.store.historySteps id, past.id = earlier ∧ past.entryId = step.entryId) ∧
        ∀ current ∈ world.store.currentSteps id, current.id ≠ earlier := by
  have lineal := reachable.lineal
  intro step member
  have descends := lineal.descent id step member
  refine ⟨descends.once, fun earlier among => ?_⟩
  obtain ⟨less, isPast⟩ := descends.earlier earlier among
  refine ⟨less, ?_, ?_⟩
  · obtain ⟨past, left, rfl⟩ := List.mem_map.mp isPast
    have filed := lineal.filed id past (List.mem_append_right _ left)
    exact ⟨past, left, rfl, filed.trans (lineal.filed id step member).symm⟩
  · rintro current isCurrent rfl
    exact lineal.apart (List.mem_map_of_mem isCurrent) isPast

/-- A workflow that goes round through a join: the first step leads to the join, whose outcome leads
to the second step, and from there it goes back to the first. -/
def ring : Blueprint where
  name := "ring"
  initialActions :=
    [{ id := 1, name := "enter",
       unconditionalOutcome := some { target := .step 1, status := "Open" } }]
  steps :=
    [{ id := 1, name := "outer",
       actions := [{ id := 10, name := "gather",
                     unconditionalOutcome := some { target := .join 1, oldStatus := "Done" } }] },
     { id := 2, name := "inner",
       actions := [{ id := 20, name := "again",
                     unconditionalOutcome := some { target := .step 1, status := "Open" } }] }]
  joins := [{ id := 1, outcome := some { target := .step 2, status := "Open" } }]

def ringEngine : Engine where
  catalog := ((default : Catalog).register ring).toOption.getD default

/-- The world after so many rounds. -/
def ringWorld : Nat → World
  | 0 => ringEngine.perform {} (.start "ring" 1 ∅)
  | rounds + 1 =>
    ringEngine.perform (ringEngine.perform (ringWorld rounds) (.act 1 10 ∅)) (.act 1 20 ∅)

private theorem ringEngine_standard : ringEngine.Standard :=
  rfl

theorem ring_reachable (rounds : Nat) : (ringWorld rounds).Reachable := by
  refine ⟨{}, ⟨0, 0⟩, ?_⟩
  induction rounds with
  | zero => exact .call .here ringEngine_standard _
  | succ rounds ih => exact .call (.call ih ringEngine_standard _) ringEngine_standard _

/-- The store of a ring is never out of order. -/
theorem ring_inOrder (rounds : Nat) (method : StoreMethod) (call : Nat) :
    (ringWorld rounds).outages.verdict method call = none := by
  have tidy : (ringWorld rounds).Tidy ⟨fun _ _ => none, []⟩ := by
    induction rounds with
    | zero => exact Engine.perform_tidy ringEngine_standard ⟨.new, rfl, List.prefix_rfl⟩ _
    | succ rounds ih =>
      have gathered := Engine.perform_tidy ringEngine_standard ih (.act 1 10 ∅)
      exact Engine.perform_tidy ringEngine_standard gathered _
  rw [tidy.verdict]

/-- After one round the entry is in its third step, which follows the second one. -/
theorem third_step_follows_second :
    (ringWorld 1).Reachable ∧ ∃ step ∈ (ringWorld 1).store.currentSteps 1,
      step.id = 3 ∧ step.previous = [2] ∧
        ∃ past ∈ (ringWorld 1).store.historySteps 1, past.id = 2 ∧ past.entryId = step.entryId := by
  have reachable := ring_reachable 1
  have current : ∃ step ∈ (ringWorld 1).store.currentSteps 1, step.id = 3 ∧ step.previous = [2] := by
    decide +kernel
  obtain ⟨step, isCurrent, third, follows⟩ := current
  obtain ⟨-, earlier⟩ := steps_follow_history reachable 1 step (List.mem_append_left _ isCurrent)
  obtain ⟨-, isPast, -⟩ := earlier 2 (by simp [follows])
  exact ⟨reachable, step, isCurrent, third, follows, isPast⟩

/-- While the store is in order, whatever a run has done before, a call that changes something puts
requests that fit the store at that time, and never fails for the store. -/
theorem store_refuses_nothing {world : World} (reachable : world.Reachable)
    (inOrder : ∀ method call, world.outages.verdict method call = none) {engine : Engine}
    (standard : engine.Standard) :
    (∀ workflow actionId inputs,
      let reply := engine.startEntry workflow actionId inputs world
      world.Proceeds reply.world ∧ ∀ error, reply.result ≠ .error (.store error)) ∧
    (∀ entryId actionId inputs,
      let reply := engine.doAction entryId actionId inputs world
      world.Proceeds reply.world ∧ ∀ error, reply.result ≠ .error (.store error)) ∧
    (∀ entryId target,
      let reply := engine.changeState entryId target world
      world.Proceeds reply.world ∧ ∀ error, reply.result ≠ .error (.store error)) := by
  have answered {α : Type} {reply : Reply α} (replies : world.Replies reply) :
      world.Proceeds reply.world ∧ ∀ error, reply.result ≠ .error (.store error) := by
    refine ⟨replies.proceeds, fun error refused => ?_⟩
    obtain ⟨method, call, met⟩ := replies.explains _ refused error rfl
    rw [inOrder] at met
    cases met
  refine ⟨fun workflow actionId inputs => ?_, fun entryId actionId inputs => ?_,
    fun entryId target => ?_⟩
  · exact answered (Engine.startEntry_replies standard reachable.lineal workflow actionId inputs)
  · exact answered (Engine.doAction_replies standard reachable.lineal entryId actionId inputs)
  · exact answered (Engine.changeState_replies reachable.lineal entryId target)

/-- In the second round the store refuses nothing either, and the fourth step is created. -/
theorem second_round_refused_nothing :
    (ringWorld 1).Reachable ∧ (∀ method call, (ringWorld 1).outages.verdict method call = none) ∧
      (ringWorld 1).Proceeds (ringEngine.doAction 1 10 ∅ (ringWorld 1)).world ∧
      (∀ error, (ringEngine.doAction 1 10 ∅ (ringWorld 1)).result ≠ .error (.store error)) ∧
      (ringEngine.doAction 1 10 ∅ (ringWorld 1)).world.store.stepCount = 4 := by
  obtain ⟨-, acts, -⟩ :=
    store_refuses_nothing (ring_reachable 1) (ring_inOrder 1) ringEngine_standard
  exact ⟨ring_reachable 1, ring_inOrder 1, (acts 1 10 ∅).1, (acts 1 10 ∅).2, by decide +kernel⟩

end Caseflow
