import Caseflow.Proofs.Arrivals
import Caseflow.Proofs.PlainCalls
/-! Runs through a barrier. In whatever order the actions of the branches are executed, by whomever
and whenever: every call but the last one closes its own branch and nothing else happens, and the
last one passes the barrier. -/
namespace Caseflow

open Run

/-! ### One arrival -/

/-- The picture is one of an active entry of the workflow at the barrier. -/
structure Picture.AtBarrier (blueprint : Blueprint) (branches : List Branch) (picture : Picture) :
    Prop where
  active : picture.entry.state = .activated
  workflow : picture.entry.workflow = blueprint.name
  underway : Underway picture.entry.id branches picture.current picture.history

namespace Engine

/-- The call of an arrival on an entry, at its time and by its caller. -/
def arrive (engine : Engine) (entryId : EntryId) (world : World) (arrival : Arrival) : Reply Unit :=
  (engine.asCaller arrival.caller).doAction entryId arrival.action arrival.inputs
    { world with now := arrival.now }

/-- The world after the calls of the arrivals, one after another. -/
def arriveAll (engine : Engine) (entryId : EntryId) (world : World) (arrivals : List Arrival) :
    World :=
  arrivals.foldl (fun world arrival => (engine.arrive entryId world arrival).world) world

end Engine

section

variable {engine : Engine} {blueprint : Blueprint} {entrance : Action} {branches : List Branch}
  {join : Join} {further : StepDef} {picture : Picture} {earlier later : List Step} {step : Step}
  {branch : Branch}

/-- The actions of the branches of a registered workflow differ. -/
theorem Blueprint.Barrier.differ (barrier : blueprint.Barrier entrance branches join further)
    (registered : engine.catalog.get blueprint.name = .ok blueprint) :
    (branches.map (·.action.id)).Nodup := by
  have steps : (blueprint.steps.flatMap fun definition => definition.actions.map (·.id)).Nodup := by
    have promised := (Catalog.promises registered).2
    rw [Blueprint.localActions, List.map_append, List.map_flatMap] at promised
    exact (List.nodup_append.mp promised).2.1
  obtain ⟨-, disjoint⟩ := List.nodup_flatMap.mp steps
  have branchesDiffer : branches.Nodup := List.Nodup.of_map _ barrier.distinct
  refine List.Nodup.map_on (fun first isFirst second isSecond same => ?_) branchesDiffer
  have known {branch : Branch} (member : branch ∈ branches) :
      branch.definition ∈ blueprint.steps ∧ branch.action.id ∈ branch.definition.actions.map (·.id) := by
    have feeds := barrier.feeds branch member
    exact ⟨List.mem_of_find?_eq_some feeds.definition, by simp [feeds.offers]⟩
  obtain ⟨isStep, offers⟩ := known isFirst
  obtain ⟨isOtherStep, offersToo⟩ := known isSecond
  by_contra apart
  have definitions : first.definition ≠ second.definition := by
    intro equal
    exact apart (List.inj_on_of_nodup_map barrier.distinct isFirst isSecond (congrArg _ equal))
  have symmetric : Std.Symm (Function.onFun List.Disjoint fun definition : StepDef =>
      definition.actions.map (·.id)) := ⟨fun _ _ separate => List.disjoint_symm separate⟩
  exact disjoint.forall isStep isOtherStep definitions offers (same ▸ offersToo)

/-- No other waiting branch offers the action of a branch. -/
theorem Underway.alone {entryId : EntryId} {arrived : List Step}
    (barrier : blueprint.Barrier entrance branches join further)
    (registered : engine.catalog.get blueprint.name = .ok blueprint)
    (underway : Underway entryId branches (earlier ++ step :: later) arrived)
    (member : branch ∈ branches) (own : step.defId = branch.definition.id) :
    ∀ other ∈ earlier ++ later, blueprint.actionForStep? other.defId branch.offer.id = none := by
  intro other present
  have around : other ∈ earlier ++ later ++ arrived := List.mem_append_left _ present
  obtain ⟨another, isBranch, same⟩ := underway.branch (List.mem_append_left _ (mem_around present))
  unfold Blueprint.actionForStep?
  rw [← same, (barrier.feeds another isBranch).actionsForStep barrier.noCommonActions]
  refine List.find?_eq_none.mpr fun offer isOffer => ?_
  obtain rfl := List.mem_singleton.mp isOffer
  simp only [decide_eq_true_eq]
  intro equal
  obtain rfl : another = branch :=
    List.inj_on_of_nodup_map (barrier.differ registered) isBranch member equal
  exact underway.apartByDefinition barrier.distinct other around (same.symm.trans own.symm)

/-- Nothing happens on its own while a branch is waiting, or once the step beyond the join
is open. -/
theorem Blueprint.Barrier.rests (barrier : blueprint.Barrier entrance branches join further)
    {steps : List Step} (some : steps ≠ [])
    (asSuch : ∀ step ∈ steps, step.defId = further.id ∨
      ∃ branch ∈ branches, branch.definition.id = step.defId) : blueprint.Rests steps := by
  have offers {step : Step} (member : step ∈ steps) :
      ∃ definition, blueprint.step? step.defId = .some definition ∧ definition.hasActions = true ∧
        ∀ candidate ∈ blueprint.actionsForStep step.defId, candidate.action.autoExecute = false := by
    rcases asSuch step member with beyond | ⟨branch, present, same⟩
    · rw [beyond, Blueprint.actionsForStep_own barrier.noCommonActions barrier.definition]
      refine ⟨further, barrier.definition, ?_, fun candidate offered => ?_⟩
      · simp [StepDef.hasActions, barrier.goesOn]
      · obtain ⟨action, present, rfl⟩ := List.mem_map.mp offered
        exact barrier.manual action present
    · have feeds := barrier.feeds branch present
      rw [← same, feeds.actionsForStep barrier.noCommonActions]
      refine ⟨branch.definition, feeds.definition, ?_, fun candidate offered => ?_⟩
      · simp [StepDef.hasActions, feeds.offers]
      · rw [List.mem_singleton.mp offered]
        exact feeds.manual
  constructor
  · obtain ⟨step, member⟩ := List.exists_mem_of_ne_nil steps some
    obtain ⟨definition, known, hasActions, -⟩ := offers member
    refine List.all_eq_false.mpr ⟨step, member, ?_⟩
    simp [known, hasActions]
  · refine List.filter_eq_nil_iff.mpr fun candidate member => ?_
    unfold Toolkit.candidates Blueprint.scopedGlobalActions at member
    rw [barrier.noGlobalActions, List.map_nil, List.map_nil, List.nil_append] at member
    obtain ⟨step, present, offered⟩ := List.mem_flatMap.mp member
    obtain ⟨offer, isOffer, rfl⟩ := List.mem_map.mp offered
    obtain ⟨_, -, -, manual⟩ := offers present
    simp [manual offer isOffer]

/-- The picture at another time. -/
def Picture.at (picture : Picture) (now : Instant) : Picture :=
  { picture with now }

/-- The picture after an arrival that leaves these steps waiting. -/
def Picture.arrived (picture : Picture) (others : List Step) (closed : Step) : Picture :=
  { picture with
    current := others
    history := picture.history ++ [closed] }

/-- The picture after the arrival that opens the step beyond the join. -/
def Picture.beyond (picture : Picture) (new : NewStep) : Picture :=
  { picture with
    current := [new.toStep (picture.count + 1)]
    count := picture.count + 1 }

/-- What is opened beyond the join: a step of the definition there, which follows the given ones. -/
structure NewStep.Beyond (entryId : EntryId) (further : StepDef) (previous : List StepId)
    (new : NewStep) : Prop where
  entryId : new.entryId = entryId
  defId : new.defId = further.id
  previous : new.previous = previous

/-- The scope in which the action of an arrival is executed. -/
def Engine.sight (engine : Engine) (blueprint : Blueprint) (picture : Picture) (arrival : Arrival) :
    Scope :=
  { (engine.asCaller arrival.caller).plainScope picture.entry blueprint picture.current
      arrival.inputs with actionId := some arrival.action }

/-- What an arrival comes to: its branch is closed, and where no other is waiting the step beyond
the join is opened. -/
def Picture.Takes (picture : Picture) (further : StepDef) (others : List Step) (closed : Step)
    (world : World) : Prop :=
  let arrived := picture.arrived others closed
  (others ≠ [] → world.Shows arrived) ∧
    (others = [] → ∃ new : NewStep,
      new.Beyond picture.entry.id further (closed.id :: picture.history.map (·.id)) ∧
        world.Shows (arrived.beyond new))

theorem Picture.AtBarrier.known (atBarrier : picture.AtBarrier blueprint branches)
    (registered : engine.catalog.get blueprint.name = .ok blueprint) :
    engine.catalog.get picture.entry.workflow = .ok blueprint := by
  rw [atBarrier.workflow]
  exact registered

variable (barrier : blueprint.Barrier entrance branches join further)
  (registered : engine.catalog.get blueprint.name = .ok blueprint)
  (atBarrier : picture.AtBarrier blueprint branches)
  (current : picture.current = earlier ++ step :: later) (member : branch ∈ branches)
  (own : step.defId = branch.definition.id) {arrival : Arrival}
  (asks : branch.action.id = arrival.action)

include barrier atBarrier current member asks

/-- The outcome of the action of a branch takes the branch to the join. -/
theorem Engine.arrival_takes (literal : engine.kit.Literal) :
    let present := picture.at arrival.now
    Succeeds (Turn.Shows (engine.sight blueprint present arrival) present)
      (engine.kit.takeOutcome branch.action branch.leaving (some step))
      (fun _ turn => present.Takes further (earlier ++ later) (arrival.closing.mark step) turn.world) := by
  intro present
  have feeds := barrier.feeds branch member
  obtain ⟨exit, leads⟩ := barrier.leads
  have underway := atBarrier.underway
  rw [current] at underway
  have joins := Toolkit.takeJoin_succeeds literal
    (show (engine.sight blueprint present arrival).blueprint.Barrier _ _ _ _ from barrier) leads
    feeds.plain.continues feeds.arrivesDone
    (show (engine.sight blueprint present arrival).entry.id = present.entry.id from rfl)
    current current underway
  have closing : (⟨branch.action.id, present.now, Branch.done, arrival.caller⟩ : Closing) =
      arrival.closing := by
    rw [asks]
    rfl
  show Succeeds _ _ _
  unfold Toolkit.takeOutcome
  rw [feeds.arrives, ← closing]
  refine meets_answers joins fun _ turn ends => ?_
  refine ⟨fun some => (ends.1 some).world, fun none => ?_⟩
  obtain ⟨new, listed, ⟨entryId, defId, previous, -⟩, opened⟩ := ends.2 none
  refine ⟨new, ⟨entryId, defId, previous⟩, ?_⟩
  have world := opened.world
  rw [none] at world
  unfold Picture.arrived
  rw [none]
  exact world

include registered own

/-- The call of an arrival comes to what the outcome of its action does. -/
theorem Engine.arrive_reaches {world : World} (shows : world.Shows picture) {reached : World → Prop}
    (takes :
      let present := picture.at arrival.now
      Succeeds (Turn.Shows (engine.sight blueprint present arrival) present)
        (engine.kit.takeOutcome branch.action branch.leaving (some step))
        (fun _ turn => reached turn.world))
    (settles : Succeeds reached ((engine.asCaller arrival.caller).settle picture.entry.id
      arrival.action arrival.inputs .continued) (fun next world => next = none ∧ reached world)) :
    (engine.arrive picture.entry.id world arrival).result = .ok () ∧
      reached (engine.arrive picture.entry.id world arrival).world := by
  have feeds := barrier.feeds branch member
  have underway := atBarrier.underway
  rw [current] at underway
  have offered : branch.offer.id = arrival.action := asks
  have offers : blueprint.actionForStep? step.defId branch.offer.id = some branch.offer := by
    rw [own]
    exact feeds.actionForStep? barrier.noCommonActions
  have known : (engine.asCaller arrival.caller).catalog.get picture.entry.workflow =
      .ok blueprint := atBarrier.known registered
  have showsNow : World.Shows (picture.at arrival.now) { world with now := arrival.now } :=
    ⟨shows.sound, shows.record, shows.count, rfl⟩
  unfold Engine.sight at takes
  unfold Engine.arrive
  rw [← offered] at takes settles ⊢
  have later : branch.offer.scope ≠ .initial := nofun
  have acts : Succeeds (World.Shows (picture.at arrival.now)) _ _ :=
    Engine.act_succeeds atBarrier.active known barrier.toLocal feeds.plain later current offers
      (underway.alone barrier registered member own) (feeds.leaveStep _ own) takes settles
  exact (Engine.doAction_succeeds showsNow acts :)

/-- An arrival closes its own branch. If others are waiting, nothing else happens, and otherwise the
step beyond the join is opened. -/
theorem Engine.arrive_succeeds (literal : engine.kit.Literal) {world : World}
    (shows : world.Shows picture) :
    (engine.arrive picture.entry.id world arrival).result = .ok () ∧
      (picture.at arrival.now).Takes further (earlier ++ later) (arrival.closing.mark step)
        (engine.arrive picture.entry.id world arrival).world := by
  refine Engine.arrive_reaches barrier registered atBarrier current member own asks shows
    (Engine.arrival_takes barrier atBarrier current member asks literal) ?_
  -- whatever the arrival has come to, nothing follows on its own
  have settles (after : Picture) (same : after.entry = picture.entry)
      (rests : blueprint.Rests after.current) :
      Succeeds (World.Shows after)
        ((engine.asCaller arrival.caller).settle picture.entry.id arrival.action arrival.inputs
          .continued)
        (fun next world => next = none ∧ world.Shows after) := by
    have known : (engine.asCaller arrival.caller).catalog.get picture.entry.workflow =
        .ok blueprint := atBarrier.known registered
    rw [← same] at known ⊢
    exact Engine.settle_succeeds (by rw [same]; exact atBarrier.active) known barrier.toLocal rests
  have underway := atBarrier.underway
  rw [current] at underway
  refine meets_from fun start takes => ?_
  let arrived := (picture.at arrival.now).arrived (earlier ++ later) (arrival.closing.mark step)
  by_cases last : earlier ++ later = []
  · obtain ⟨new, isBeyond, opened⟩ := takes.2 last
    have rests : blueprint.Rests (arrived.beyond new).current :=
      barrier.rests (List.cons_ne_nil _ _) fun other isOther => .inl <| by
        rw [List.mem_singleton.mp isOther]
        exact isBeyond.defId
    refine meets_answers (meets_at (settles (arrived.beyond new) rfl rests) opened) fun _ _ ends => ?_
    exact ⟨ends.1, fun some => absurd last some, fun _ => ⟨new, isBeyond, ends.2⟩⟩
  · have rests : blueprint.Rests (earlier ++ later) := by
      refine barrier.rests last fun other isOther => .inr (underway.branch ?_)
      exact List.mem_append_left _ (mem_around isOther)
    refine meets_answers (meets_at (settles arrived rfl rests) (takes.1 last)) fun _ _ ends => ?_
    exact ⟨ends.1, fun _ => ends.2, fun none => absurd none last⟩

end

/-! ### Entering the barrier -/

/-- The picture of a new entry at the barrier, with all branches waiting. -/
def Picture.entered (world : World) (blueprint : Blueprint) (places : List Place) : Picture :=
  let first := Picture.first world blueprint.name
  { entry := { first.entry with state := .activated }
    current := places.map (·.2)
    count := first.count + places.length
    now := first.now }

/-- An entry has been started, and a step was opened for every branch. -/
def World.Entered (world start : World) (blueprint : Blueprint) (branches : List Branch) : Prop :=
  ∃ places, Place.Opened (Picture.first start blueprint.name).entry.id branches places ∧
    world.Shows (Picture.entered start blueprint places)

section

variable {engine : Engine} {blueprint : Blueprint} {entrance : Action} {branches : List Branch}
  {join : Join} {further : StepDef} (barrier : blueprint.Barrier entrance branches join further)

include barrier

/-- The outcome of the initial action leads to the barrier. -/
theorem Engine.entrance_takes (literal : engine.kit.Literal) (inputs : Values) (world : World)
    {outcome : Outcome} {split : Split} (plain : entrance.Plain outcome)
    (target : outcome.target = .split split.id) (found : blueprint.split? split.id = some split)
    (outcomes : split.outcomes = branches.map (·.entering)) :
    let first := Picture.first world blueprint.name
    Succeeds
      (Turn.Shows
        { engine.plainScope first.entry blueprint [] inputs with actionId := some entrance.id } first)
      (do
        engine.kit.takeOutcome entrance outcome none
        engine.kit.activate first.entry.id .initial)
      (fun _ turn => turn.world.Entered world blueprint branches) := by
  intro first
  unfold Toolkit.takeOutcome
  rw [target]
  refine meets_bind (Toolkit.takeSplit_succeeds literal found outcomes plain.continues barrier.feeds
    rfl) fun _ => ?_
  refine meets_some fun created => meets_some fun listed => meets_some fun steps =>
    meets_given fun facts => ?_
  obtain ⟨opened, same⟩ := Place.opened_zip facts.1 facts.2
  let waiting : Picture :=
    { first with
      current := first.current ++ steps
      count := first.count + branches.length }
  let scope : Scope :=
    { engine.plainScope first.entry blueprint [] inputs with
      actionId := some entrance.id
      createdStep := created
      currentSteps := listed }
  have activates : Succeeds (Turn.Shows scope waiting)
      (engine.kit.activate waiting.entry.id .initial) _ :=
    Toolkit.activate_initial rfl rfl
  refine meets_answers activates fun _ turn ends => ?_
  refine ⟨branches.zip steps, opened, ?_⟩
  have length : (branches.zip steps).length = branches.length := by
    rw [← opened.branches, List.length_map, opened.branches]
  unfold Picture.entered
  rw [same, length]
  exact ends.world

/-- At the barrier nothing happens on its own. -/
theorem Blueprint.Barrier.rests_entered {entryId : EntryId} {places : List Place}
    (opened : Place.Opened entryId branches places) : blueprint.Rests (places.map (·.2)) := by
  have some : places.map (·.2) ≠ [] := by
    intro none
    apply barrier.branching
    rw [← opened.branches, List.map_eq_nil_iff.mp none, List.map_nil]
  refine barrier.rests some fun step member => .inr ?_
  obtain ⟨place, present, rfl⟩ := List.mem_map.mp member
  refine ⟨place.1, ?_, (opened.each place present).defId.symm⟩
  rw [← opened.branches]
  exact List.mem_map_of_mem present

/-- Starting an entry opens a step for every branch. -/
theorem Engine.enter_succeeds (registered : engine.catalog.get blueprint.name = .ok blueprint)
    (literal : engine.kit.Literal) (inputs : Values) {world : World}
    (numbered : world.store.Numbered)
    (sound : ∀ method call, world.outages.verdict method call = none) :
    (engine.startEntry blueprint.name entrance.id inputs world).result =
        .ok (Picture.first world blueprint.name).entry.id ∧
      (engine.startEntry blueprint.name entrance.id inputs world).world.Entered world blueprint
        branches := by
  obtain ⟨outcome, split, plain, target, found, outcomes⟩ := barrier.splits
  refine Engine.startEntry_succeeds (fun after => after.Entered world blueprint branches) registered
    barrier.toLocal barrier.initial plain numbered sound
    (Engine.entrance_takes barrier literal inputs world plain target found outcomes)
    (meets_from fun start entered => ?_)
  obtain ⟨places, opened, shows⟩ := entered
  have settles : Succeeds (World.Shows (Picture.entered world blueprint places))
      (engine.settle (Picture.first world blueprint.name).entry.id entrance.id inputs .continued) _ :=
    Engine.settle_succeeds rfl registered barrier.toLocal (barrier.rests_entered opened)
  refine meets_answers (meets_at settles shows) fun _ _ ends => ?_
  exact ⟨ends.1, places, opened, ends.2⟩

end

/-! ### All arrivals -/

/-- The picture of an entry at the barrier once these arrivals are done. -/
def Picture.afterAll (entered : Picture) (places : List Place) (done : List Arrival) (now : Instant) :
    Picture :=
  { entered with
    current := Place.waiting places done
    history := Place.arrived places done
    now := now }

/-- The barrier holds: just the branches that have not arrived are current, the others are done, and
no step has been created. -/
structure Store.Waits (entryId : EntryId) (places : List Place) (done : List Arrival) (count : Nat)
    (store : Store) : Prop where
  active : ∃ entry, store.findEntry? entryId = some entry ∧ entry.state = .activated
  current : store.currentSteps entryId = Place.waiting places done
  history : store.historySteps entryId = Place.arrived places done
  noStep : store.stepCount = count

/-- The barrier has been passed: the only current step is the one beyond the join, which follows all
branches, these are done, and no other step has been created. -/
structure Store.Passed (entryId : EntryId) (places : List Place) (done : List Arrival)
    (further : StepDef) (count : Nat) (store : Store) : Prop where
  active : ∃ entry, store.findEntry? entryId = some entry ∧ entry.state = .activated
  current : ∃ step, store.currentSteps entryId = [step] ∧ step.defId = further.id ∧
    step.entryId = entryId ∧ step.previous.Perm (places.map (·.2.id))
  history : store.historySteps entryId = Place.arrived places done
  oneStep : store.stepCount = count + 1

section

variable {engine : Engine} {blueprint : Blueprint} {entrance : Action} {branches : List Branch}
  {join : Join} {further : StepDef} {entered : Picture} {places : List Place}
  {arrivals done rest : List Arrival} {arrival : Arrival} {world : World} {now : Instant}

variable (barrier : blueprint.Barrier entrance branches join further)
  (registered : engine.catalog.get blueprint.name = .ok blueprint) (literal : engine.kit.Literal)
  (opened : Place.Opened entered.entry.id branches places)
  (schedule : Place.Schedule places arrivals) (active : entered.entry.state = .activated)
  (workflow : entered.entry.workflow = blueprint.name)

include barrier registered literal opened schedule active workflow

/-- One more arrival. -/
theorem Engine.arrive_scheduled (split : arrivals = done ++ arrival :: rest)
    (shows : world.Shows (entered.afterAll places done now)) :
    let reply := engine.arrive entered.entry.id world arrival
    let after := entered.afterAll places (done ++ [arrival]) arrival.now
    reply.result = .ok () ∧ (rest ≠ [] → reply.world.Shows after) ∧
      (rest = [] → ∃ previous new, new.Beyond entered.entry.id further previous ∧
        previous.Perm (places.map (·.2.id)) ∧ reply.world.Shows (after.beyond new)) := by
  intro reply after
  obtain ⟨place, member, same⟩ := schedule.finds split
  obtain ⟨earlier, later, before, others⟩ :=
    Place.waiting_arrival schedule.differ member same (schedule.new split)
  have underway := opened.underway barrier.feeds schedule split
  have isBranch : place.1 ∈ branches := by
    rw [← opened.branches]
    exact List.mem_map_of_mem member
  have arrives := Engine.arrive_succeeds barrier registered
    (show (entered.afterAll places done now).AtBarrier blueprint branches from
      ⟨active, workflow, underway⟩) before isBranch (opened.each place member).defId same literal shows
  have becomes : ((entered.afterAll places done now).at arrival.now).arrived (earlier ++ later)
      (arrival.closing.mark place.2) = after := by
    have history : Place.arrived places (done ++ [arrival]) = _ :=
      Place.arrived_arrival schedule.differ member same
    simp [Picture.at, Picture.arrived, Picture.afterAll, after, others, history]
  have last : earlier ++ later = [] ↔ rest = [] := by
    rw [← others]
    exact schedule.waiting_iff (by simp [split])
  obtain ⟨answered, waits, passes⟩ := arrives
  rw [becomes] at waits passes
  refine ⟨answered, fun some => waits fun none => some (last.mp none), fun none => ?_⟩
  obtain ⟨new, isBeyond, shows⟩ := passes (last.mpr none)
  refine ⟨_, new, isBeyond, ?_, shows⟩
  have shared : ((Place.waiting places done ++ Place.arrived places done).map (·.id)).Perm
      (places.map (·.2.id)) :=
    schedule.shared (fun _ _ => rfl) split
  obtain ⟨rfl, rfl⟩ := List.append_eq_nil_iff.mp (last.mpr none)
  rw [before] at shared
  exact shared

/-- As long as arrivals are to come, the barrier holds. -/
theorem Engine.arriveAll_scheduled (split : arrivals = done ++ rest) (some : rest ≠ [])
    (shows : world.Shows entered) (current : entered.current = places.map (·.2))
    (history : entered.history = []) :
    ∃ now, (engine.arriveAll entered.entry.id world done).Shows
      (entered.afterAll places done now) := by
  induction done using List.reverseRecOn generalizing rest with
  | nil =>
    have same : entered.afterAll places [] entered.now = entered := by
      simp [Picture.afterAll, Place.waiting_nil, Place.arrived, ← current, ← history]
    exact ⟨entered.now, by rw [same]; exact shows⟩
  | append_singleton done arrival ih =>
    have earlier : arrivals = done ++ arrival :: rest := by simp [split]
    obtain ⟨now, before⟩ := ih earlier (List.cons_ne_nil _ _)
    obtain ⟨-, waits, -⟩ := Engine.arrive_scheduled barrier registered literal opened schedule active
      workflow earlier before
    refine ⟨arrival.now, ?_⟩
    unfold Engine.arriveAll
    rw [List.foldl_append]
    exact waits some

end

namespace World.Shows

variable {picture : Picture} {world : World} (shows : world.Shows picture)

include shows

/-- What the store holds of an entry that its picture shows waiting. -/
theorem waits {places : List Place} {done : List Arrival}
    (active : picture.entry.state = .activated) (current : picture.current = Place.waiting places done)
    (history : picture.history = Place.arrived places done) :
    world.store.Waits picture.entry.id places done picture.count where
  active := ⟨picture.entry, shows.findEntry?, active⟩
  current := shows.currentSteps.trans current
  history := shows.historySteps.trans history
  noStep := shows.count

end World.Shows

/-- Whatever the order in which the branches arrive, whoever executes their actions and whenever:
an entry that is started has a step for each branch; every call on the action of a branch succeeds;
all but the last one leave the barrier as it is, but for their own branch; and the last one passes
it. -/
theorem Engine.barrier_holds_until_last {engine : Engine} {blueprint : Blueprint} {entrance : Action}
    {branches : List Branch} {join : Join} {further : StepDef}
    (barrier : blueprint.Barrier entrance branches join further)
    (registered : engine.catalog.get blueprint.name = .ok blueprint) (literal : engine.kit.Literal)
    (inputs : Values) {world : World} (numbered : world.store.Numbered)
    (sound : ∀ method call, world.outages.verdict method call = none) {arrivals : List Arrival}
    (order : (arrivals.map (·.action)).Perm (branches.map (·.action.id))) :
    let started := engine.startEntry blueprint.name entrance.id inputs world
    let count := started.world.store.stepCount
    ∃ entryId places, started.result = .ok entryId ∧ Place.Opened entryId branches places ∧
      started.world.store.Waits entryId places [] count ∧
      ∀ done arrival rest, arrivals = done ++ arrival :: rest →
        let reply := engine.arrive entryId (engine.arriveAll entryId started.world done) arrival
        reply.result = .ok () ∧
          (rest ≠ [] → reply.world.store.Waits entryId places (done ++ [arrival]) count) ∧
          (rest = [] → reply.world.store.Passed entryId places arrivals further count) := by
  intro started count
  obtain ⟨answered, places, opened, shows⟩ :=
    Engine.enter_succeeds barrier registered literal inputs numbered sound
  let entered := Picture.entered world blueprint places
  have active : entered.entry.state = .activated := rfl
  have workflow : entered.entry.workflow = blueprint.name := rfl
  have own : Place.Opened entered.entry.id branches places := opened
  have counted : count = entered.count := shows.count
  have numbers : branches.map (·.action.id) = places.map (·.1.action.id) := by
    rw [← opened.branches, List.map_map]
    rfl
  have schedule : Place.Schedule places arrivals :=
    ⟨numbers ▸ barrier.differ registered, numbers ▸ order⟩
  refine ⟨entered.entry.id, places, answered, opened, ?_, fun done arrival rest split => ?_⟩
  · rw [counted]
    exact shows.waits rfl (Place.waiting_nil places).symm rfl
  · obtain ⟨now, before⟩ := Engine.arriveAll_scheduled barrier registered literal own schedule
      active workflow split (List.cons_ne_nil _ _) shows rfl rfl
    obtain ⟨answered, waits, passes⟩ := Engine.arrive_scheduled barrier registered literal own
      schedule active workflow split before
    refine ⟨answered, fun some => ?_, fun none => ?_⟩
    · rw [counted]
      exact (waits some).waits rfl rfl rfl
    · obtain ⟨previous, new, isBeyond, all, shows⟩ := passes none
      have whole : arrivals = done ++ [arrival] := by rw [split, none]
      rw [counted, whole]
      refine ⟨⟨_, shows.findEntry?, rfl⟩,
        ⟨_, shows.currentSteps, isBeyond.defId, isBeyond.entryId, ?_⟩,
        shows.historySteps, shows.count⟩
      show new.previous.Perm _
      rw [isBeyond.previous]
      exact all

/-! ### Two branches -/

/-- How either of two branches is left. -/
def twinLeaving : Outcome where
  target := .join 1
  oldStatus := Branch.done

/-- A branch with one action. -/
def twinBranch (id : StepDefId) (number : ActionId) : Branch where
  entering := { target := .step id, status := "Open" }
  definition := { id, actions := [{ id := number, unconditionalOutcome := some twinLeaving }] }
  action := { id := number, unconditionalOutcome := some twinLeaving }
  leaving := twinLeaving

def twinBranches : List Branch :=
  [twinBranch 1 10, twinBranch 2 20]

def twinEntrance : Action where
  id := 1
  unconditionalOutcome := some { target := .split 1 }

/-- The condition that the branch of the step has arrived. -/
def twinCondition (id : StepDefId) : Condition :=
  .leaf { call := {
    type := "join-status"
    args := ((∅ : Args).insert "stepId" (Text.integerText id.toInt)).insert "status" Branch.done } }

def twinJoin : Join where
  id := 1
  conditions := { children := [twinCondition 1, twinCondition 2] }
  outcome := some { target := .step 3 }

def twinBeyond : StepDef where
  id := 3
  actions := [{ id := 30, unconditionalOutcome := some { target := .step Target.sameStep } }]

/-- A workflow that consists of two branches and a step beyond them. -/
def twin : Blueprint where
  name := "twin"
  initialActions := [twinEntrance]
  steps := twinBranches.map (·.definition) ++ [twinBeyond]
  splits := [{ id := 1, outcomes := twinBranches.map (·.entering) }]
  joins := [twinJoin]

def twinEngine : Engine where
  catalog := ((default : Catalog).register twin).toOption.getD default

theorem plain_of_only {action : Action} {outcome : Outcome} (bare : outcome.Bare)
    (same : action = { id := action.id, unconditionalOutcome := some outcome }) :
    action.Plain outcome := by
  rw [same]
  exact ⟨nofun, rfl, rfl, rfl, rfl, rfl, rfl, bare⟩

private theorem twinBranch_feeds {id : StepDefId} {number : ActionId}
    (known : twin.step? id = some (twinBranch id number).definition)
    (ordinary : id ≠ 0 ∧ id ≠ Target.sameStep) :
    (twinBranch id number).Feeds twin twinJoin.id where
  target := rfl
  enteringBare := ⟨rfl, rfl, rfl⟩
  literal := show Template.hasOpening "Open".toList = false by decide
  undone := show "Open" ≠ Branch.done by decide
  definition := known
  ordinary := ordinary
  preFunctions := rfl
  postFunctions := rfl
  offers := rfl
  manual := rfl
  plain := plain_of_only ⟨rfl, rfl, rfl⟩ rfl
  arrives := rfl
  arrivesDone := rfl

private theorem twin_barrier :
    twin.Barrier twinEntrance twinBranches twinJoin twinBeyond where
  noGlobalActions := rfl
  noCommonActions := rfl
  noGlobalConditions := rfl
  noRegisters := rfl
  initial := rfl
  splits := ⟨{ target := .split 1 }, { id := 1, outcomes := twinBranches.map (·.entering) },
    plain_of_only ⟨rfl, rfl, rfl⟩ rfl, rfl, rfl, rfl⟩
  branching := nofun
  distinct := by decide
  feeds := by
    intro branch member
    rcases List.mem_cons.mp member with rfl | later
    · exact twinBranch_feeds rfl (by decide)
    · rw [List.mem_singleton.mp later]
      exact twinBranch_feeds rfl (by decide)
  joins := rfl
  asks := by
    have first : (twinCondition 1).AsksFor 1 := ⟨_, rfl, rfl, by decide, by decide⟩
    have second : (twinCondition 2).AsksFor 2 := ⟨_, rfl, rfl, by decide, by decide⟩
    refine ⟨rfl, fun child member => ?_, fun id member => ?_⟩
    · rcases List.mem_cons.mp member with rfl | later
      · exact ⟨1, by decide, first⟩
      · rw [List.mem_singleton.mp later]
        exact ⟨2, by decide, second⟩
    · rcases List.mem_cons.mp member with rfl | later
      · exact ⟨_, List.mem_cons_self .., first⟩
      · rw [List.mem_singleton.mp later]
        exact ⟨_, List.mem_cons_of_mem _ (List.mem_cons_self ..), second⟩
  leads := ⟨_, rfl, ⟨rfl, rfl, rfl⟩, rfl⟩
  beyond := by decide
  definition := rfl
  preFunctions := rfl
  goesOn := nofun
  manual := by decide

/-- The second branch arrives, by a caller, before the first one does, some time later. -/
theorem twin_passed_backwards :
    let second : Arrival := { action := 20, caller := some "zoe" }
    let first : Arrival := { action := 10, now := ⟨5, 0⟩ }
    let started := twinEngine.startEntry twin.name twinEntrance.id ∅ {}
    ∃ entryId places, started.result = .ok entryId ∧
      let half := twinEngine.arrive entryId started.world second
      half.world.store.Waits entryId places [second] 2 ∧
      (twinEngine.arrive entryId half.world first).world.store.Passed entryId places [second, first]
        twinBeyond 2 := by
  intro second first started
  have opened : started.world.store.stepCount = 2 := by decide +kernel
  obtain ⟨entryId, places, answered, -, -, arrives⟩ :=
    Engine.barrier_holds_until_last twin_barrier (show twinEngine.catalog.get "twin" = .ok twin from rfl)
      (Toolkit.literal_builtin rfl rfl) ∅ (show ({} : World).store.Numbered from rfl)
      (fun _ _ => rfl) (show ([second, first].map (·.action)).Perm _ from by decide)
  have same : twinEngine.startEntry twin.name twinEntrance.id ∅ {} = started := rfl
  rw [same] at answered arrives
  clear_value started
  rw [opened] at arrives
  have waits := (arrives [] second [first] rfl).2.1 (List.cons_ne_nil _ _)
  have passed := (arrives [second] first [] rfl).2.2 rfl
  exact ⟨entryId, places, answered, waits, passed⟩

end Caseflow
