import Caseflow.Proofs.FittingCalls
/-! Rounds of joins. Where a workflow goes round, a join may fire again and again on one entry.
What a firing brings together are the current steps that can lead to the join and all steps of the
past that can; nobody notes what an earlier firing has brought together already. -/
namespace Caseflow

open Run

/-- An action that is executed in a turn. -/
structure Execution where
  kit : Toolkit
  chosen : ScopedAction
  turn : Turn

namespace Execution

/-- The number of the entry that the action is executed on. -/
abbrev entryId (execution : Execution) : EntryId :=
  execution.turn.scope.entry.id

/-- The world once the action was executed. -/
def after (execution : Execution) : World :=
  (execution.kit.execute execution.chosen execution.turn).2.world

/-- The steps of the entry that are there after the execution, current or not, and were not numbered
before. -/
def created (execution : Execution) : List Step :=
  (execution.after.store.steps execution.entryId).filter
    (execution.turn.world.store.stepCount < ·.id)

/-- The steps that the firing of a join creates, with the number of the join: what the action
creates, where the outcome that it chooses leads to a join. -/
def fired (execution : Execution) : List (NodeId × Step) :=
  let turn := execution.turn
  match execution.kit.ready execution.chosen turn.scope (turn.begun execution.chosen) with
  | (.ok (_, outcome), _) =>
    match outcome.target with
    | .join joinId => execution.created.map (joinId, ·)
    | _ => []
  | (.error _, _) => []

/-- What a step that was created by the firing of a join follows: what the join brought together
out of the current steps and the past, which is past for good by the end of the execution. -/
structure Fires (execution : Execution) (joinId : NodeId) (step : Step) : Prop where
  own : step.entryId = execution.entryId
  once : step.previous.Nodup
  kept : step ∈ execution.after.store.steps execution.entryId
  consumed : ∀ branch ∈ step.previous, branch ∈ execution.after.store.historyIds execution.entryId
  joins : ∃ leaving, (∀ arriving ∈ leaving, arriving ∈ execution.turn.scope.currentSteps) ∧
    Toolkit.Joins execution.turn.world execution.entryId execution.turn.scope.blueprint joinId
      leaving execution.turn.scope.currentSteps step

end Execution

/-- Among steps with numbers of their own only the step itself has its number. -/
theorem filter_own {steps : List Step} {step : Step} (distinct : (steps.map (·.id)).Nodup)
    (member : step ∈ steps) : steps.filter (·.id = step.id) = [step] := by
  induction steps with
  | nil => cases member
  | cons first rest ih =>
    obtain ⟨new, others⟩ := List.nodup_cons.mp distinct
    rcases List.mem_cons.mp member with rfl | later
    · rw [List.filter_cons_of_pos (by simp), List.filter_eq_nil_iff.mpr]
      intro other isOther same
      exact new (List.mem_map.mpr ⟨other, isOther, by simpa using same⟩)
    · rw [List.filter_cons_of_neg, ih others later]
      intro same
      exact new (List.mem_map.mpr ⟨step, later, by simpa using Eq.symm (of_decide_eq_true same)⟩)

private theorem same_of_id {steps : List Step} {step other : Step}
    (distinct : (steps.map (·.id)).Nodup) (member : step ∈ steps) (among : other ∈ steps)
    (same : other.id = step.id) : other = step := by
  have own : other ∈ steps.filter (·.id = step.id) := List.mem_filter.mpr ⟨among, by simpa using same⟩
  rw [filter_own distinct member] at own
  exact List.mem_singleton.mp own

/-- What a join brings together for a step is known of the step from its origin. -/
theorem Toolkit.Joins.of_origin {start : World} {id : EntryId} {blueprint : Blueprint}
    {joinId : NodeId} {leaving : Option Step} {shown : List Step} {step other : Step}
    (joins : Toolkit.Joins start id blueprint joinId leaving shown step)
    (same : step.origin = other.origin) :
    Toolkit.Joins start id blueprint joinId leaving shown other := by
  obtain ⟨past, grown, distinct, follows⟩ := joins
  have samePrevious : step.previous = other.previous := congrArg Origin.previous same
  exact ⟨past, grown, distinct, samePrevious ▸ follows⟩

/-- Where no step was created since, at most one step has a number that was not given out before. -/
theorem Store.Enters.newest {store after : Store} {id : EntryId} {count : Nat} {fit : Step → Prop}
    (enters : store.Enters id count fit) (lineal : after.Lineal) (grows : store.Grows after)
    (counts : after.Counts store.stepCount) :
    (after.steps id).filter (count < ·.id) = [] ∨
      ∃ entered step, fit entered ∧ entered.origin = step.origin ∧ step ∈ after.steps id ∧
        (after.steps id).filter (count < ·.id) = [step] := by
  have bounded : ∀ step ∈ after.steps id, step.id ≤ store.stepCount :=
    fun step member => counts ▸ lineal.bounded id step member
  rcases enters with counted | ⟨counted, entered, current, numbered, fits⟩
  · left
    rw [List.filter_eq_nil_iff]
    intro step member
    have bound := bounded step member
    rw [counted] at bound
    simpa using bound
  · right
    obtain ⟨step, stays, same⟩ := List.mem_map.mp
      (grows.kept id (List.mem_map_of_mem (List.mem_append_left _ current)))
    have sameId : step.id = count + 1 := (congrArg Origin.id same).trans numbered
    refine ⟨entered, step, fits, same.symm, stays, ?_⟩
    rw [← filter_own (lineal.distinct id) stays]
    refine List.filter_congr fun other member => ?_
    have bound := bounded other member
    rw [counted] at bound
    rw [sameId, decide_eq_decide]
    exact ⟨fun above => Nat.le_antisymm bound above, fun same => same ▸ Nat.lt_succ_self count⟩

section Firing

variable {execution : Execution} (standard : execution.kit.extensions = Builtin.extensions)
  (fresh : execution.turn.Fresh)

include standard fresh

/-- Where an action arrives at a join, at most one step is created by the time the outcome is
taken, and none after that. -/
private theorem arrival {leaving : Option Step} {outcome : Outcome} {now : Turn} {joinId : NodeId}
    (readied : execution.kit.ready execution.chosen execution.turn.scope
      (execution.turn.begun execution.chosen) = (.ok (leaving, outcome), now))
    (target : outcome.target = .join joinId) :
    (∀ arriving ∈ leaving, arriving ∈ execution.turn.scope.currentSteps) ∧
      ∃ taken : World, execution.turn.world.Proceeds taken ∧ taken.Proceeds execution.after ∧
        execution.after.store.Counts taken.store.stepCount ∧
        taken.store.Enters execution.entryId execution.turn.world.store.stepCount
          (Toolkit.Joins execution.turn.world execution.entryId execution.turn.scope.blueprint
            joinId leaving execution.turn.scope.currentSteps) := by
  have begun := Toolkit.ready_hooked standard execution.chosen execution.turn _ rfl
  rw [readied] at begun
  obtain ⟨isShown, hooked⟩ := begun
  have takes := Toolkit.takeJoin_arrives standard fresh.lineal fresh.known joinId
    execution.chosen.action outcome leaving fresh.handles execution.turn.mem_opening isShown
    now (fresh.displays hooked)
  have taking : execution.kit.takeOutcome execution.chosen.action outcome leaving =
      execution.kit.takeJoin joinId execution.chosen.action outcome leaving := by
    unfold Toolkit.takeOutcome
    rw [target]
  have after : execution.after = ((execution.kit.takeJoin joinId execution.chosen.action outcome leaving
      >>= fun _ => execution.kit.conclude execution.chosen execution.turn.scope outcome) now).2.world := by
    unfold Execution.after
    rw [Toolkit.execute_ready, bind_eq, andThen_ok readied, ← taking]
  refine ⟨isShown, ?_⟩
  cases reached : execution.kit.takeJoin joinId execution.chosen.action outcome leaving now with
  | mk result taken =>
    rw [reached] at takes
    cases result with
    | ok done =>
      rw [bind_eq, andThen_ok reached] at after
      have grown := takes.proceeds.lineal fresh.lineal
      have works := (Toolkit.conclude_works grown standard execution.chosen execution.turn.scope
        outcome).after (⟨takes.own, .here⟩ : Turn.Works taken.world execution.entryId taken)
      have counts := (Toolkit.conclude_counts standard taken.world.store.stepCount execution.chosen
        execution.turn.scope outcome).after (rfl : taken.world.store.Counts _)
      exact ⟨taken.world, takes.proceeds, after ▸ works.proceeds, after ▸ counts, takes.enters⟩
    | error failure =>
      rw [bind_eq, andThen_error reached] at after
      exact ⟨taken.world, takes.proceeds, after ▸ .here, after ▸ rfl, takes.left⟩

/-- The execution as a whole puts fitting requests only. -/
theorem Execution.proceeds : execution.turn.world.Proceeds execution.after := by
  have executes := Toolkit.execute_proceeds standard fresh execution.chosen
  exact (meets_failures executes fun _ _ ends => ends.1).ends rfl

/-- The action fires a join at most once, and what it creates then follows no step twice. -/
theorem fired_fires :
    execution.fired.length ≤ 1 ∧
      ∀ joined ∈ execution.fired, execution.Fires joined.1 joined.2 := by
  unfold Execution.fired
  dsimp only
  split
  · rename_i leaving outcome now readied
    split
    · rename_i joinId target
      obtain ⟨isShown, taken, proceeds, later, counts, enters⟩ :=
        arrival standard fresh readied target
      have taking := proceeds.lineal fresh.lineal
      have grown := later.lineal taking
      unfold Execution.created
      rcases enters.newest grown (later.grows taking) counts with nothing | found
      · rw [nothing]
        simp
      · obtain ⟨entered, step, joins, same, stays, only⟩ := found
        rw [only]
        refine ⟨by simp, fun joined member => ?_⟩
        obtain rfl : joined = (joinId, step) := by simpa using member
        have descends := grown.descent execution.entryId step stays
        exact ⟨grown.filed _ step stays, descends.once, stays,
          fun branch member => (descends.earlier branch member).2,
          leaving, isShown, joins.of_origin same⟩
    · simp
  · simp

end Firing

/-- What an entry had left before the join fired is counted where its definition can lead to the
join, whatever it was counted for before. -/
theorem Execution.Fires.counts {execution : Execution} {joinId : NodeId} {step past : Step}
    (fires : execution.Fires joinId step) (fresh : execution.turn.Fresh)
    (isPast : past ∈ execution.turn.world.store.historySteps execution.entryId) :
    past.id ∈ step.previous ↔
      execution.turn.scope.blueprint.resultsInJoin past.defId joinId = true := by
  obtain ⟨leaving, isShown, all, grown, distinct, brings⟩ := fires.joins
  have current {other : Step} (shown : other ∈ execution.turn.scope.currentSteps) :
      other.id ≠ past.id := by
    intro same
    rw [fresh.shown] at shown
    refine fresh.lineal.apart (List.mem_map_of_mem shown) ?_
    rw [same]
    exact List.mem_map_of_mem isPast
  have apart : some past.id ≠ leaving.map (·.id) := by
    intro same
    obtain ⟨arriving, isLeft, sameId⟩ := Option.map_eq_some_iff.mp same.symm
    exact current (isShown arriving isLeft) sameId
  rw [brings, Toolkit.gathered, List.mem_append, List.mem_append]
  constructor
  · rintro ((arrives | isShown) | wasLeft)
    · exact absurd (Option.mem_toList.mp arrives).symm apart
    · obtain ⟨other, feeds, same⟩ := List.mem_map.mp isShown
      exact absurd same (current (Toolkit.mem_feeding.mp feeds).1)
    · obtain ⟨other, feeds, same⟩ := List.mem_map.mp wasLeft
      obtain ⟨among, -, leads⟩ := Toolkit.mem_feeding.mp feeds
      obtain rfl := same_of_id distinct (grown.subset isPast) among same
      exact leads
  · intro leads
    refine .inr (List.mem_map_of_mem ?_)
    exact Toolkit.mem_feeding.mpr ⟨grown.subset isPast, apart, leads⟩

/-! ### The executions of a run -/

/-- Between two stores these actions are executed in turn, and what is there is only added to. -/
inductive Store.Passes : Store → List Execution → Store → Prop where
  | done {store after : Store} (grows : store.Grows after) : Passes store [] after
  | next {store after : Store} {execution : Execution} {rest : List Execution}
      (before : store.Grows execution.turn.world.store)
      (standard : execution.kit.extensions = Builtin.extensions) (fresh : execution.turn.Fresh)
      (later : Passes execution.after.store rest after) : Passes store (execution :: rest) after

namespace Store.Passes

variable {store middle after : Store} {executions rest : List Execution}

theorem onwards (grows : store.Grows middle) (passes : Passes middle executions after) :
    Passes store executions after := by
  cases passes with
  | done later => exact .done (grows.trans later)
  | next before standard fresh later => exact .next (grows.trans before) standard fresh later

theorem trans (left : Passes store executions middle) (right : Passes middle rest after) :
    Passes store (executions ++ rest) after := by
  induction left with
  | done grows => exact right.onwards grows
  | next before standard fresh _ ih => exact .next before standard fresh (ih right)

theorem grows (passes : Passes store executions after) : store.Grows after := by
  induction passes with
  | done grows => exact grows
  | next before standard fresh later ih =>
    exact (before.trans ((Execution.proceeds standard fresh).grows fresh.lineal)).trans ih

/-- The action is executed by the built-in extensions on an entry as it is stored. -/
theorem sound (passes : Passes store executions after) :
    ∀ execution ∈ executions, execution.kit.extensions = Builtin.extensions ∧
      execution.turn.Fresh ∧ store.Grows execution.turn.world.store ∧
      execution.after.store.Grows after := by
  induction passes with
  | done grows => simp
  | @next store after execution rest before standard fresh later ih =>
    have grows := (Execution.proceeds standard fresh).grows fresh.lineal
    intro other member
    rcases List.mem_cons.mp member with rfl | isLater
    · exact ⟨standard, fresh, before, later.grows⟩
    · obtain ⟨alsoStandard, alsoFresh, onwards, still⟩ := ih other isLater
      exact ⟨alsoStandard, alsoFresh, (before.trans grows).trans onwards, still⟩

/-- A step that fed an earlier firing is counted by a later one of the same entry where its
definition can lead to the join. -/
theorem recounts (passes : Passes store executions after) :
    executions.Pairwise fun first second =>
      ∀ earlier ∈ first.fired, ∀ later ∈ second.fired, earlier.2.entryId = later.2.entryId →
        (∀ branch ∈ earlier.2.previous, branch ∈ later.2.previous ↔
          ∃ past ∈ second.turn.world.store.historySteps later.2.entryId, past.id = branch ∧
            second.turn.scope.blueprint.resultsInJoin past.defId later.1 = true) ∧
        ∀ step ∈ second.turn.world.store.currentSteps later.2.entryId,
          step.id ∉ earlier.2.previous := by
  induction passes with
  | done grows => exact .nil
  | @next store after execution rest before standard fresh following ih =>
    refine .cons (fun second isLater => ?_) ih
    obtain ⟨alsoStandard, alsoFresh, grows, -⟩ := following.sound second isLater
    intro earlier firedFirst later firedSecond sameEntry
    have fires := (fired_fires standard fresh).2 earlier firedFirst
    have firesAgain := (fired_fires alsoStandard alsoFresh).2 later firedSecond
    have own : execution.entryId = second.entryId :=
      fires.own.symm.trans (sameEntry.trans firesAgain.own)
    rw [firesAgain.own]
    have consumed : ∀ branch ∈ earlier.2.previous,
        branch ∈ second.turn.world.store.historyIds second.entryId := by
      intro branch member
      rw [← own]
      exact grows.historyIds _ (fires.consumed branch member)
    constructor
    · intro branch member
      obtain ⟨held, isPast, rfl⟩ := List.mem_map.mp (consumed branch member)
      rw [firesAgain.counts alsoFresh isPast]
      constructor
      · intro leads
        exact ⟨held, isPast, rfl, leads⟩
      · rintro ⟨past, alsoPast, same, leads⟩
        have distinct := alsoFresh.lineal.distinct second.entryId
        rw [Store.steps, List.map_append] at distinct
        obtain rfl := same_of_id (List.nodup_append.mp distinct).2.1 isPast alsoPast same
        exact leads
    · intro step isCurrent member
      exact alsoFresh.lineal.apart (List.mem_map_of_mem isCurrent) (consumed step.id member)

end Store.Passes

namespace Engine

/-- The actions that a call executes, in order. -/
def executed (engine : Engine) (world : World) : Operation → List (ScopedAction × Turn)
  | .start workflow actionId inputs => engine.startExecutions workflow actionId inputs world
  | .act entryId actionId inputs =>
    engine.executions entryId inputs engine.kit.settings.maxAutoChainDepth actionId world
  | .changeState _ _ | .setProperty _ _ _ => []

/-- A selected action as it is executed by the engine. -/
def execution (engine : Engine) (selected : ScopedAction × Turn) : Execution :=
  ⟨engine.kit, selected.1, selected.2⟩

variable {engine : Engine} {entryId : EntryId} {inputs : Values} {number : ActionId} {world : World}
  (standard : engine.Standard)

include standard

private theorem execution_proceeds {selected : ScopedAction × Turn} (fresh : selected.2.Fresh) :
    selected.2.world.Proceeds (engine.execution selected).after := by
  have sound : (engine.execution selected).kit.extensions = Builtin.extensions := standard
  exact Execution.proceeds sound fresh

/-- What is settled after an execution goes on from it. -/
private theorem carryOn_proceeds {selected : ScopedAction × Turn} (fresh : selected.2.Fresh) :
    (engine.execution selected).after.Proceeds
      (engine.carryOn entryId inputs number selected world).2 := by
  have grown := (execution_proceeds standard fresh).lineal fresh.lineal
  have carried : Meets (fun _ => True) (engine.carryOn entryId inputs number selected)
      (fun _ => (engine.execution selected).after.Proceeds)
      (fun _ => (engine.execution selected).after.Proceeds) := by
    unfold carryOn
    refine meets_bind_via (fun _ => (engine.execution selected).after.Proceeds) ?_ fun progress =>
      meets_failures (settle_proceeds standard grown progress) fun _ _ ends => ends.1
    refine meets_resume fun turn same => ?_
    subst same
    have ended : (engine.kit.execute selected.1 selected.2).2.world =
        (engine.execution selected).after := rfl
    split
    · rename_i reached
      rw [← ended, reached]
      exact .here
    · rename_i reached
      rw [← ended, reached]
      exact .here
  exact carried.ends trivial

variable (lineal : world.store.Lineal)

include lineal

/-- What is picked is executed and settled. -/
private theorem picked_passes {pick : Run World (ScopedAction × Turn)}
    (fits : Meets (· = world) pick
      (fun reached after => reached.2.world = after ∧ world.Poises entryId reached.2)
      (fun failure after => world.Proceeds after ∧ world.Explains failure)) :
    Store.Passes world.store ((pick world).1.toOption.toList.map engine.execution)
      ((pick >>= engine.carryOn entryId inputs number) world).2.store := by
  have ends := fits world rfl
  rw [bind_eq]
  split at ends
  · rename_i reached after picked
    obtain ⟨rfl, poises⟩ := ends
    rw [andThen_ok picked, picked]
    refine .next (poises.proceeds.grows lineal) standard poises.toFresh (.done ?_)
    have grown := (execution_proceeds standard poises.toFresh).lineal poises.lineal
    exact (carryOn_proceeds standard poises.toFresh).grows grown
  · rename_i failure after picked
    rw [andThen_error picked, picked]
    exact .done (ends.1.grows lineal)

private theorem act_passes :
    Store.Passes world.store ((engine.selection entryId inputs number world).map engine.execution)
      (engine.act entryId inputs number world).2.store := by
  rw [act_eq]
  exact picked_passes standard lineal (select_fits standard lineal)

/-- A call passes through its executions. -/
theorem executions_pass (limit : Nat) :
    Store.Passes world.store
      ((engine.executions entryId inputs limit number world).map engine.execution)
      (andThen (engine.act entryId inputs number) (engine.chain entryId inputs limit)
        world).2.store := by
  induction limit generalizing number world with
  | zero =>
    have ends : (andThen (engine.act entryId inputs number) (engine.chain entryId inputs 0)
        world).2 = (engine.act entryId inputs number world).2 := by
      unfold andThen
      split
      · rename_i next after answered
        rw [answered]
        cases next <;> rfl
      · rename_i answered
        rw [answered]
    rw [ends]
    exact act_passes standard lineal
  | succ limit ih =>
    unfold executions
    rw [List.map_append]
    refine (act_passes standard lineal).trans ?_
    have suits : Meets (· = world) (engine.act entryId inputs number) _ _ :=
      act_suits standard lineal
    have later := suits world rfl
    unfold andThen
    cases answered : engine.act entryId inputs number world with
    | mk result after =>
      rw [answered] at later
      cases result with
      | error failure => exact .done (.refl _)
      | ok next =>
        cases next with
        | none => exact .done (.refl _)
        | some number => exact ih (later.lineal lineal)

/-- So does a chain of actions. -/
private theorem chained_pass (limit : Nat) (next : Option ActionId) :
    Store.Passes world.store
      ((engine.chained entryId inputs limit (.ok next, world)).map engine.execution)
      (engine.chain entryId inputs limit next world).2.store := by
  cases limit with
  | zero => cases next <;> exact .done (.refl _)
  | succ limit =>
    cases next with
    | none => exact .done (.refl _)
    | some number => exact executions_pass standard lineal limit

/-- So do the initial action and those that follow it. -/
private theorem initial_passes {entry : Entry} (blueprint : Blueprint) (action : Action)
    (known : (world.store.findEntry? entry.id).isSome)
    (empty : world.store.currentSteps entry.id = []) (limit : Nat) :
    Store.Passes world.store
      (((engine.initiate entry blueprint action inputs world).1.toOption.toList ++
        engine.chained entry.id inputs limit
          (engine.runInitial entry blueprint action inputs world)).map engine.execution)
      (andThen (engine.runInitial entry blueprint action inputs)
        (engine.chain entry.id inputs limit) world).2.store := by
  have suits : Meets (· = world) (engine.runInitial entry blueprint action inputs) _ _ :=
    runInitial_suits standard lineal blueprint action known empty
  have later := suits world rfl
  have initially : Store.Passes world.store
      ((engine.initiate entry blueprint action inputs world).1.toOption.toList.map engine.execution)
      (engine.runInitial entry blueprint action inputs world).2.store := by
    rw [runInitial_eq]
    exact picked_passes standard lineal (initiate_fits standard lineal blueprint action known empty)
  rw [List.map_append]
  refine initially.trans ?_
  unfold andThen
  cases reached : engine.runInitial entry blueprint action inputs world with
  | mk result after =>
    rw [reached] at later
    cases result with
    | error failure => cases limit <;> exact .done (.refl _)
    | ok next => exact chained_pass standard (later.lineal lineal) limit next

/-- So does the start of an entry. -/
theorem startExecutions_pass (workflow : String) (actionId : ActionId) (inputs : Values) :
    Store.Passes world.store
      ((engine.startExecutions workflow actionId inputs world).map engine.execution)
      (engine.startEntry workflow actionId inputs world).world.store := by
  unfold startExecutions
  cases found : engine.initialAction workflow actionId with
  | error failure =>
    unfold startEntry
    rw [found]
    exact .done (.refl _)
  | ok initial =>
    obtain ⟨blueprint, action⟩ := initial
    obtain ⟨name, sound⟩ := Catalog.get_sound (known_of_initial found)
    have named : Text.isAllBlank workflow = false := name ▸ blueprint.named_of_validate sound
    have creates := createEntry_fits named lineal world rfl
    dsimp only
    cases created : World.createEntry workflow world with
    | mk result after =>
      rw [created] at creates
      cases result with
      | error failure =>
        rw [startEntry_refused found created]
        exact .done (creates.1.grows lineal)
      | ok entry =>
        obtain ⟨proceeds, known, empty⟩ := creates
        rw [startEntry_world found created]
        refine Store.Passes.onwards (proceeds.grows lineal) ?_
        exact initial_passes standard (proceeds.lineal lineal) blueprint action known empty _

theorem executed_pass (operation : Operation) :
    Store.Passes world.store ((engine.executed world operation).map engine.execution)
      (engine.perform world operation).store := by
  cases operation with
  | start workflow actionId inputs =>
    exact startExecutions_pass standard lineal workflow actionId inputs
  | act entryId actionId inputs =>
    show Store.Passes _ _ (engine.doAction entryId actionId inputs world).world.store
    unfold doAction
    rw [Reply.world_ofRun]
    exact executions_pass standard lineal _
  | changeState entryId target =>
    exact .done (perform_grows standard lineal (.changeState entryId target)).2
  | setProperty entryId name value =>
    exact .done (perform_grows standard lineal (.setProperty entryId name value)).2

end Engine

/-! ### What the journal tells of the executions -/

/-- What is begun on an entry is told by the executions themselves. -/
private theorem begun_of_own {engine : Engine} {entryId : EntryId}
    {selections : List (ScopedAction × Turn)} {journal later : List Event}
    (begins : Begins entryId selections journal later)
    (own : ∀ selected ∈ selections, selected.2.scope.entry.id = entryId) :
    begunIn later = begunIn journal ++ (selections.map engine.execution).map
      fun execution => (execution.entryId, execution.chosen.key) := by
  rw [begins.begun, List.map_map]
  refine congrArg (begunIn journal ++ ·) (List.map_congr_left fun selected member => ?_)
  exact congrArg (·, selected.1.key) (own selected member).symm

namespace Engine

variable {engine : Engine} {entryId : EntryId} {inputs : Values} {number : ActionId} {world : World}

private theorem own_of_execution {limit : Nat} {selected : ScopedAction × Turn}
    (member : selected ∈ engine.executions entryId inputs limit number world) :
    selected.2.scope.entry.id = entryId :=
  Store.id_of_findEntry? (authorized_of_execution limit member).sees.found

private theorem own_of_chained {limit : Nat} {reached : Except Failure (Option ActionId) × World}
    {selected : ScopedAction × Turn}
    (member : selected ∈ engine.chained entryId inputs limit reached) :
    selected.2.scope.entry.id = entryId := by
  obtain ⟨limit, number, world, executed⟩ := execution_of_chained member
  exact own_of_execution executed

private theorem own_of_initiated {entry : Entry} {blueprint : Blueprint} {action : Action}
    {selected : ScopedAction × Turn}
    (member : selected ∈ (engine.initiate entry blueprint action inputs world).1.toOption.toList) :
    selected.2.scope.entry.id = entry.id := by
  obtain ⟨bindings, shown⟩ := (initiated_of_mem member).shown
  rw [shown]

private theorem startExecutions_begun (workflow : String) (actionId : ActionId) (inputs : Values) :
    begunIn (engine.startEntry workflow actionId inputs world).world.journal =
      begunIn world.journal ++
        ((engine.startExecutions workflow actionId inputs world).map engine.execution).map
          fun execution => (execution.entryId, execution.chosen.key) := by
  unfold startExecutions
  cases found : engine.initialAction workflow actionId with
  | error failure =>
    unfold startEntry
    simp [found]
  | ok initial =>
    obtain ⟨blueprint, action⟩ := initial
    have quiet : begunIn (World.createEntry workflow world).2.journal = begunIn world.journal :=
      ((lasting_begunIn _).enduring.request_keeps (.createEntry workflow)).after rfl
    dsimp only
    cases created : World.createEntry workflow world with
    | mk result after =>
      rw [created] at quiet
      cases result with
      | error failure => simp [startEntry_refused found created, quiet]
      | ok entry =>
        rw [startEntry_world found created, ← quiet]
        refine begun_of_own (initial_begin entry blueprint action _ after) fun selected member => ?_
        exact (List.mem_append.mp member).elim own_of_initiated own_of_chained

/-- A call begins the actions that it executes, and no others. -/
theorem executed_begun (operation : Operation) :
    begunIn (engine.perform world operation).journal = begunIn world.journal ++
      ((engine.executed world operation).map engine.execution).map
        fun execution => (execution.entryId, execution.chosen.key) := by
  cases operation with
  | start workflow actionId inputs => exact startExecutions_begun workflow actionId inputs
  | act entryId actionId inputs =>
    show begunIn (engine.doAction entryId actionId inputs world).world.journal = _
    unfold doAction
    rw [Reply.world_ofRun]
    exact begun_of_own (executions_begin _ actionId world) fun _ => own_of_execution
  | changeState entryId target =>
    show begunIn (engine.changeState entryId target world).world.journal = _ ++ []
    unfold changeState
    rw [Reply.world_ofRun, List.append_nil]
    refine (keeps_bind ((lasting_begunIn _).enduring.move_keeps _ _ _ _ _) fun _ => keeps_pure ()).after ?_
    rfl
  | setProperty entryId name value =>
    show begunIn (setProperty entryId name value world).2.journal = _ ++ []
    obtain ⟨looked, change, observed, reached⟩ := setProperty_world entryId name value world
    have quiet : begunIn looked.journal = begunIn world.journal :=
      (lasting_begunIn (begunIn world.journal)).observed rfl observed
    rw [reached, List.append_nil]
    exact quiet

end Engine

/-- Calls of standard engines lead from one world to the other, and these actions are executed on
the way, in order. -/
inductive World.Executes (start : World) : World → List Execution → Prop where
  | here : Executes start start []
  | call {world : World} {executions : List Execution} {engine : Engine}
      (before : Executes start world executions) (standard : engine.Standard)
      (operation : Operation) :
      Executes start (engine.perform world operation)
        (executions ++ (engine.executed world operation).map engine.execution)
  | meanwhile {world : World} {executions : List Execution} {calls : List Event}
      (before : Executes start world executions) (outages : Outages) (now : Instant)
      (areCalls : ∀ event ∈ calls, Event.isCall event = true) :
      Executes start { world.note calls with outages, now } executions

theorem World.Executes.leads {start world : World} {executions : List Execution}
    (executes : start.Executes world executions) : start.Leads world := by
  induction executes with
  | here => exact .here
  | call before standard operation ih => exact .call ih standard operation
  | meanwhile before outages now areCalls ih => exact .meanwhile ih outages now areCalls

theorem World.Executes.passes {start world : World} {executions : List Execution}
    (executes : start.Executes world executions) (lineal : start.store.Lineal) :
    start.store.Passes executions world.store := by
  induction executes with
  | here => exact .done (.refl _)
  | call before standard operation ih =>
    exact ih.trans (Engine.executed_pass standard (before.leads.grows lineal).1 operation)
  | meanwhile before outages now areCalls ih => exact ih

/-- The actions that are begun in a run are just its executions. -/
theorem World.Executes.begun {start world : World} {executions : List Execution}
    (executes : start.Executes world executions) :
    begunIn world.journal = begunIn start.journal ++
      executions.map fun execution => (execution.entryId, execution.chosen.key) := by
  induction executes with
  | here => simp
  | call before standard operation ih =>
    rw [Engine.executed_begun, ih, List.map_append, List.append_assoc]
  | @meanwhile world executions calls before outages now areCalls ih =>
    have quiet : begunIn calls = [] :=
      List.filterMap_eq_nil_iff.mpr fun event member => begun?_of_call (areCalls event member)
    rw [← ih]
    show begunIn (world.journal ++ calls) = _
    unfold begunIn at quiet ⊢
    rw [List.filterMap_append, quiet, List.append_nil]

/-- The executions of a run are just the actions that are begun in it. A firing of a join creates
one step, which stays and counts no step twice. Two firings on one entry count the same step just
where the step fed the first of them and its definition can lead to the join of the second; a step
that is current when the second one fires has not fed the first. -/
theorem firings_share_history {outages : Outages} {now : Instant} {world : World}
    {executions : List Execution} (executes : World.Executes { outages, now } world executions) :
    begunIn world.journal =
      executions.map (fun execution => (execution.entryId, execution.chosen.key)) ∧
    (∀ execution ∈ executions, execution.fired.length ≤ 1 ∧
      ∀ joined ∈ execution.fired, joined.2.previous.Nodup ∧
        joined.2.origin ∈ world.store.origins joined.2.entryId) ∧
    executions.Pairwise fun first second =>
      ∀ earlier ∈ first.fired, ∀ later ∈ second.fired, earlier.2.entryId = later.2.entryId →
        (∀ branch ∈ earlier.2.previous, branch ∈ later.2.previous ↔
          ∃ past ∈ second.turn.world.store.historySteps later.2.entryId, past.id = branch ∧
            second.turn.scope.blueprint.resultsInJoin past.defId later.1 = true) ∧
        ∀ step ∈ second.turn.world.store.currentSteps later.2.entryId,
          step.id ∉ earlier.2.previous := by
  have passes := executes.passes .new
  refine ⟨executes.begun, fun execution member => ?_, passes.recounts⟩
  obtain ⟨standard, fresh, -, grows⟩ := passes.sound execution member
  obtain ⟨once, fires⟩ := fired_fires standard fresh
  refine ⟨once, fun joined isFired => ⟨(fires joined isFired).once, ?_⟩⟩
  rw [(fires joined isFired).own]
  exact grows.kept _ (List.mem_map_of_mem (fires joined isFired).kept)

/-- The executions of so many rounds. -/
def ringExecutions : Nat → List Execution
  | 0 => (ringEngine.executed {} (.start "ring" 1 ∅)).map ringEngine.execution
  | rounds + 1 =>
    ringExecutions rounds ++
      (ringEngine.executed (ringWorld rounds) (.act 1 10 ∅)).map ringEngine.execution ++
      (ringEngine.executed (ringEngine.perform (ringWorld rounds) (.act 1 10 ∅))
        (.act 1 20 ∅)).map ringEngine.execution

theorem ring_executes (rounds : Nat) :
    World.Executes {} (ringWorld rounds) (ringExecutions rounds) := by
  have standard : ringEngine.Standard := rfl
  induction rounds with
  | zero => exact .call .here standard _
  | succ rounds ih => exact .call (.call ih standard _) standard _

/-- No step feeds a firing of the same join, on the same entry, in both executions. -/
def Execution.CountsApart (first second : Execution) : Prop :=
  ∀ earlier ∈ first.fired, ∀ later ∈ second.fired, earlier.1 = later.1 →
    earlier.2.entryId = later.2.entryId →
      ∀ branch ∈ earlier.2.previous, branch ∉ later.2.previous

instance : DecidableRel Execution.CountsApart := fun first second =>
  inferInstanceAs (Decidable (∀ earlier ∈ first.fired, ∀ later ∈ second.fired,
    earlier.1 = later.1 → earlier.2.entryId = later.2.entryId →
      ∀ branch ∈ earlier.2.previous, branch ∉ later.2.previous))

/-- The firing of the second round counts the first step again. -/
theorem first_step_counted_again :
    World.Executes {} (ringWorld 2) (ringExecutions 2) ∧
      ¬ (ringExecutions 2).Pairwise Execution.CountsApart :=
  ⟨ring_executes 2, by decide +kernel⟩

/-- In two rounds the join of the ring fires twice: for the first step, and for the third one with
the first one again. -/
theorem ring_fires_twice :
    World.Executes {} (ringWorld 2) (ringExecutions 2) ∧
      (∀ execution ∈ ringExecutions 2, execution.fired.length ≤ 1) ∧
      (ringExecutions 2).flatMap (fun execution =>
        execution.fired.map fun joined => (joined.1, joined.2.id, joined.2.previous)) =
          [(1, 2, [1]), (1, 4, [3, 1])] := by
  obtain ⟨-, firings, -⟩ := firings_share_history (ring_executes 2)
  exact ⟨ring_executes 2, fun execution member => (firings execution member).1, by decide +kernel⟩

end Caseflow
