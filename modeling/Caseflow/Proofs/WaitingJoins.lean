import Caseflow.Proofs.DeadEnds
/-! Joins that make an entry wait. An action that arrives at a join whose conditions do not pass
closes the step it leaves, and no other step is touched. The call then asks what is left to do for
the other steps. An entry whose steps are known to offer nothing is completed, and one that has no
step left counts as such: where the arriving step was the only one, there is nobody left to wait
for the other branches. -/
namespace Caseflow

open Run

/-- Any computation comes to some end. -/
theorem Run.meets_anyhow {σ α : Type} {before : σ → Prop} (computation : Run σ α) :
    Meets before computation (fun _ _ => True) fun _ _ => True := by
  intro state _
  split <;> trivial

namespace Toolkit

/-- The steps other than the one that is left. -/
def others (leaving : Option Step) (steps : List Step) : List Step :=
  steps.filter fun step => some step.id ≠ leaving.map (·.id)

@[simp] theorem others_none (steps : List Step) : others none steps = steps := by
  simp [others]

/-- Among steps with numbers of their own, closing one and moving it away leaves the others. -/
theorem erase_marked {steps : List Step} (distinct : (steps.map (·.id)).Nodup) (leaving : Step)
    (closing : Closing) :
    (steps.map fun held => if held.id = leaving.id then closing.mark held else held).eraseP
      (·.id = leaving.id) = others (some leaving) steps := by
  unfold others
  induction steps with
  | nil => rfl
  | cons first rest ih =>
    obtain ⟨apart, distinct⟩ := List.nodup_cons.mp distinct
    by_cases here : first.id = leaving.id
    · have elsewhere (step : Step) (member : step ∈ rest) : step.id ≠ leaving.id := by
        intro same
        exact apart (List.mem_map.mpr ⟨step, member, same.trans here.symm⟩)
      have unmarked : rest.map (fun held =>
          if held.id = leaving.id then closing.mark held else held) = rest := by
        conv_rhs => rw [← List.map_id rest]
        exact List.map_congr_left fun step member => if_neg (elsewhere step member)
      have kept : rest.filter (fun step => some step.id ≠ some leaving.id) = rest :=
        List.filter_eq_self.mpr fun step member => by simpa using elsewhere step member
      have marked : (closing.mark first).id = leaving.id := here
      rw [List.map_cons, unmarked, if_pos here, List.eraseP_cons_of_pos (by simpa using marked),
        List.filter_cons_of_neg (by simpa using here)]
      exact kept.symm
    · rw [List.map_cons, if_neg here, List.eraseP_cons_of_neg (by simpa using here), ih distinct,
        List.filter_cons_of_pos (by simpa using here)]

end Toolkit

namespace Turn

variable {entry : Entry} {around : Surroundings} {steps : List Step}

/-- The entry is stored as the turn shows it, and these are its current steps. -/
structure Lists (entry : Entry) (around : Surroundings) (steps : List Step) (turn : Turn) : Prop
    extends WorksOn entry around turn where
  current : turn.world.store.currentSteps entry.id = steps

/-- No hook touches a step. -/
theorem lists_stable : Stable (Lists entry around steps) := by
  intro before after hooked lists
  obtain ⟨change, store⟩ := hooked.store
  refine ⟨worksOn_stable hooked lists.toWorksOn, ?_⟩
  rw [store, Store.currentSteps_modifyProperties]
  exact lists.current

end Turn

/-! ### Closing the step that arrives -/

namespace Toolkit

variable {kit : Toolkit} {entry : Entry} {around : Surroundings} {steps : List Step}
  {leaving : Option Step}

theorem request_lists {request : StoreRequest} {left : List Step}
    (stays : ∀ (turn : Turn) value after, turn.Lists entry around steps →
      World.Served turn.world request (.ok value) after →
        Turn.Lists entry around left { turn with world := after }) :
    Meets (Turn.Lists entry around steps) (Turn.onWorld (Run.request request))
      (fun _ => Turn.Lists entry around left) fun _ _ => True := by
  refine meets_within fun turn lists => ?_
  refine meets_request (fun world value after same served => ?_) fun _ _ _ _ _ => trivial
  exact stays turn value after lists (same ▸ served)

theorem markFinished_lists {step : Step} (own : step.entryId = entry.id) (closing : Closing) :
    Meets (Turn.Lists entry around steps) (Turn.onWorld (World.markFinished step closing))
      (fun _ => Turn.Lists entry around
        (steps.map fun held => if held.id = step.id then closing.mark held else held))
      fun _ _ => True := by
  refine request_lists fun turn value after lists served => ?_
  refine ⟨⟨lists.shown, lists.holds.finished served⟩, ?_⟩
  cases served with
  | answered value store done =>
    refine (Store.currentSteps_markFinished done entry.id).trans ?_
    rw [if_pos own.symm, lists.current]
  | absent value lost => cases lost

theorem moveToHistory_lists {step : Step} (own : step.entryId = entry.id) :
    Meets (Turn.Lists entry around steps) (Turn.onWorld (World.moveToHistory step))
      (fun _ => Turn.Lists entry around (steps.eraseP (·.id = step.id))) fun _ _ => True := by
  refine request_lists fun turn value after lists served => ?_
  refine ⟨⟨lists.shown, lists.holds.moved served⟩, ?_⟩
  cases served with
  | answered value store done =>
    obtain ⟨_, moved, same⟩ := exists_of_map_eq_ok done
    cases same
    refine (Store.currentSteps_moveToHistory moved entry.id).trans ?_
    rw [if_pos own.symm, lists.current]
  | absent value lost => cases lost

/-- Looking at the history touches no step. -/
theorem historySteps_lists (id : EntryId) :
    Meets (Turn.Lists entry around steps) (Turn.onWorld (World.historySteps id))
      (fun _ => Turn.Lists entry around steps) fun _ _ => True := by
  refine request_lists fun turn value after lists served => ?_
  exact Turn.lists_stable (Turn.hooked_history turn served) lists

theorem showBranches_lists (branches : Option Branches) :
    Meets (Turn.Lists entry around steps) (showBranches branches)
      (fun _ => Turn.Lists entry around steps) fun _ _ => True :=
  meets_change fun _ lists => ⟨⟨lists.shown, lists.holds⟩, lists.current⟩

section Arriving

variable (handles : Handles entry.id steps)

include handles

theorem closeStep_lists {step : Step} (own : step.entryId = entry.id) (actionId : ActionId)
    (status : String) :
    Meets (Turn.Lists entry around steps) (closeStep step actionId status)
      (fun _ => Turn.Lists entry around (others (some step) steps)) fun _ _ => True := by
  unfold closeStep
  refine meets_read_bind fun turn _ => ?_
  refine meets_bind (markFinished_lists own _) fun closed => ?_
  refine meets_bind (moveToHistory_lists own) fun _ => ?_
  rw [erase_marked handles.distinct]
  exact meets_pure fun _ lists => lists

theorem arrive_lists (among : ∀ step ∈ leaving, step ∈ steps) (action : Action)
    (outcome : Outcome) :
    Meets (Turn.Lists entry around steps) (takeJoin.arrive kit action outcome leaving)
      (fun _ => Turn.Lists entry around (others leaving steps)) fun _ _ => True := by
  cases leaving with
  | none =>
    rw [others_none]
    exact meets_done fun _ lists => lists
  | some step =>
    refine meets_keeps_bind (oldStatus_keeps outcome) (fun _ _ _ (_ : True) => trivial)
      fun status => ?_
    have own : step.entryId = entry.id := handles.own step (among step rfl)
    refine meets_bind (closeStep_lists handles own action.id status) fun _ => ?_
    exact meets_pure fun _ lists => lists

/-- Where a join does not let the entry pass, the arriving step is closed and nothing else is. -/
theorem openJoin_lists {refused : Failure → Prop}
    (hosts : ∀ steps, kit.Hosts refused (Turn.Lists entry around steps))
    (among : ∀ step ∈ leaving, step ∈ steps) (joinId : NodeId) (action : Action)
    (outcome : Outcome) :
    Meets (Turn.Lists entry around steps) (kit.openJoin joinId action outcome leaving)
      (fun opened turn => opened = none → turn.Lists entry around (others leaving steps))
      fun _ _ => True := by
  unfold openJoin
  refine meets_keeps_bind scopeNow_keeps (fun _ _ _ (_ : True) => trivial) fun scope => ?_
  refine meets_keeps_bind (keeps_ofOption trivial) (fun _ _ _ (_ : True) => trivial) fun join => ?_
  refine meets_keeps_bind (keeps_ofOption trivial) (fun _ _ _ (_ : True) => trivial)
    fun joined => ?_
  refine meets_bind (arrive_lists handles among action outcome) fun arrived => ?_
  refine meets_bind (historySteps_lists _) fun history => ?_
  refine meets_bind (showBranches_lists _) fun _ => ?_
  refine meets_keeps_bind ((hosts _).guards _ _) (fun _ _ _ _ => trivial) fun passed => ?_
  split
  · -- a join that lets the entry pass answers its outcome
    refine meets_bind_via (fun _ _ => True) (meets_anyhow _) fun _ => ?_
    refine meets_bind_via (fun _ _ => True) (meets_anyhow _) fun _ => ?_
    refine meets_bind_via (fun _ _ => True) (meets_anyhow _) fun _ => ?_
    exact meets_pure fun _ _ => nofun
  · exact meets_pure fun _ lists _ => lists

end Arriving

/-- What follows on the outcome of an action that neither starts nor finishes the entry touches no
step. -/
theorem conclude_lists {refused : Failure → Prop}
    (hosts : kit.Hosts refused (Turn.Lists entry around steps)) {chosen : ScopedAction}
    (later : chosen.scope ≠ .initial) (goesOn : chosen.action.finish = false) (scope : Scope)
    (outcome : Outcome) :
    Meets (Turn.Lists entry around steps) (kit.conclude chosen scope outcome)
      (fun progress turn => progress = .continued ∧ turn.Lists entry around steps)
      fun _ _ => True := by
  have idle : Keeps (Turn.Lists entry around steps) (fun _ => True)
      (kit.activate scope.entry.id chosen.scope) := by
    unfold activate
    refine keeps_bind scopeNow_keeps fun now => ?_
    rw [if_neg fun needed => later needed.1]
    exact keeps_pure ()
  unfold conclude
  refine meets_keeps_bind (hosts.functions _) (fun _ _ _ _ => trivial) fun _ => ?_
  refine meets_keeps_bind (hosts.functions _) (fun _ _ _ _ => trivial) fun _ => ?_
  refine meets_keeps_bind idle (fun _ _ _ _ => trivial) fun _ => ?_
  unfold finish
  rw [goesOn]
  exact meets_pure fun _ lists => ⟨rfl, lists⟩

end Toolkit

namespace Execution

variable {execution : Execution} {leaving : Option Step}

/-- The step that the action leaves, if it leaves one, where the action arrives at a join that does
not let the entry pass. -/
def waiting (execution : Execution) : Option (Option Step) :=
  let turn := execution.turn
  match execution.kit.ready execution.chosen turn.scope (turn.begun execution.chosen) with
  | (.ok (leaving, outcome), now) =>
    match outcome.target with
    | .join joinId =>
      match execution.kit.openJoin joinId execution.chosen.action outcome leaving now with
      | (.ok none, _) => some leaving
      | _ => none
    | _ => none
  | (.error _, _) => none

theorem of_waiting (waits : execution.waiting = some leaving) :
    ∃ joinId outcome now last,
      execution.kit.ready execution.chosen execution.turn.scope
          (execution.turn.begun execution.chosen) = (.ok (leaving, outcome), now) ∧
        outcome.target = .join joinId ∧
        execution.kit.openJoin joinId execution.chosen.action outcome leaving now =
          (.ok none, last) := by
  unfold waiting at waits
  dsimp only at waits
  split at waits
  · rename_i left outcome now readied
    split at waits
    · rename_i joinId leads
      split at waits
      · rename_i last opened
        obtain rfl := Option.some.inj waits
        exact ⟨joinId, outcome, now, last, readied, leads, opened⟩
      · cases waits
    · cases waits
  · cases waits

/-- An action that waits at a join goes on with the entry as it was stored and its other steps. -/
theorem waits_lists {entry : Entry} {around : Surroundings} {steps : List Step}
    (standard : execution.kit.extensions = Builtin.extensions)
    (waits : execution.waiting = some leaving) (later : execution.chosen.scope ≠ .initial)
    (goesOn : execution.chosen.action.finish = false)
    (lists : execution.turn.Lists entry around steps)
    (shown : execution.turn.scope.currentSteps = steps) (handles : Handles entry.id steps) :
    Meets (· = execution.turn) (execution.kit.execute execution.chosen)
      (fun progress turn => progress = .continued ∧
        turn.Lists entry around (Toolkit.others leaving steps))
      fun _ _ => True := by
  have modest : execution.kit.extensions.Modest Builtin.Refusal :=
    standard ▸ Builtin.extensions_modest
  have hosts (held : List Step) : execution.kit.Hosts _ (Turn.Lists entry around held) :=
    Toolkit.hosts_of_modest Turn.lists_stable modest
  obtain ⟨joinId, outcome, now, last, readied, leads, opened⟩ := of_waiting waits
  have begun : (execution.turn.begun execution.chosen).Lists entry around steps :=
    ⟨⟨lists.shown, lists.holds.note (by simp [Event.stateOf?])⟩, lists.current⟩
  obtain ⟨isShown, hooked⟩ :=
    (Toolkit.ready_hooked standard execution.chosen execution.turn).answer rfl readied
  rw [shown] at isShown
  have arrived : last.Lists entry around (Toolkit.others leaving steps) :=
    (Toolkit.openJoin_lists handles hosts isShown joinId execution.chosen.action outcome).answer
      (Turn.lists_stable hooked begun) opened rfl
  have taken : execution.kit.takeOutcome execution.chosen.action outcome leaving now =
      Toolkit.showBranches none last := by
    unfold Toolkit.takeOutcome
    rw [leads]
    dsimp only
    rw [Toolkit.takeJoin_eq, bind_eq, andThen_ok opened]
    rfl
  have concludes := meets_bind (Toolkit.showBranches_lists none) fun _ =>
    Toolkit.conclude_lists (hosts (Toolkit.others leaving steps)) later goesOn execution.turn.scope
      outcome
  rintro _ rfl
  rw [Toolkit.execute_ready, bind_eq, andThen_ok readied, bind_eq]
  unfold andThen
  rw [taken]
  exact concludes last arrived

end Execution

/-! ### What is left to do -/

/-- All of the steps are known, and none declares an action. -/
def Blueprint.OffersNothing (blueprint : Blueprint) (steps : List Step) : Prop :=
  ∀ step ∈ steps, ∃ definition,
    blueprint.step? step.defId = some definition ∧ definition.hasActions = false

namespace Engine

variable {engine : Engine} {entry : Entry} {around : Surroundings} {blueprint : Blueprint}
  {start : World} {inputs : Values} {admitted : ExtensionKind → Failure → Prop}

theorem nothingLeft_iff {steps : List Step} :
    nothingLeft blueprint steps = true ↔ blueprint.OffersNothing steps := by
  simp [nothingLeft, Blueprint.OffersNothing, Option.any_eq_true]

/-- Where no action fires on its own, the search for one ends at once. -/
theorem findAutomatic_manual (manual : ∀ action ∈ blueprint.allActions, action.autoExecute = false)
    (kit : Toolkit) (steps : List Step) : kit.findAutomatic blueprint steps = done none := by
  have none : (Toolkit.candidates blueprint steps).filter (·.1.action.autoExecute) = [] := by
    refine List.filter_eq_nil_iff.mpr fun candidate member => ?_
    rw [manual _ (Blueprint.mem_allActions_of_candidate member)]
    exact Bool.false_ne_true
  unfold Toolkit.findAutomatic
  rw [none]
  rfl

/-- Where no action fires on its own, settling an active entry completes it if its steps offer
nothing and the settings say so, and else only looks. Nothing follows. -/
theorem settle_manual (refuses : engine.kit.extensions.Refuses admitted)
    (holds : start.Holds entry around) (active : entry.state = .activated)
    (known : engine.catalog.get entry.workflow = .ok blueprint)
    (manual : ∀ action ∈ blueprint.allActions, action.autoExecute = false) (actionId : ActionId) :
    Meets (· = start) (engine.settle entry.id actionId inputs .continued)
      (fun next after => next = none ∧
        ((engine.kit.settings.implicitFinish = true ∧
            blueprint.OffersNothing (start.store.currentSteps entry.id)) ∧
          after.Holds { entry with state := .completed } around ∨
        ¬ (engine.kit.settings.implicitFinish = true ∧
            blueprint.OffersNothing (start.store.currentSteps entry.id)) ∧
          World.Observed start after))
      fun _ _ => True := by
  unfold settle
  refine meets_bind (meets_mono (World.findEntry_observes start entry.id)
    (fun _ same => same ▸ .refl start) (fun _ _ ends => ends) fun _ _ _ => trivial)
    fun found => meets_given fun isEntry => ?_
  obtain rfl := Option.some.inj (isEntry.symm.trans holds.held)
  rw [if_neg (by simp [isActive_iff.mpr active])]
  refine meets_ofExcept_bind (fun _ _ _ _ => trivial) fun shown isKnown => ?_
  obtain rfl : shown = blueprint := Except.ok.inj (isKnown.symm.trans known)
  refine meets_bind (meets_failures (World.currentSteps_observes start found.id)
    fun _ _ _ => trivial) fun steps => meets_given fun listed => ?_
  subst listed
  rw [← nothingLeft_iff]
  split
  · rename_i idle
    refine meets_bind (meets_mono (Lifecycle.move_meets _ .completed actionId _)
      (fun _ observed => holds.observed observed) (fun _ _ moved => moved) fun _ _ _ => trivial)
      fun _ => ?_
    exact meets_pure fun _ moved => ⟨rfl, .inl ⟨by simpa using idle, moved⟩⟩
  · rename_i goesOn
    refine meets_bind (meets_mono (World.properties_observes start found.id)
      (fun _ observed => observed) (fun _ _ ends => ends.2) fun _ _ _ => trivial)
      fun properties => ?_
    refine meets_bind (meets_mono
      (World.looks_observes (Toolkit.buildScope_looks refuses _ inputs) start)
      (fun _ observed => observed) (fun _ _ ends => ends.2) fun _ _ _ => trivial) fun scope => ?_
    rw [findAutomatic_manual manual]
    refine meets_bind_via (fun automatic world => automatic = none ∧ World.Observed start world)
      (meets_turn fun world observed => ?_) fun automatic => meets_pure fun _ ends => ?_
    · rintro _ rfl
      exact ⟨rfl, observed⟩
    · obtain ⟨rfl, observed⟩ := ends
      exact ⟨rfl, .inr ⟨by simpa using goesOn, observed⟩⟩

/-- A call that succeeds executes the action that it has selected, settles what follows, and goes on
with that. -/
theorem settled_of_answered {entryId : EntryId} {number : ActionId} {world : World}
    {selected : ScopedAction × Turn}
    (answered : (engine.doAction entryId number inputs world).result = .ok ())
    (member : selected ∈ engine.selection entryId inputs number world) :
    ∃ progress last next middle,
      engine.kit.execute selected.1 selected.2 = (.ok progress, last) ∧
        engine.settle entryId number inputs progress last.world = (.ok next, middle) ∧
        engine.chain entryId inputs engine.kit.settings.maxAutoChainDepth next middle =
          (.ok (), (engine.doAction entryId number inputs world).world) := by
  obtain ⟨next, middle, acted, chained⟩ := of_andThen_ok (Reply.of_answered answered)
  rw [act_eq, bind_eq, andThen_ok (selected_of_mem member).1] at acted
  obtain ⟨progress, executed, resumed, settled⟩ := of_andThen_ok acted
  unfold resume at resumed
  cases reached : engine.kit.execute selected.1 selected.2 with
  | mk result last =>
    rw [reached] at resumed
    cases resumed
    exact ⟨progress, last, next, middle, rfl, settled, chained⟩

/-- An action that waits at a join closes the step it leaves. Where no action fires on its own, the
entry is completed then if every other step is known to offer nothing, as is the case if there is
none, and else it stays as it was with the other steps. -/
theorem waiting_stays_or_completes {entryId : EntryId} {number : ActionId} {world : World}
    {selected : ScopedAction × Turn} {leaving : Option Step} (standard : engine.Standard)
    (reachable : world.Reachable) (found : world.store.findEntry? entryId = some entry)
    (known : engine.catalog.get entry.workflow = .ok blueprint)
    (manual : ∀ action ∈ blueprint.allActions, action.autoExecute = false)
    (answered : (engine.doAction entryId number inputs world).result = .ok ())
    (member : selected ∈ engine.selection entryId inputs number world)
    (goesOn : selected.1.action.finish = false)
    (waits : (engine.execution selected).waiting = some leaving) :
    let still := Toolkit.others leaving (world.store.currentSteps entryId)
    let after := (engine.doAction entryId number inputs world).world.store
    (engine.execution selected).after.store.currentSteps entryId = still ∧
      ((engine.kit.settings.implicitFinish = true ∧ blueprint.OffersNothing still) ∧
          after.findEntry? entryId = some { entry with state := .completed } ∧
          after.currentSteps entryId = [] ∨
        ¬ (engine.kit.settings.implicitFinish = true ∧ blueprint.OffersNothing still) ∧
          after.findEntry? entryId = some entry ∧ entry.state = .activated ∧
          after.currentSteps entryId = still) := by
  intro still after
  have sound : (engine.execution selected).kit.extensions = Builtin.extensions := standard
  obtain ⟨-, picked⟩ := selected_of_mem member
  have sees := picked.sees
  obtain rfl : entry = selected.2.scope.entry := Option.some.inj (found.symm.trans sees.found)
  obtain rfl : selected.2.scope.entry.id = entryId := Store.id_of_findEntry? found
  -- up to the selection the call has only looked
  have tidy : world.Tidy ⟨world.outages.verdict, []⟩ := ⟨reachable.orderly, rfl, List.nil_prefix⟩
  have lists : selected.2.Lists selected.2.scope.entry _
      (world.store.currentSteps selected.2.scope.entry.id) :=
    ⟨⟨rfl, tidy.observed picked.observed, by rw [picked.observed.store]; exact found⟩,
      by rw [picked.observed.store]⟩
  have handles := reachable.lineal.handles selected.2.scope.entry.id
  have later : selected.1.scope ≠ .initial := by
    obtain ⟨before, stepId, after, split, -⟩ := picked.granted
    exact not_initial_of_candidate (split ▸ List.mem_append_right before (List.mem_cons_self ..))
  obtain ⟨progress, last, next, middle, executed, settled, chained⟩ :=
    settled_of_answered answered member
  obtain ⟨rfl, remains⟩ := (Execution.waits_lists sound waits later goesOn lists sees.steps
    handles).answer rfl executed
  have ends : (engine.execution selected).after = last.world := congrArg (·.2.world) executed
  obtain ⟨rfl, settles⟩ := (settle_manual standard.modest.toRefuses remains.holds sees.active known
    manual number).answer rfl settled
  rw [chain_none] at chained
  obtain rfl : middle = (engine.doAction selected.2.scope.entry.id number inputs world).world :=
    congrArg Prod.snd chained
  rw [remains.current] at settles
  refine ⟨ends ▸ remains.current, ?_⟩
  rcases settles with ⟨idle, completed⟩ | ⟨busy, observed⟩
  · exact .inl ⟨idle, completed.held, completed.orderly.rested _ _ completed.held rfl⟩
  · refine .inr ⟨busy, ?_, sees.active, ?_⟩
    · exact (congrArg (Store.findEntry? · _) observed.store).trans remains.holds.held
    · exact (congrArg (Store.currentSteps · _) observed.store).trans remains.current

end Engine

/-! ### A join that waits for a branch that is still to come -/

/-- A workflow in which the first of two branches is open from the start, and the second may be
opened at any time. -/
def early : Blueprint where
  name := "early"
  initialActions :=
    [{ id := 1, name := "enter",
       unconditionalOutcome := some { target := .step 1, status := "Open" } }]
  globalActions :=
    [{ id := 30, name := "invite",
       unconditionalOutcome := some { target := .step 2, status := "Open" } }]
  steps :=
    [{ id := 1, name := "first",
       actions := [{ id := 10, name := "arrive",
                     unconditionalOutcome := some { target := .join 1, oldStatus := "Done" } }] },
     { id := 2, name := "second",
       actions := [{ id := 20, name := "follow",
                     unconditionalOutcome := some { target := .join 1, oldStatus := "Done" } }] },
     { id := 3, name := "together",
       actions := [{ id := 40, name := "stay",
                     unconditionalOutcome := some { target := .step 3, status := "Open" } }] }]
  joins :=
    [{ id := 1
       conditions := {
         children := [.leaf { call := {
           type := "join-status"
           args := ((∅ : Args).insert "stepId" "2").insert "status" "Done" } }] }
       outcome := some { target := .step 3, status := "Open" } }]

def earlyEngine : Engine where
  catalog := ((default : Catalog).register early).toOption.getD default

/-- The join waits for the second branch, which nobody can open any more: the entry is completed. -/
theorem early_completed :
    let world := earlyEngine.perform {} (.start "early" 1 ∅)
    let reply := earlyEngine.doAction 1 10 ∅ world
    world.Reachable ∧ reply.result = .ok () ∧ world.store.currentIds 1 = [1] ∧
      reply.world.store.historyIds 1 = [1] ∧ reply.world.store.currentSteps 1 = [] ∧
      (reply.world.store.findEntry? 1).map (·.state) = some .completed := by
  intro world reply
  have standard : earlyEngine.Standard := rfl
  have reachable : world.Reachable := ⟨{}, ⟨0, 0⟩, .call .here standard _⟩
  have answered : reply.result = .ok () := ok_of_eval (by decide +kernel)
  have found : world.store.findEntry? 1 = some ⟨1, "early", .activated, ⟨0, 0⟩⟩ := by
    decide +kernel
  have waiting : (earlyEngine.selection 1 ∅ 10 world).map (fun selected =>
      ((earlyEngine.execution selected).waiting, selected.1.action.finish)) =
        [(some (world.store.currentSteps 1).head?, false)] := by
    decide +kernel
  obtain ⟨selected, only, waits⟩ := List.map_eq_singleton_iff.mp waiting
  obtain ⟨waits, goesOn⟩ := Prod.mk.inj waits
  have member : selected ∈ earlyEngine.selection 1 ∅ 10 world := by
    rw [only]
    exact List.mem_singleton_self selected
  have nobody :
      Toolkit.others (world.store.currentSteps 1).head? (world.store.currentSteps 1) = [] := by
    decide +kernel
  have known : earlyEngine.catalog.get "early" = .ok early := ok_of_eval (by decide +kernel)
  have manual : ∀ action ∈ early.allActions, action.autoExecute = false := by decide
  have ends := (Engine.waiting_stays_or_completes standard reachable found known manual answered
    member goesOn waits).2
  have replied : earlyEngine.doAction 1 10 ∅ world = reply := rfl
  rw [nobody, replied] at ends
  rcases ends with ⟨-, completed, left⟩ | ⟨busy, -⟩
  · refine ⟨reachable, answered, by decide +kernel, by decide +kernel, left, ?_⟩
    rw [completed]
    rfl
  · exact absurd ⟨rfl, nofun⟩ busy

end Caseflow
