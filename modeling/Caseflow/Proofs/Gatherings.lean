import Caseflow.Proofs.Arrangements
/-! Gatherings. An action that arrives at a join and does not finish its entry closes the step that
it leaves in any case. What it gathers is that step, the other current steps that can lead to the
join, and the steps of the past that can. Where the conditions of the join pass on these, the
current ones among them are retired as they are, and one step follows them all. Where they do not,
nothing else is touched. -/
namespace Caseflow

open Run

/-- Among steps with numbers of their own, those without the numbers of a part are the others. -/
theorem filter_apart {steps : List Step} (distinct : (steps.map (·.id)).Nodup) (part : Step → Bool) :
    (steps.filter fun step => step.id ∉ (steps.filter part).map (·.id)) =
      steps.filter fun step => !part step := by
  apply List.filter_congr
  intro step member
  cases isPart : part step with
  | true =>
    have among : step.id ∈ (steps.filter part).map (·.id) :=
      List.mem_map_of_mem (List.mem_filter.mpr ⟨member, isPart⟩)
    rw [decide_eq_false (not_not.mpr among), Bool.not_true]
  | false =>
    have apart : step.id ∉ (steps.filter part).map (·.id) := by
      intro among
      obtain ⟨other, isOther, same⟩ := List.mem_map.mp among
      obtain ⟨memberToo, isPartToo⟩ := List.mem_filter.mp isOther
      rw [List.inj_on_of_nodup_map distinct memberToo member same, isPart] at isPartToo
      cases isPartToo
    rw [decide_eq_true apart, Bool.not_false]

namespace Turn

variable {start turn after : Turn} {steps : Arrangement}

/-- Closing a step changes neither what the turn shows nor the properties at hand. -/
theorem sight_of_closed {step closed : Step} {actionId : ActionId} {status : String}
    (ran : Toolkit.closeStep step actionId status turn = (.ok closed, after)) :
    after.scope = turn.scope ∧ after.properties = turn.properties := by
  obtain ⟨held, _, marks, ran⟩ := of_andThen_ok ran
  obtain ⟨between, finished, rfl⟩ := of_onWorld_ok marks
  obtain ⟨_, _, moves, ran⟩ := of_andThen_ok ran
  obtain ⟨last, moved, rfl⟩ := of_onWorld_ok moves
  cases ran
  refine ⟨rfl, ?_⟩
  show last.store.propertiesOf turn.home = turn.world.store.propertiesOf turn.home
  have marked : between.store.propertiesOf turn.home = turn.world.store.propertiesOf turn.home := by
    cases World.served_of_request finished with
    | answered marked store done => exact Store.propertiesOf_markFinished done turn.home
    | absent value lost => cases lost
  rw [← marked]
  cases World.served_of_request moved with
  | answered value store done =>
    obtain ⟨_, moves, same⟩ := exists_of_map_eq_ok done
    cases same
    exact Store.propertiesOf_moveToHistory moves turn.home
  | absent value lost => cases lost

/-- Looking at the history changes neither of them. -/
theorem sight_of_recalled {id : EntryId} {history : List Step}
    (ran : Turn.onWorld (World.historySteps id) turn = (.ok history, after)) :
    after.scope = turn.scope ∧ after.properties = turn.properties := by
  obtain ⟨world, asked, rfl⟩ := of_onWorld_ok ran
  obtain ⟨store, -, -⟩ := World.historySteps_served (World.served_of_request asked)
  exact ⟨rfl, congrArg (Store.propertiesOf · turn.home) store⟩

/-- Showing branches to the guards touches no step. -/
theorem Arranged.showing (arranged : Arranged start steps turn) (branches : Option Branches) :
    Arranged start steps { turn with scope := { turn.scope with branches } } :=
  ⟨arranged.own, arranged.caller, arranged.blueprint, arranged.shown, arranged.world⟩

end Turn

namespace Toolkit

variable {kit : Toolkit} {start turn after : Turn} {steps : Arrangement} {leaving : Option Step}
  {outcome : Outcome} {action : Action}

/-- What feeds a join is found among the steps that are not left. -/
theorem feeding_eq (blueprint : Blueprint) (joinId : NodeId) (leaving : Option Step)
    (steps : List Step) :
    feeding blueprint joinId leaving steps =
      (others leaving steps).filter fun step => blueprint.resultsInJoin step.defId joinId := by
  simp only [feeding, others, List.filter_filter, Bool.and_comm]

/-- A step that was current is not in the history but for its closing. -/
theorem others_past {history : List Step} (closing : Closing)
    (apart : ∀ step ∈ leaving, step.id ∉ history.map (·.id)) :
    others leaving (history ++ leaving.toList.map closing.mark) = history := by
  cases leaving with
  | none => simp
  | some step =>
    have elsewhere : others (some step) history = history := by
      apply List.filter_eq_self.mpr
      intro other member
      have differs : other.id ≠ step.id := fun same =>
        apart step rfl (List.mem_map.mpr ⟨other, member, same⟩)
      simpa using differs
    have itself : others (some step) [closing.mark step] = [] := by
      simp [others, Closing.mark]
    calc others (some step) (history ++ [closing.mark step])
      _ = others (some step) history ++ others (some step) [closing.mark step] := List.filter_append ..
      _ = history := by rw [elsewhere, itself, List.append_nil]

/-- What is decided in a turn is decided in its scope and by its properties, in whatever world. -/
theorem decision_of_passesNow {tree : Option Conditions} {stepId : StepDefId} {passed : Bool}
    (ran : kit.passesNow tree stepId turn = (.ok passed, after)) (world : World) :
    (kit.treePasses turn.scope turn.properties stepId tree world).1 = .ok passed := by
  unfold passesNow at ran
  obtain ⟨now, _, seen, asks⟩ := of_andThen_ok ran
  cases seen
  obtain ⟨_, decided, -⟩ := Turn.of_onWorld_ok asks
  rw [answer_of_looks (treePasses_looks kit.extensions.refuses_any tree) world turn.world, decided]

/-- The arriving step is closed and shown as it then is. -/
theorem arrive_arranged {arrived : List Step} (arranged : Turn.Arranged start steps turn)
    (handles : Handles start.scope.entry.id steps.current)
    (among : ∀ step ∈ leaving, step ∈ steps.current)
    (ran : takeJoin.arrive kit action outcome leaving turn = (.ok arrived, after)) :
    arrived = leaving.toList.map
        (start.closing action.id (kit.statusLeft outcome turn)).mark ∧
      Turn.Arranged start
        (steps.leave (start.closing action.id (kit.statusLeft outcome turn)) leaving) after ∧
      after.scope = turn.scope ∧ after.properties = turn.properties := by
  cases leaving with
  | none =>
    cases ran
    rw [steps.leave_none]
    exact ⟨rfl, arranged, rfl, rfl⟩
  | some step =>
    unfold takeJoin.arrive at ran
    dsimp only at ran
    obtain ⟨status, _, told, closes⟩ := of_andThen_ok ran
    rw [oldStatus_eq] at told
    cases told
    obtain ⟨closed, _, ends, answers⟩ := of_andThen_ok closes
    cases answers
    obtain ⟨isClosed, left⟩ := arranged.closed handles (among step rfl) ends
    obtain ⟨scope, properties⟩ := Turn.sight_of_closed ends
    exact ⟨congrArg (fun step => [step]) isClosed, left, scope, properties⟩

section Standard

variable (standard : kit.extensions = Builtin.extensions)

include standard

/-- What is passed on from an arrival whose gathering is known: the outcome of the join and the
numbers of what was gathered, where the conditions pass. -/
theorem openJoin_arranged {joinId : NodeId} {join : Join} {opened : Option (Outcome × List StepId)}
    (arranged : Turn.Arranged start steps turn)
    (handles : Handles start.scope.entry.id steps.current)
    (among : ∀ step ∈ leaving, step ∈ steps.current) (shown : steps.shown = steps.current)
    (found : start.scope.blueprint.join? joinId = some join)
    (ran : kit.openJoin joinId action outcome leaving turn = (.ok opened, after)) :
    let left := steps.leave (start.closing action.id (kit.statusLeft outcome turn)) leaving
    let still := feeding start.scope.blueprint joinId leaving steps.shown
    let branches := leaving.toList.map (start.closing action.id (kit.statusLeft outcome turn)).mark ++
      still ++ feeding start.scope.blueprint joinId leaving left.history
    let decision := (kit.treePasses { turn.scope with branches := some branches } turn.properties 0
      (some join.conditions) turn.world).1
    decision = .ok false ∧ opened = none ∧ Turn.Arranged start left after ∨
      decision = .ok true ∧ ∃ joined, join.outcome = some joined ∧
        opened = some (joined, branches.map (·.id)) ∧ Turn.Arranged start (left.retire still) after := by
  intro left still branches decision
  unfold openJoin at ran
  obtain ⟨scope, _, seen, finds⟩ := of_andThen_ok ran
  cases seen
  obtain ⟨_, _, isFound, outcomes⟩ := of_andThen_ok finds
  obtain ⟨isJoin, rfl⟩ := of_ofOption_ok isFound
  rw [arranged.blueprint] at isJoin
  obtain rfl := Option.some.inj (isJoin.symm.trans found)
  obtain ⟨joined, _, isOutcome, arrives⟩ := of_andThen_ok outcomes
  obtain ⟨leads, rfl⟩ := of_ofOption_ok isOutcome
  obtain ⟨arrived, closed, closes, recalls⟩ := of_andThen_ok arrives
  obtain ⟨rfl, isLeft, sameScope, sameProperties⟩ := arrive_arranged arranged handles among closes
  dsimp only at recalls
  rw [arranged.own, arranged.blueprint, arranged.shown] at recalls
  obtain ⟨history, recalled, asked, shows⟩ := of_andThen_ok recalls
  obtain ⟨rfl, isRecalled⟩ := isLeft.recalled asked
  obtain ⟨sameScopeThen, samePropertiesThen⟩ := Turn.sight_of_recalled asked
  obtain ⟨_, _, showing, decides⟩ := of_andThen_ok shows
  cases showing
  obtain ⟨passed, judged, asks, goes⟩ := of_andThen_ok decides
  have judges := decision_of_passesNow asks
  have decided : decision = .ok passed := by
    have sees : recalled.properties = Turn.properties _ := samePropertiesThen.trans sameProperties
    dsimp only [decision]
    rw [← sees, ← sameScope, ← sameScopeThen]
    exact judges _
  have hosts (steps : Arrangement) : kit.Hosts _ (Turn.Arranged start steps) :=
    arranged_hosted standard
  have isJudged := ((hosts left).guards _ _).answer (isRecalled.showing _) asks
  cases passed with
  | false =>
    cases goes
    exact .inl ⟨decided, rfl, isJudged⟩
  | true =>
    refine .inr ⟨decided, joined, leads, ?_⟩
    rw [if_pos rfl] at goes
    obtain ⟨_, _, validated, runs⟩ := of_andThen_ok goes
    obtain ⟨_, _, run, retires⟩ := of_andThen_ok runs
    obtain ⟨_, _, retired, answers⟩ := of_andThen_ok retires
    cases answers
    have before := ((hosts left).functions _).answer
      (((hosts left).validators _).answer isJudged validated) run
    refine ⟨rfl, before.retired ?_ ?_ ?_ retired⟩
    · exact handles.sublist (List.filter_sublist ..)
    · exact (shown ▸ handles.distinct).sublist ((List.filter_sublist ..).map _)
    · intro step feeds
      obtain ⟨isShown, elsewhere, -⟩ := mem_feeding.mp feeds
      apply List.mem_filter.mpr
      exact ⟨shown ▸ isShown, by simpa using elsewhere⟩

/-- What follows on an arrival is one step, where the join has let the entry pass. -/
theorem followJoin_arranged {joined : Option (Outcome × List StepId)}
    (arranged : Turn.Arranged start steps turn) (goesOn : action.finish = false)
    (ran : kit.followJoin action leaving joined turn = (.ok (), after)) :
    match joined with
    | none => Turn.Arranged start steps after
    | some (joined, previous) => ∃ created,
      Step.EnteredFor created start.scope.entry.id joined leaving previous ∧
        created.id = steps.count + 1 ∧
        Turn.Arranged start (steps.enter leaving.isNone [created]) after := by
  unfold followJoin at ran
  cases joined with
  | none =>
    cases ran
    exact arranged.showing none
  | some following =>
    obtain ⟨joined, previous⟩ := following
    dsimp only at ran ⊢
    rw [if_pos (by simp [goesOn])] at ran
    obtain ⟨_, _, enters, runs⟩ := of_andThen_ok ran
    obtain ⟨_, _, run, hides⟩ := of_andThen_ok runs
    cases hides
    obtain ⟨created, isFor, number, entered⟩ :=
      enterStep_arranged standard arranged (by simp) (by simp) enters
    rw [if_neg (by simp)] at entered
    have ends := ((arranged_hosted standard).functions _).answer entered run
    exact ⟨created, isFor, number, ends.showing none⟩

end Standard

end Toolkit

namespace Execution

variable {execution : Execution} {leaving : Option Step}

/-- An action that arrives at a join closes the step that it leaves, and then either nothing else
is touched, or the current steps that it gathers are retired and one step follows all that it
gathers. -/
theorem joins_exactly {happenings : List Happening} {outcome : Outcome} {joinId : NodeId} {join : Join}
    {now last : Turn} {progress : Progress}
    (standard : execution.kit.extensions = Builtin.extensions)
    (reached : execution.turn.world = World.through {} happenings)
    (shown : execution.turn.scope.currentSteps =
      execution.turn.world.store.currentSteps execution.entryId)
    (goesOn : execution.chosen.action.finish = false)
    (readied : execution.kit.ready execution.chosen execution.turn.scope
      (execution.turn.begun execution.chosen) = (.ok (leaving, outcome), now))
    (arrives : outcome.target = .join joinId)
    (found : execution.turn.scope.blueprint.join? joinId = some join)
    (answered : execution.kit.execute execution.chosen execution.turn = (.ok progress, last)) :
    let store := execution.turn.world.store
    let id := execution.entryId
    let closing := execution.turn.closing execution.chosen.action.id
      (execution.kit.statusLeft outcome now)
    let feeds := fun step : Step => execution.turn.scope.blueprint.resultsInJoin step.defId joinId
    let others := Toolkit.others leaving (store.currentSteps id)
    let closed := leaving.toList.map closing.mark
    let branches := closed ++ others.filter feeds ++ (store.historySteps id).filter feeds
    let noted := execution.turn.world.journal.filter Event.isClosing ++
      leaving.toList.flatMap closing.events
    let decision := (execution.kit.treePasses { now.scope with branches := some branches }
      now.properties 0 (some join.conditions) now.world).1
    (∀ step ∈ leaving, step ∈ store.currentSteps id) ∧
      (decision = .ok false ∧
          execution.turn.Arranged
            { current := others
              history := store.historySteps id ++ closed
              shown := execution.turn.scope.currentSteps
              count := store.stepCount
              closings := noted } last ∨
        decision = .ok true ∧ ∃ joined created, join.outcome = some joined ∧
          Step.EnteredFor created id joined leaving (branches.map (·.id)) ∧
          created.id = store.stepCount + 1 ∧
          execution.turn.Arranged
            { current := (others.filter fun step => !feeds step) ++ [created]
              history := store.historySteps id ++ closed ++ others.filter feeds
              shown := execution.turn.scope.currentSteps ++
                if leaving.isNone then [created] else []
              count := store.stepCount + 1
              closings := noted ++ (others.filter feeds).map (.stepMoved ·.id) } last) := by
  intro store id closing feeds others closed branches noted decision
  obtain ⟨_, _, booked⟩ := World.through_booked happenings
  rw [← reached] at booked
  have handles : Handles id (store.currentSteps id) := booked.handles id
  obtain ⟨isShown, before⟩ := ready_arranged standard readied
  rw [shown] at isShown
  obtain ⟨taken, takes, concludes⟩ := of_executed readied answered
  unfold Toolkit.takeOutcome at takes
  rw [arrives] at takes
  dsimp only at takes
  rw [Toolkit.takeJoin_eq] at takes
  obtain ⟨opened, arrived, opens, follows⟩ := of_andThen_ok takes
  have gathers := Toolkit.openJoin_arranged standard before handles isShown shown found opens
  have apart : ∀ step ∈ leaving, step.id ∉ (store.historySteps id).map (·.id) := by
    intro step leaves past
    have distinct := booked.distinct id
    rw [Store.steps, List.map_append] at distinct
    exact (List.nodup_append.mp distinct).2.2 step.id (List.mem_map_of_mem (isShown step leaves))
      step.id past rfl
  have still : Toolkit.feeding execution.turn.scope.blueprint joinId leaving
      execution.turn.scope.currentSteps = others.filter feeds := by
    rw [Toolkit.feeding_eq, shown]
  have past : Toolkit.feeding execution.turn.scope.blueprint joinId leaving
      (store.historySteps id ++ leaving.toList.map closing.mark) =
        (store.historySteps id).filter feeds := by
    rw [Toolkit.feeding_eq, Toolkit.others_past closing apart]
  dsimp only [Turn.arrangement, Arrangement.leave] at gathers
  rw [still, past] at gathers
  refine ⟨isShown, ?_⟩
  rcases gathers with ⟨refused, rfl, left⟩ | ⟨passed, joined, leads, rfl, retired⟩
  · have ends := Toolkit.followJoin_arranged standard left goesOn follows
    exact .inl ⟨refused, (Toolkit.conclude_arranged standard ends goesOn concludes).2⟩
  · obtain ⟨created, isFor, number, entered⟩ :=
      Toolkit.followJoin_arranged standard retired goesOn follows
    have ends := (Toolkit.conclude_arranged standard entered goesOn concludes).2
    refine .inr ⟨passed, joined, created, leads, isFor, number, ?_⟩
    have distinct : (others.map (·.id)).Nodup :=
      handles.distinct.sublist ((List.filter_sublist ..).map _)
    dsimp only [Arrangement.retire, Arrangement.enter] at ends
    rw [filter_apart distinct] at ends
    exact ends

end Execution

/-! ### A report that gathers what was found -/

/-- A workflow in which findings are brought together as soon as one of the first kind arrives. -/
def inquiry : Blueprint where
  name := "inquiry"
  initialActions :=
    [{ id := 1, name := "ask",
       unconditionalOutcome := some { target := .step 1, status := "Open" } }]
  steps :=
    [{ id := 1, name := "first",
       actions := [{ id := 10, name := "arrive",
                     unconditionalOutcome := some { target := .join 1, oldStatus := "Done" } }] },
     { id := 2, name := "second",
       actions := [{ id := 20, name := "follow",
                     unconditionalOutcome := some { target := .join 1, oldStatus := "Done" } }] },
     { id := 3, name := "aside",
       actions := [{ id := 30, name := "stay",
                     unconditionalOutcome := some { target := .step Target.sameStep } }] }]
  joins :=
    [{ id := 1
       conditions := {
         children := [.leaf { call := {
           type := "join-status"
           args := ((∅ : Args).insert "stepId" "1").insert "status" "Done" } }] }
       outcome := some { target := .step 3, status := "Open" } }]

/-- A second step is left; then a step aside, another second step and the first one are opened. -/
def inquiryBegun : List Happening :=
  let second : Step := { id := 1, entryId := 1, defId := 2, status := "Open", startDate := ⟨0, 0⟩ }
  [.asked (.createEntry "inquiry"), .asked (.setEntryState 1 .activated),
    .asked (.createStep { entryId := 1, defId := 2, startDate := ⟨0, 0⟩, status := "Open" }),
    .asked (.markFinished second ⟨20, ⟨0, 0⟩, "Done", none⟩), .asked (.moveToHistory second),
    .asked (.createStep { entryId := 1, defId := 3, startDate := ⟨0, 0⟩, status := "Open" }),
    .asked (.createStep { entryId := 1, defId := 2, startDate := ⟨0, 0⟩, status := "Open" }),
    .asked (.createStep { entryId := 1, defId := 1, startDate := ⟨0, 0⟩, status := "Open" })]

/-- The arrival of the first step. -/
def arriving : Execution where
  kit := { extensions := Builtin.extensions }
  chosen :=
    ⟨.step 1,
      { id := 10, name := "arrive",
        unconditionalOutcome := some { target := .join 1, oldStatus := "Done" } }⟩
  turn :=
    { world := World.through {} inquiryBegun
      scope := {
        caller := none
        entry := ⟨1, "inquiry", .activated, ⟨0, 0⟩⟩
        blueprint := inquiry
        currentSteps := (World.through {} inquiryBegun).store.currentSteps 1 }
      home := 1 }

/-- Both second steps are gathered, the one that was left long ago too; the step aside stays. -/
theorem arriving_joins :
    (arriving.kit.execute arriving.chosen arriving.turn).1 = .ok .continued ∧
      arriving.after.store.historyIds arriving.entryId = [1, 4, 3] ∧
      (arriving.after.store.currentSteps arriving.entryId).map
        (fun step => (step.id, step.previous)) = [(2, []), (5, [4, 3, 1])] := by
  have answered : (arriving.kit.execute arriving.chosen arriving.turn).1 = .ok .continued :=
    ok_of_eval (by decide +kernel)
  have readied : (arriving.kit.ready arriving.chosen arriving.turn.scope
      (arriving.turn.begun arriving.chosen)).1 =
        .ok (arriving.turn.scope.currentSteps[2]?, { target := .join 1, oldStatus := "Done" }) :=
    ok_of_eval (by decide +kernel)
  have reached : arriving.turn.world = World.through {} inquiryBegun := rfl
  have shown : arriving.turn.scope.currentSteps =
      arriving.turn.world.store.currentSteps arriving.entryId := rfl
  have goesOn : arriving.chosen.action.finish = false := rfl
  have found : arriving.turn.scope.blueprint.join? 1 = inquiry.joins.head? := rfl
  obtain ⟨-, ⟨refused, -⟩ | ⟨-, joined, created, leads, isFor, number, ends⟩⟩ :=
    Execution.joins_exactly rfl reached shown goesOn (eq_of_first readied) rfl found
      (eq_of_first answered)
  · exact absurd refused (by decide +kernel)
  · have history := congrArg (List.map (·.id)) ends.world.history
    have current := congrArg (List.map fun step => (step.id, step.previous)) ends.world.current
    have previous : created.previous = [4, 3, 1] := isFor.follows.trans (by decide +kernel)
    have count : arriving.turn.world.store.stepCount = 4 := by decide +kernel
    dsimp only at history
    rw [List.map_append, List.map_singleton, number, previous, count] at current
    unfold Execution.after Store.historyIds
    refine ⟨answered, history.trans ?_, current.trans ?_⟩
    · decide +kernel
    · decide +kernel

end Caseflow
