import Mathlib.Data.List.Nodup
import Caseflow.Proofs.Authorization
import Caseflow.Proofs.Barrier
import Caseflow.Proofs.Pictures
/-! The way through a barrier, action by action. Entering it opens one step for every branch. Each
arrival closes its own step, and the last one opens the step beyond the join. -/
namespace Caseflow

open Run

/-- Where no key is repeated, an item is found by its key. -/
theorem find?_of_mem {α β : Type} [DecidableEq β] {key : α → β} {items : List α}
    (distinct : (items.map key).Nodup) {item : α} (member : item ∈ items) :
    items.find? (key · = key item) = some item := by
  cases found : items.find? (key · = key item) with
  | none => simpa using List.find?_eq_none.mp found item member
  | some first =>
    have same : key first = key item := by simpa using List.find?_some found
    exact congrArg some
      (List.inj_on_of_nodup_map distinct (List.mem_of_find?_eq_some found) member same)

/-- What stands around an item stands in the whole list. -/
theorem mem_around {α : Type} {earlier later : List α} {item other : α}
    (member : other ∈ earlier ++ later) : other ∈ earlier ++ item :: later := by
  rcases List.mem_append.mp member with before | behind
  · exact List.mem_append_left _ before
  · exact List.mem_append_right _ (List.mem_cons_of_mem _ behind)

/-- The step was opened for the branch. -/
structure Branch.OpenedAs (entryId : EntryId) (branch : Branch) (step : Step) : Prop where
  entryId : step.entryId = entryId
  defId : step.defId = branch.definition.id
  status : step.status = branch.entering.status

/-- Some of the branches are waiting, and the others have arrived done. -/
structure Underway (entryId : EntryId) (branches : List Branch) (waiting arrived : List Step) :
    Prop where
  own : ∀ step ∈ waiting, step.entryId = entryId
  undone : ∀ step ∈ waiting, step.status ≠ Branch.done
  done : ∀ step ∈ arrived, step.status = Branch.done
  ids : ((waiting ++ arrived).map (·.id)).Nodup
  covers : ((waiting ++ arrived).map (·.defId)).Perm (branches.map (·.definition.id))

section

variable {entryId : EntryId} {branches : List Branch} {earlier later arrived : List Step}
  {step : Step}

/-- A waiting branch that is closed has arrived. -/
theorem Underway.arrive (underway : Underway entryId branches (earlier ++ step :: later) arrived)
    {closed : Step} (id : closed.id = step.id) (defId : closed.defId = step.defId)
    (isDone : closed.status = Branch.done) :
    Underway entryId branches (earlier ++ later) (arrived ++ [closed]) := by
  have moves : ((earlier ++ later) ++ (arrived ++ [closed])).Perm
      ((earlier ++ closed :: later) ++ arrived) := by
    rw [← List.append_assoc]
    refine List.perm_append_singleton closed _ |>.trans ?_
    rw [List.append_assoc, List.append_assoc]
    exact List.perm_middle.symm
  refine ⟨fun other member => underway.own other (mem_around member),
    fun other member => underway.undone other (mem_around member), fun other member => ?_, ?_, ?_⟩
  · rcases List.mem_append.mp member with before | isLast
    · exact underway.done other before
    · rw [List.mem_singleton.mp isLast]
      exact isDone
  · have ids := underway.ids
    refine ((moves.map (·.id)).nodup_iff).mpr ?_
    simpa [id] using ids
  · refine (moves.map (·.defId)).trans ?_
    simpa [defId] using underway.covers

/-- What tells all steps of the barrier apart tells the others from a waiting one. -/
private theorem apart_of_nodup {α : Type} {key : Step → α}
    (distinct : ((earlier ++ step :: later ++ arrived).map key).Nodup) :
    ∀ other ∈ earlier ++ later ++ arrived, key other ≠ key step := by
  have first : ((earlier ++ step :: later) ++ arrived).Perm (step :: (earlier ++ later ++ arrived)) := by
    rw [List.append_assoc, List.cons_append, List.append_assoc]
    exact List.perm_middle
  have apart := ((first.map key).nodup_iff).mp distinct
  intro other member same
  exact (List.nodup_cons.mp apart).1 (List.mem_map.mpr ⟨other, member, same⟩)

/-- No other branch has the number of a waiting one. -/
theorem Underway.apart (underway : Underway entryId branches (earlier ++ step :: later) arrived) :
    ∀ other ∈ earlier ++ later ++ arrived, other.id ≠ step.id :=
  apart_of_nodup underway.ids

/-- No other branch has the step definition of a waiting one. -/
theorem Underway.apartByDefinition (distinct : (branches.map (·.definition.id)).Nodup)
    (underway : Underway entryId branches (earlier ++ step :: later) arrived) :
    ∀ other ∈ earlier ++ later ++ arrived, other.defId ≠ step.defId :=
  apart_of_nodup (underway.covers.nodup_iff.mpr distinct)

/-- Every step of the barrier is one of a branch. -/
theorem Underway.branch {waiting : List Step} (underway : Underway entryId branches waiting arrived)
    {other : Step} (member : other ∈ waiting ++ arrived) :
    ∃ branch ∈ branches, branch.definition.id = other.defId :=
  List.mem_map.mp (underway.covers.mem_iff.mp (List.mem_map_of_mem member))

/-- The join passes just where no branch is waiting, in whatever order it is shown the branches. -/
theorem Underway.decides {kit : Toolkit} (literal : kit.Literal) {blueprint : Blueprint}
    {entrance : Action} {join : Join} {further : StepDef}
    (barrier : blueprint.Barrier entrance branches join further) {waiting : List Step}
    (underway : Underway entryId branches waiting arrived) {nodes : Branches}
    (shown : nodes.Perm (waiting ++ arrived)) {scope : Scope} (shows : scope.branches = some nodes)
    (properties : Values) :
    Answers waiting.isEmpty (kit.treePasses scope properties 0 (some join.conditions)) := by
  have ordinary : ∀ id ∈ branches.map (·.definition.id), id ≠ 0 ∧ id ≠ Target.sameStep := by
    intro id member
    obtain ⟨branch, present, rfl⟩ := List.mem_map.mp member
    exact (barrier.feeds branch present).ordinary
  have covers := (shown.map (·.defId)).trans underway.covers
  cases waiting with
  | nil =>
    refine Toolkit.join_passes literal barrier.asks ordinary shows (fun id member => ?_) ?_
    · exact List.mem_map.mp (covers.mem_iff.mpr member)
    · exact fun branch member => underway.done branch (shown.mem_iff.mp member)
  | cons first rest =>
    have member : first ∈ nodes := shown.mem_iff.mpr (by simp)
    have distinct : (nodes.map (·.defId)).Nodup := covers.nodup_iff.mpr barrier.distinct
    refine Toolkit.join_refuses literal barrier.asks ordinary shows
      (covers.mem_iff.mp (List.mem_map_of_mem member)) (find?_of_mem distinct member) ?_
    exact underway.undone first (by simp)

end

/-- From the picture on, one step was opened for the outcome, under the next number. -/
def Turn.Opened (scope : Scope) (picture : Picture) (outcome : Outcome) (defId : StepDefId)
    (previous : List StepId) (turn : Turn) : Prop :=
  ∃ (new : NewStep) (listed : List Step),
    (new.entryId = picture.entry.id ∧ new.defId = defId ∧ new.previous = previous ∧
      (Template.hasOpening outcome.status.toList = false → new.status = outcome.status)) ∧
    turn.Shows
      { scope with createdStep := some (new.toStep (picture.count + 1)), currentSteps := listed }
      { picture with
        current := picture.current ++ [new.toStep (picture.count + 1)]
        count := picture.count + 1 }

/-- From the picture on, a step was opened for each of the branches, under the next numbers. -/
def Turn.Branched (scope : Scope) (picture : Picture) (branches : List Branch) (turn : Turn) :
    Prop :=
  ∃ (created : Option Step) (listed opened : List Step),
    (List.Forall₂ (Branch.OpenedAs picture.entry.id) branches opened ∧
      opened.map (·.id) = List.range' (picture.count + 1) branches.length) ∧
    turn.Shows { scope with createdStep := created, currentSteps := listed }
      { picture with
        current := picture.current ++ opened
        count := picture.count + branches.length }

namespace Toolkit

variable {kit : Toolkit} {picture : Picture} {scope : Scope}

/-! ### Closing and opening steps -/

/-- A current step is closed and moved behind the history. -/
theorem closeStep_succeeds {earlier later : List Step} {step : Step} (actionId : ActionId)
    (status : String) (own : step.entryId = picture.entry.id)
    (current : picture.current = earlier ++ step :: later)
    (apart : ∀ other ∈ earlier ++ later, other.id ≠ step.id) :
    let closed := Closing.mark ⟨actionId, picture.now, status, scope.caller⟩ step
    Succeeds (Turn.Shows scope picture) (closeStep step actionId status)
      (fun answer turn => answer = closed ∧ turn.Shows scope
        { picture with current := earlier ++ later, history := picture.history ++ [closed] }) := by
  intro closed
  have before : ∀ other ∈ earlier, ¬ other.id = step.id :=
    fun other member => apart other (List.mem_append_left _ member)
  have behind : ∀ other ∈ later, ¬ other.id = step.id :=
    fun other member => apart other (List.mem_append_right _ member)
  have finds (held : Step) (same : held.id = step.id) :
      (earlier ++ held :: later).find? (·.id = step.id) = some held := by
    have none : earlier.find? (·.id = step.id) = none :=
      List.find?_eq_none.mpr fun other member => by simpa using before other member
    simp [none, same]
  have unmarked {others : List Step} (elsewhere : ∀ other ∈ others, ¬ other.id = step.id)
      (closing : Closing) :
      (others.map fun other => if other.id = step.id then closing.mark other else other) = others := by
    refine (List.map_congr_left fun other member => ?_).trans (List.map_id others)
    exact if_neg (elsewhere other member)
  unfold closeStep
  refine Turn.read_succeeds fun turn shows => ?_
  rw [shows.world.now, shows.scope]
  refine meets_bind (Turn.onWorld_succeeds (World.markFinished_succeeds _ own
    (by rw [current]; exact finds step rfl))) fun answer => meets_given fun same => ?_
  subst same
  rw [current, List.map_append, List.map_cons, unmarked before, unmarked behind, if_pos rfl]
  refine meets_bind (Turn.onWorld_succeeds (World.moveToHistory_succeeds own
    (finds closed rfl))) fun _ => meets_given fun _ => ?_
  refine meets_pure fun turn shows => ⟨rfl, ?_⟩
  have erased : (earlier ++ closed :: later).eraseP (·.id = step.id) = earlier ++ later := by
    rw [List.eraseP_append_right, List.eraseP_cons_of_pos]
    · simp [closed, Closing.mark]
    · intro other member
      simpa using before other member
  rw [← erased]
  exact shows

/-- A status that is a literal and not empty is the status of the step left. -/
theorem oldStatus_succeeds (literal : kit.Literal) {outcome : Outcome}
    (plain : Template.hasOpening outcome.oldStatus.toList = false)
    (full : outcome.oldStatus.isEmpty = false) :
    Succeeds (Turn.Shows scope picture) (kit.oldStatus outcome)
      (fun status turn => status = outcome.oldStatus ∧ turn.Shows scope picture) := by
  unfold oldStatus textNow
  rw [bind_assoc]
  refine Turn.read_succeeds fun turn _ => meets_pure fun _ shows => ⟨?_, shows⟩
  rw [literal.texts _ _ _ plain, full]
  rfl

/-- A step is opened for the outcome, and nothing is left behind. -/
theorem enterStep_succeeds (literal : kit.Literal) {outcome : Outcome} {definition : StepDef}
    (actionId : ActionId) (leaving : Option Step) (previous : List StepId)
    (target : outcome.target = .step definition.id) (ordinary : definition.id ≠ Target.sameStep)
    (known : scope.blueprint.step? definition.id = some definition)
    (quiet : definition.preFunctions = []) (own : scope.entry.id = picture.entry.id)
    {closeLeaving : Bool} (stays : closeLeaving = true → leaving = none) :
    Succeeds (Turn.Shows scope picture)
      (kit.enterStep outcome actionId leaving closeLeaving previous)
      (fun _ => Turn.Opened scope picture outcome definition.id previous) := by
  have enters : enteredStep actionId leaving outcome.target = Run.done definition.id := by
    rw [target, enteredStep, if_neg ordinary]
  unfold enterStep
  rw [enters, done_bind]
  refine Turn.read_succeeds fun turn shows => ?_
  rw [shows.scope, known]
  show Succeeds (Turn.Shows scope picture) (done definition >>= _) _
  rw [done_bind]
  dsimp only
  have landing : Succeeds (Turn.Shows scope picture) (do
      let created ← Turn.onWorld (World.createStep (kit.plannedStep outcome definition.id previous turn))
      Turn.amendScope fun scope =>
        { scope with
          createdStep := some created
          currentSteps :=
            if leaving.isNone then scope.currentSteps ++ [created] else scope.currentSteps }
      kit.runFunctions definition.preFunctions)
      (fun _ => Turn.Opened scope picture outcome definition.id previous) := by
    have planned : (kit.plannedStep outcome definition.id previous turn).entryId = picture.entry.id := by
      rw [← own, ← shows.scope]
      rfl
    refine meets_bind (Turn.onWorld_succeeds (World.createStep_succeeds planned))
      fun created => meets_given fun same => ?_
    subst same
    refine meets_bind (Turn.amendScope_succeeds _) fun _ => ?_
    rw [quiet]
    refine meets_done fun after ends => ⟨_, _, ⟨planned, rfl, rfl, ?_⟩, ends⟩
    exact literal.texts _ _ _
  cases closeLeaving with
  | false => exact landing
  | true =>
    obtain rfl := stays rfl
    exact landing

/-! ### Entering the branches -/

/-- The branches are opened one after the other. -/
theorem enterSiblings_succeeds (literal : kit.Literal) {join : NodeId} (actionId : ActionId)
    (scope : Scope) (picture : Picture) {branches : List Branch}
    (feeds : ∀ branch ∈ branches, branch.Feeds scope.blueprint join)
    (own : scope.entry.id = picture.entry.id) (isFirst : Bool) :
    Succeeds (Turn.Shows scope picture)
      (kit.enterSiblings actionId none isFirst (branches.map (·.entering)))
      (fun _ => Turn.Branched scope picture branches) := by
  induction branches generalizing scope picture isFirst with
  | nil =>
    exact meets_done fun turn shows => ⟨scope.createdStep, scope.currentSteps, [],
      ⟨.nil, rfl⟩, by simpa using shows⟩
  | cons branch rest ih =>
    have branchFeeds := feeds branch (by simp)
    refine meets_andThen (enterStep_succeeds literal actionId none []
      branchFeeds.target branchFeeds.ordinary.2 branchFeeds.definition branchFeeds.preFunctions own
      fun _ => rfl) fun _ => ?_
    refine meets_some fun new => meets_some fun listed => meets_given fun facts => ?_
    obtain ⟨newOwn, defId, -, status⟩ := facts
    have remaining := ih
      { scope with createdStep := some (new.toStep (picture.count + 1)), currentSteps := listed }
      { picture with
        current := picture.current ++ [new.toStep (picture.count + 1)]
        count := picture.count + 1 }
      (fun other member => feeds other (List.mem_cons_of_mem _ member)) own false
    refine meets_answers remaining fun _ turn ends => ?_
    obtain ⟨created, listed, opened, ⟨each, ids⟩, shows⟩ := ends
    refine ⟨created, listed, new.toStep (picture.count + 1) :: opened,
      ⟨.cons ⟨newOwn, defId, status branchFeeds.literal⟩ each, ?_⟩, ?_⟩
    · simp [ids, List.range'_succ, NewStep.toStep]
    · simpa [List.append_assoc, Nat.add_comm, Nat.add_left_comm] using shows

/-- A split without hooks opens all its branches. -/
theorem takeSplit_succeeds (literal : kit.Literal) {join : NodeId} {action : Action}
    {branches : List Branch} {split : Split} (found : scope.blueprint.split? split.id = some split)
    (outcomes : split.outcomes = branches.map (·.entering)) (continues : action.finish = false)
    (feeds : ∀ branch ∈ branches, branch.Feeds scope.blueprint join)
    (own : scope.entry.id = picture.entry.id) :
    Succeeds (Turn.Shows scope picture) (kit.takeSplit split.id action none)
      (fun _ => Turn.Branched scope picture branches) := by
  have bare : ∀ outcome ∈ split.outcomes, outcome.Bare := by
    intro outcome member
    rw [outcomes] at member
    obtain ⟨branch, present, rfl⟩ := List.mem_map.mp member
    exact (feeds branch present).enteringBare
  have validators : split.outcomes.flatMap (·.validators) = [] :=
    List.flatMap_eq_nil_iff.mpr fun outcome member => (bare outcome member).validators
  have preFunctions : split.outcomes.flatMap (·.preFunctions) = [] :=
    List.flatMap_eq_nil_iff.mpr fun outcome member => (bare outcome member).preFunctions
  have postFunctions : split.outcomes.flatMap (·.postFunctions) = [] :=
    List.flatMap_eq_nil_iff.mpr fun outcome member => (bare outcome member).postFunctions
  unfold takeSplit
  refine Turn.scopeNow_succeeds ?_
  rw [found]
  show Succeeds (Turn.Shows scope picture) (done split >>= _) _
  rw [done_bind, validators, preFunctions, postFunctions, outcomes]
  show Succeeds (Turn.Shows scope picture) (done () >>= fun _ => done () >>= _) _
  rw [done_bind, done_bind]
  dsimp only
  rw [continues]
  refine meets_bind (enterSiblings_succeeds literal action.id scope picture feeds own true) fun _ => ?_
  exact meets_done fun _ ends => ends

/-! ### Arriving at the join -/

/-- Only the branches that the join asks for are asked for, and a look at them changes nothing. -/
theorem passesNow_succeeds {tree : Option Conditions} {stepId : StepDefId} {passed : Bool}
    (answers : ∀ properties, Answers passed (kit.treePasses scope properties stepId tree)) :
    Succeeds (Turn.Shows scope picture) (kit.passesNow tree stepId)
      (fun answer turn => answer = passed ∧ turn.Shows scope picture) := by
  unfold passesNow
  refine Turn.read_succeeds fun turn shows => ?_
  rw [shows.scope]
  exact Turn.onWorld_succeeds (answers_succeed (answers turn.properties))

/-- Steps of branches feed the join, but for the one being left. -/
theorem feeding_all {blueprint : Blueprint} {joinId : NodeId} {step : Step} {steps : List Step}
    (feed : ∀ other ∈ steps, blueprint.resultsInJoin other.defId joinId = true)
    (apart : ∀ other ∈ steps, other.id ≠ step.id) :
    feeding blueprint joinId (some step) steps = steps :=
  List.filter_eq_self.mpr fun other member => by simp [feed other member, apart other member]

/-- The step being left does not feed the join again. -/
theorem feeding_skips {blueprint : Blueprint} {joinId : NodeId} {step skipped : Step}
    {before behind : List Step} (same : skipped.id = step.id) :
    feeding blueprint joinId (some step) (before ++ skipped :: behind) =
      feeding blueprint joinId (some step) (before ++ behind) := by
  simp [feeding, List.filter_append, same]

end Toolkit

/-- Of the steps around an arriving branch, those of the other branches feed the join. -/
theorem Underway.feeding {blueprint : Blueprint} {entrance : Action} {branches : List Branch}
    {join : Join} {further : StepDef} (barrier : blueprint.Barrier entrance branches join further)
    {entryId : EntryId} {earlier later arrived : List Step} {step closed : Step}
    (underway : Underway entryId branches (earlier ++ step :: later) arrived)
    (same : closed.id = step.id) :
    Toolkit.feeding blueprint join.id (some step) (earlier ++ step :: later) = earlier ++ later ∧
      Toolkit.feeding blueprint join.id (some step) (arrived ++ [closed]) = arrived := by
  have feed : ∀ other ∈ earlier ++ step :: later ++ arrived,
      blueprint.resultsInJoin other.defId join.id = true := by
    intro other member
    obtain ⟨branch, present, same⟩ := underway.branch member
    rw [← same]
    exact (barrier.feeds branch present).resultsInJoin barrier.noCommonActions
  have apart := underway.apart
  constructor
  · rw [Toolkit.feeding_skips rfl]
    refine Toolkit.feeding_all (fun other member => feed other ?_) fun other member => apart other ?_
    · exact List.mem_append_left _ (mem_around member)
    · exact List.mem_append_left _ member
  · rw [Toolkit.feeding_skips same, List.append_nil]
    refine Toolkit.feeding_all (fun other member => feed other ?_) fun other member => apart other ?_
    · exact List.mem_append_right _ member
    · exact List.mem_append_right _ member

namespace Toolkit

variable {kit : Toolkit} {scope : Scope} {picture : Picture} {branches : List Branch}
  {action : Action} {outcome : Outcome} {earlier later : List Step} {step : Step}

/-- The arriving branch is closed with the status that the join asks for. -/
theorem arriveAtJoin_succeeds (literal : kit.Literal) (action : Action)
    (arrivesDone : outcome.oldStatus = Branch.done)
    (current : picture.current = earlier ++ step :: later)
    (underway : Underway picture.entry.id branches (earlier ++ step :: later) picture.history) :
    let closed := Closing.mark ⟨action.id, picture.now, Branch.done, scope.caller⟩ step
    Succeeds (Turn.Shows scope picture) (takeJoin.arrive kit action outcome (some step))
      (fun answer turn => answer = [closed] ∧ turn.Shows scope
        { picture with current := earlier ++ later, history := picture.history ++ [closed] }) := by
  intro closed
  have full : outcome.oldStatus.isEmpty = false := by rw [arrivesDone]; decide
  have plain : Template.hasOpening outcome.oldStatus.toList = false := by rw [arrivesDone]; decide
  refine meets_bind (oldStatus_succeeds literal plain full) fun status => meets_given fun same => ?_
  subst same
  rw [arrivesDone]
  have closes : Succeeds (Turn.Shows scope picture) (closeStep step action.id Branch.done) _ :=
    closeStep_succeeds action.id Branch.done (underway.own step (by simp)) current
      fun other member => underway.apart other (List.mem_append_left _ member)
  refine meets_bind closes fun answer => meets_given fun same => ?_
  subst same
  exact meets_pure fun _ shows => ⟨rfl, shows⟩

/-- The step beyond the join is opened, and the branches are hidden again. -/
theorem openBeyond_succeeds (literal : kit.Literal) {entrance : Action} {join : Join}
    {further : StepDef} {exit : Outcome}
    (barrier : scope.blueprint.Barrier entrance branches join further)
    (target : exit.target = .step further.id) (own : scope.entry.id = picture.entry.id)
    (actionId : ActionId) (leaving : Option Step) (nodes : Branches) (previous : List StepId) :
    Succeeds (Turn.Shows { scope with branches := some nodes } picture)
      (do
        kit.enterStep exit actionId leaving false previous
        showBranches none)
      (fun _ => Turn.Opened { scope with branches := none } picture exit further.id previous) := by
  have enters : Succeeds (Turn.Shows { scope with branches := some nodes } picture)
      (kit.enterStep exit actionId leaving false previous)
      (fun _ => Turn.Opened { scope with branches := some nodes } picture exit further.id previous) := by
    refine enterStep_succeeds literal actionId leaving previous target barrier.beyond.2 ?_
      barrier.preFunctions ?_ ?_
    · exact barrier.definition
    · exact own
    · exact fun closes => nomatch closes
  refine meets_bind enters fun _ => meets_change fun turn opened => ?_
  obtain ⟨new, listed, facts, shows⟩ := opened
  exact ⟨new, listed, facts, ⟨by rw [shows.scope], shows.world⟩⟩

/-- The join is shown the branch that has just been closed first, the store tells of it last. -/
private theorem perm_closed_last (closed : Step) (current history : List Step) :
    ([closed] ++ current ++ history).Perm (current ++ (history ++ [closed])) := by
  rw [List.append_assoc]
  refine List.perm_append_comm.trans ?_
  rw [List.append_assoc]

/-- The join decides on a branch as it arrives: the branches still waiting go on waiting, or the
step beyond the join is opened. -/
theorem takeJoin_succeeds (literal : kit.Literal) {entrance : Action} {join : Join}
    {further : StepDef} {exit : Outcome}
    (barrier : scope.blueprint.Barrier entrance branches join further)
    (leads : join.outcome = some exit ∧ exit.Bare ∧ exit.target = .step further.id)
    (continues : action.finish = false) (arrivesDone : outcome.oldStatus = Branch.done)
    (own : scope.entry.id = picture.entry.id)
    (seen : scope.currentSteps = earlier ++ step :: later)
    (current : picture.current = earlier ++ step :: later)
    (underway : Underway picture.entry.id branches (earlier ++ step :: later) picture.history) :
    let closed := Closing.mark ⟨action.id, picture.now, Branch.done, scope.caller⟩ step
    let arrived := { picture with
      current := earlier ++ later
      history := picture.history ++ [closed] }
    Succeeds (Turn.Shows scope picture) (kit.takeJoin join.id action outcome (some step))
      (fun _ turn =>
        (earlier ++ later ≠ [] → turn.Shows { scope with branches := none } arrived) ∧
        (earlier ++ later = [] → turn.Opened { scope with branches := none } arrived exit further.id
          (closed.id :: picture.history.map (·.id)))) := by
  intro closed arrived
  obtain ⟨isExit, bare, target⟩ := leads
  have around : closed.id = step.id := rfl
  obtain ⟨stillCurrent, past⟩ := underway.feeding barrier around
  rw [← seen] at stillCurrent
  unfold takeJoin
  refine Turn.scopeNow_succeeds ?_
  rw [barrier.joins]
  show Succeeds (Turn.Shows scope picture) (done join >>= _) _
  rw [done_bind, isExit]
  show Succeeds (Turn.Shows scope picture) (done exit >>= _) _
  rw [done_bind]
  refine meets_bind (arriveAtJoin_succeeds literal action arrivesDone current underway)
    fun answer => meets_given fun same => ?_
  subst same
  have looks : Succeeds (Turn.Shows scope arrived)
      (Turn.onWorld (World.historySteps scope.entry.id))
      (fun steps turn => steps = arrived.history ∧ turn.Shows scope arrived) := by
    rw [own]
    exact Turn.onWorld_succeeds World.historySteps_succeeds
  refine meets_bind looks fun answer => meets_given fun same => ?_
  subst same
  rw [stillCurrent, past]
  refine meets_bind (Turn.amendScope_succeeds _) fun _ => ?_
  refine meets_bind (passesNow_succeeds fun properties =>
    (underway.arrive around rfl rfl).decides literal barrier (perm_closed_last _ _ _) rfl properties)
      fun passed => meets_given fun decided => ?_
  subst decided
  dsimp only
  cases waiting : earlier ++ later with
  | cons first rest =>
    rw [if_neg (by simp)]
    refine meets_answers (Turn.amendScope_succeeds _) fun _ _ ends => ⟨fun _ => ends, ?_⟩
    intro none
    cases none
  | nil =>
    rw [if_pos (by simp), bare.validators, bare.preFunctions, bare.postFunctions, continues]
    show Succeeds _ (done () >>= fun _ => done () >>= fun _ => done () >>= _) _
    simp only [done_bind]
    have still : scope.entry.id = arrived.entry.id := own
    clear_value arrived
    rw [if_pos (show (!false) = true from rfl)]
    show Succeeds _ (_ >>= fun _ => done () >>= fun _ => showBranches none) _
    simp only [done_bind]
    refine meets_answers (openBeyond_succeeds literal barrier target still action.id (some step) _ _)
      fun _ _ opened => ⟨fun some => absurd rfl some, fun _ => opened⟩

end Toolkit

end Caseflow
