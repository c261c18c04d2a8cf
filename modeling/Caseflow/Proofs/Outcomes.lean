import Caseflow.Proofs.Departures
/-! What the outcome of an action does to the steps of its entry. The step being left is closed
before any step is created that follows it, and a join retires its branches first: no handle is
used after its step was closed, and whatever a new step follows has been left. -/
namespace Caseflow

open Run

/-- The ledger once the step being left is closed, where it is. -/
def Ledger.leave (ledger : Ledger) (closing : Bool) : Option Step → Ledger
  | some step => if closing then ledger.close step.id else ledger
  | none => ledger

@[simp] theorem Ledger.count_leave (ledger : Ledger) (closing : Bool) (leaving : Option Step) :
    (ledger.leave closing leaving).count = ledger.count := by
  cases leaving with
  | none => rfl
  | some step => cases closing <;> rfl

theorem Ledger.mem_opened_leave (ledger : Ledger) {leaving : Option Step} {other : StepId} :
    other ∈ (ledger.leave true leaving).opened ↔
      other ∈ ledger.opened ∧ some other ≠ leaving.map (·.id) := by
  cases leaving with
  | none => simp [Ledger.leave]
  | some step => simp [Ledger.leave, Ledger.mem_opened_close]

namespace Turn

/-- A step that fits was created on top of what the ledger knows. -/
structure Entered (start : World) (id : EntryId) (ledger : Ledger) (fit : Step → Prop)
    (turn : Turn) : Prop extends Tracks start id ledger.grow turn where
  created : ∃ step ∈ turn.world.store.currentSteps id, step.id = ledger.count + 1 ∧ fit step

variable {start : World} {id : EntryId} {ledger : Ledger} {fit : Step → Prop}

theorem Entered.enters {turn : Turn} (entered : Entered start id ledger fit turn) :
    turn.world.store.Enters id ledger.count fit :=
  .inr ⟨entered.tracks.counted, entered.created⟩

theorem entered_stable : Stable (Entered start id ledger fit) := by
  intro before after hooked entered
  obtain ⟨change, store⟩ := hooked.store
  refine ⟨tracks_stable hooked entered.toTracks, ?_⟩
  simpa [store] using entered.created

/-- At most one step was created since there were `count`, and it fits. -/
structure Arrived (start : World) (id : EntryId) (count : Nat) (fit : Step → Prop)
    (turn : Turn) : Prop extends Works start id turn where
  enters : turn.world.store.Enters id count fit

theorem arrived_stable {count : Nat} : Stable (Arrived start id count fit) := by
  intro before after hooked arrived
  obtain ⟨change, store⟩ := hooked.store
  refine ⟨works_stable hooked arrived.toWorks, ?_⟩
  simpa [store, Store.Enters, Store.Counts] using arrived.enters

theorem Tracks.arrived {turn : Turn} (tracks : Tracks start id ledger turn) :
    Arrived start id ledger.count fit turn :=
  ⟨tracks.works, .inl tracks.tracks.counted⟩

theorem Entered.arrived {turn : Turn} {wider : Step → Prop}
    (entered : Entered start id ledger fit turn) (enough : ∀ step, fit step → wider step) :
    Arrived start id ledger.count wider turn := by
  obtain ⟨step, current, numbered, fits⟩ := entered.created
  exact ⟨entered.works, .inr ⟨entered.tracks.counted, step, current, numbered, enough step fits⟩⟩

/-- What stopped before a step was created left the count as it was. -/
theorem Breaks.early {count : Nat} {failure : Failure} {turn : Turn}
    (breaks : Breaks start (Store.Counts count) failure turn) :
    Breaks start (Store.Enters id count fit) failure turn :=
  ⟨breaks.proceeds, breaks.explains, .inl breaks.left⟩

end Turn

namespace Toolkit

/-! ### Joins in two parts -/

/-- Arrives at a join. Where the join lets the entry pass, its branches are retired, and the answer
is the outcome that the join leads to and the branches that the next step follows. -/
def openJoin (kit : Toolkit) (joinId : NodeId) (action : Action) (outcome : Outcome)
    (leaving : Option Step) : Run Turn (Option (Outcome × List StepId)) := do
  let scope ← Turn.scopeNow
  let join ← Run.ofOption (.defective (.joinNotFound joinId)) (scope.blueprint.join? joinId)
  let joined ← Run.ofOption (.defective (.missingJoinOutcome joinId)) join.outcome
  let arrived ← takeJoin.arrive kit action outcome leaving
  let stillCurrent := feeding scope.blueprint joinId leaving scope.currentSteps
  let history ← Turn.onWorld (World.historySteps scope.entry.id)
  let branches : Branches :=
    arrived ++ stillCurrent ++ feeding scope.blueprint joinId leaving history
  showBranches (some branches)
  let passed ← kit.passesNow (some join.conditions) 0
  if passed then
    kit.runValidators joined.validators
    kit.runFunctions joined.preFunctions
    retire stillCurrent
    return some (joined, branches.map (·.id))
  else return none

/-- What follows on an arrival. -/
def followJoin (kit : Toolkit) (action : Action) (leaving : Option Step) :
    Option (Outcome × List StepId) → Run Turn Unit
  | none => showBranches none
  | some (joined, previous) => do
    if !action.finish then
      kit.enterStep joined action.id leaving false previous
    kit.runFunctions joined.postFunctions
    showBranches none

/-- A join is taken by arriving at it and going on from there. -/
theorem takeJoin_eq (kit : Toolkit) (joinId : NodeId) (action : Action) (outcome : Outcome)
    (leaving : Option Step) :
    kit.takeJoin joinId action outcome leaving =
      kit.openJoin joinId action outcome leaving >>= kit.followJoin action leaving := by
  unfold takeJoin openJoin
  simp only [bind_assoc]
  refine bind_congr fun scope => bind_congr fun join => bind_congr fun joined => ?_
  refine bind_congr fun arrived => bind_congr fun history => bind_congr fun _ => ?_
  refine bind_congr fun passed => ?_
  cases passed with
  | false => rfl
  | true =>
    simp only [if_true, bind_assoc]
    refine bind_congr fun _ => bind_congr fun _ => bind_congr fun _ => ?_
    rfl

variable {kit : Toolkit} {start : World} {id : EntryId} {ledger : Ledger}

/-! ### Closing and creating steps -/

theorem closeStep_tracks {step : Step} (own : step.entryId = id) (opened : step.id ∈ ledger.opened)
    (actionId : ActionId) (status : String) :
    Meets (Turn.Tracks start id ledger) (closeStep step actionId status)
      (fun closed turn => closed.id = step.id ∧ Turn.Tracks start id (ledger.close step.id) turn)
      (Turn.Breaks start (Store.Counts ledger.count)) := by
  unfold closeStep
  refine meets_read_bind fun turn _ => ?_
  refine meets_bind_via (fun finished turn => finished.id = step.id ∧
    Turn.Tracks start id ledger turn) ?_ fun finished => meets_given fun named => ?_
  · exact meets_answers (Turn.tracks_onWorld (World.markFinished_tracks own opened))
      fun _ _ ends => ⟨ends.2.1, ends.1, ends.2.2⟩
  · refine meets_bind (Turn.tracks_onWorld (World.moveToHistory_tracks own opened)) fun _ => ?_
    exact meets_pure fun _ ends => ⟨named, ends.1, ends.2⟩

theorem retire_tracks {steps : List Step} (handles : Handles id steps)
    (opened : ∀ step ∈ steps, step.id ∈ ledger.opened) :
    Meets (Turn.Tracks start id ledger) (retire steps)
      (fun _ => Turn.Tracks start id (ledger.closeAll (steps.map (·.id))))
      (Turn.Breaks start (Store.Counts ledger.count)) := by
  refine meets_closeAll (fun ledger step counted own isOpen => ?_) handles rfl opened
  rw [← counted]
  exact meets_answers (Turn.tracks_onWorld (World.moveToHistory_tracks own isOpen))
    fun _ _ ends => ⟨ends.1, ends.2⟩

/-! ### What a join brings together -/

section Gathering

variable {blueprint : Blueprint} {joinId : NodeId} {leaving : Option Step}

theorem mem_feeding {steps : List Step} {step : Step} :
    step ∈ feeding blueprint joinId leaving steps ↔ step ∈ steps ∧
      some step.id ≠ leaving.map (·.id) ∧ blueprint.resultsInJoin step.defId joinId = true := by
  simp [feeding]

/-- The step being left is not among the others. -/
private theorem leaving_not_feeding {step : Step} {steps : List Step} :
    step.id ∉ (feeding blueprint joinId (some step) steps).map (·.id) := by
  intro member
  obtain ⟨other, feeds, same⟩ := List.mem_map.mp member
  exact (mem_feeding.mp feeds).2.1 (by simp [same])

/-- The numbers of the steps that an arrival at a join brings together: the step being left, the
others shown that can lead to the join, and those of the past. -/
def gathered (blueprint : Blueprint) (joinId : NodeId) (leaving : Option Step)
    (shown past : List Step) : List StepId :=
  (leaving.map (·.id)).toList ++ (feeding blueprint joinId leaving shown).map (·.id) ++
    (feeding blueprint joinId leaving past).map (·.id)

/-- No step is gathered twice. -/
theorem gathered_nodup {shown past : List Step} (distinct : (shown.map (·.id)).Nodup)
    (pastDistinct : (past.map (·.id)).Nodup)
    (apart : ∀ step ∈ feeding blueprint joinId leaving shown, step.id ∉ past.map (·.id)) :
    (gathered blueprint joinId leaving shown past).Nodup := by
  have among {steps : List Step} : ((feeding blueprint joinId leaving steps).map (·.id)).Sublist
      (steps.map (·.id)) := (List.filter_sublist ..).map _
  have others : ((feeding blueprint joinId leaving shown).map (·.id) ++
      (feeding blueprint joinId leaving past).map (·.id)).Nodup := by
    refine List.nodup_append.mpr ⟨distinct.sublist among, pastDistinct.sublist among, ?_⟩
    rintro _ isShown _ isPast rfl
    obtain ⟨step, feeds, rfl⟩ := List.mem_map.mp isShown
    exact apart step feeds (among.subset isPast)
  unfold gathered
  rw [List.append_assoc]
  cases leaving with
  | none => simpa using others
  | some step =>
    rw [Option.map_some, Option.toList_some, List.singleton_append, List.nodup_cons]
    refine ⟨fun member => ?_, others⟩
    rcases List.mem_append.mp member with isShown | isPast
    · exact leaving_not_feeding isShown
    · exact leaving_not_feeding isPast

/-- What is gathered is closed once the steps that are shown are retired. -/
theorem closed_of_gathered {ledger : Ledger} {shown past : List Step} {step : StepId}
    (member : step ∈ gathered blueprint joinId leaving shown past) :
    step ∈ (((ledger.leave true leaving).remember (past.map (·.id))).closeAll
      ((feeding blueprint joinId leaving shown).map (·.id))).closed := by
  rw [Ledger.mem_closed_closeAll]
  rw [gathered, List.mem_append, List.mem_append] at member
  rcases member with (leaves | isShown) | isPast
  · refine .inr (List.mem_append_right _ ?_)
    cases leaving with
    | none => cases leaves
    | some arriving => exact List.mem_cons.mpr (.inl (by simpa using leaves))
  · exact .inl isShown
  · refine .inr (List.mem_append_left _ ?_)
    exact ((List.filter_sublist ..).map _).subset isPast

/-- The step follows what an arrival at the join brings together out of the steps shown and of a
past that goes on from the one at the start. -/
def Joins (start : World) (id : EntryId) (blueprint : Blueprint) (joinId : NodeId)
    (leaving : Option Step) (shown : List Step) (step : Step) : Prop :=
  ∃ past, start.store.historySteps id <+: past ∧ (past.map (·.id)).Nodup ∧
    step.previous = gathered blueprint joinId leaving shown past

theorem arrive_tracks (action : Action) (outcome : Outcome)
    (handled : ∀ step ∈ leaving, step.entryId = id ∧ step.id ∈ ledger.opened) :
    Meets (Turn.Tracks start id ledger) (takeJoin.arrive kit action outcome leaving)
      (fun arrived turn => arrived.map (·.id) = (leaving.map (·.id)).toList ∧
        Turn.Tracks start id (ledger.leave true leaving) turn)
      (Turn.Breaks start (Store.Counts ledger.count)) := by
  cases leaving with
  | none => exact meets_done fun _ tracks => ⟨rfl, tracks⟩
  | some step =>
    obtain ⟨own, isOpen⟩ := handled step rfl
    refine meets_bind (Turn.tracks_keeps (oldStatus_keeps outcome)) fun status => ?_
    refine meets_bind (closeStep_tracks own isOpen action.id status) fun closed => ?_
    exact meets_pure fun _ ends => ⟨by simp [ends.1], ends.2⟩

end Gathering

section Standard

variable (standard : kit.extensions = Builtin.extensions)

include standard

/-- Hooks leave every ledger as it is. -/
theorem tracks_hosted : kit.Hosts start.Explains (Turn.Tracks start id ledger) :=
  Builtin.hosts_explained Turn.tracks_stable (fun _ tracks => tracks.tracks.proceeds) standard

theorem entered_hosted {fit : Step → Prop} :
    kit.Hosts start.Explains (Turn.Entered start id ledger fit) :=
  Builtin.hosts_explained Turn.entered_stable (fun _ entered => entered.tracks.proceeds) standard

theorem arrived_hosted {count : Nat} {fit : Step → Prop} :
    kit.Hosts start.Explains (Turn.Arrived start id count fit) :=
  Builtin.hosts_explained Turn.arrived_stable (fun _ arrived => arrived.proceeds) standard

theorem works_hosted : kit.Hosts start.Explains (Turn.Works start id) :=
  Builtin.hosts_explained Turn.works_stable (fun _ works => works.proceeds) standard

variable (lineal : start.store.Lineal) (known : (start.store.findEntry? id).isSome)

include lineal known

/-- A step is created, and the functions of its definition run. -/
private theorem create_tracks {planned : NewStep} (own : planned.entryId = id)
    (once : planned.previous.Nodup) (left : ∀ step ∈ planned.previous, step ∈ ledger.closed)
    {amend : Step → Scope → Scope} (entry : ∀ step scope, (amend step scope).entry = scope.entry)
    (calls : List Call) :
    Meets (Turn.Tracks start id ledger)
      (do
        let created ← Turn.onWorld (World.createStep planned)
        Turn.amendScope (amend created)
        kit.runFunctions calls)
      (fun _ => Turn.Entered start id ledger (·.previous = planned.previous))
      (Turn.Breaks start (Store.Enters id ledger.count (·.previous = planned.previous))) := by
  refine meets_bind_via
    (fun _ => Turn.Entered start id ledger (·.previous = planned.previous)) ?_ fun created => ?_
  · refine meets_mono (Turn.tracks_onWorld (World.createStep_tracks lineal known own once left))
      (fun _ tracks => tracks) (fun created turn ends => ?_) fun _ _ breaks => breaks.early
    obtain ⟨shown, tracks, rfl, current⟩ := ends
    exact ⟨⟨shown, tracks⟩, _, current, rfl, rfl⟩
  · refine meets_bind_via
      (fun _ => Turn.Entered start id ledger (·.previous = planned.previous)) ?_ fun _ => ?_
    · refine meets_change fun turn entered => ⟨⟨?_, entered.tracks⟩, entered.created⟩
      show (amend created turn.scope).entry.id = id
      rw [entry]
      exact entered.own
    · refine meets_failures ((entered_hosted standard).functions calls) fun _ _ ends => ?_
      exact ⟨ends.1.tracks.proceeds, ends.2, ends.1.enters⟩

/-- The step that an outcome leads to is created after the step being left was closed. -/
theorem enterStep_tracks (outcome : Outcome) (actionId : ActionId) (leaving : Option Step)
    (closing : Bool) {previous : List StepId}
    (closes : closing = true → ∀ step ∈ leaving, step.entryId = id ∧ step.id ∈ ledger.opened)
    (once : previous.Nodup)
    (left : ∀ step ∈ previous, step ∈ (ledger.leave closing leaving).closed) :
    Meets (Turn.Tracks start id ledger) (kit.enterStep outcome actionId leaving closing previous)
      (fun _ => Turn.Entered start id (ledger.leave closing leaving) (·.previous = previous))
      (Turn.Breaks start (Store.Enters id ledger.count (·.previous = previous))) := by
  have early {α : Type} {computation : Run Turn α} {answered : α → Turn → Prop}
      (meets : Meets (Turn.Tracks start id ledger) computation answered
        (Turn.Breaks start (Store.Counts ledger.count))) :
      Meets (Turn.Tracks start id ledger) computation answered
        (Turn.Breaks start (Store.Enters id ledger.count (·.previous = previous))) :=
    meets_failures meets fun _ _ breaks => breaks.early
  unfold enterStep
  refine meets_bind (early (Turn.tracks_keeps
    (enteredStep_keeps (fun _ => nofun) actionId leaving outcome.target))) fun defId => ?_
  refine meets_read_bind fun turn tracks => ?_
  refine meets_bind (early (Turn.tracks_keeps (keeps_ofOption nofun))) fun definition => ?_
  have own : (kit.plannedStep outcome defId previous turn).entryId = id := tracks.own
  dsimp only
  split
  · cases leaving with
    | none =>
      refine create_tracks standard lineal known own once left ?_ _
      exact fun _ _ => rfl
    | some step =>
      rename_i closed
      obtain ⟨ofEntry, isOpen⟩ := closes closed step rfl
      have leaves : ledger.leave closing (some step) = ledger.close step.id := if_pos closed
      rw [leaves] at left ⊢
      refine meets_bind (early (Turn.tracks_keeps (oldStatus_keeps outcome))) fun status => ?_
      refine meets_bind (early (closeStep_tracks ofEntry isOpen actionId status)) fun _ => ?_
      refine meets_given fun _ => ?_
      refine create_tracks standard lineal known own once left ?_ _
      exact fun _ _ => rfl
  · rename_i closed
    have leaves : ledger.leave closing leaving = ledger := by
      cases leaving with
      | none => rfl
      | some step => exact if_neg closed
    rw [leaves] at left ⊢
    refine create_tracks standard lineal known own once left ?_ _
    exact fun _ _ => rfl

/-! ### Plain outcomes and splits -/

/-- A plain outcome closes the step being left and creates one that follows it. -/
theorem takePlain_works (action : Action) (outcome : Outcome) (leaving : Option Step)
    (handled : ∀ step ∈ leaving, step.entryId = id ∧ step.id ∈ ledger.opened) :
    Meets (Turn.Tracks start id ledger) (kit.takePlain action outcome leaving)
      (fun _ => Turn.Works start id) (Turn.Breaks start fun _ => True) := by
  unfold takePlain
  split
  · cases leaving with
    | none => exact meets_pure fun _ tracks => tracks.works
    | some step =>
      obtain ⟨own, isOpen⟩ := handled step rfl
      refine meets_failures (meets_bind (Turn.tracks_keeps (oldStatus_keeps outcome)) fun status =>
        meets_bind (closeStep_tracks own isOpen action.id status) fun _ =>
          meets_pure fun _ ends => ends.2.works) fun _ _ breaks => ?_
      exact ⟨breaks.proceeds, breaks.explains, trivial⟩
  · refine meets_mono (enterStep_tracks standard lineal known outcome action.id leaving true
      (fun _ => handled) ?_ ?_) (fun _ tracks => tracks) (fun _ _ entered => entered.works)
      fun _ _ breaks => ⟨breaks.proceeds, breaks.explains, trivial⟩
    · cases leaving <;> simp
    · cases leaving <;> simp [Ledger.leave, Ledger.close]

/-- Every step of a split follows the step being left, which the first one of them closes. -/
theorem enterSiblings_works (actionId : ActionId) (leaving : Option Step) (isFirst : Bool)
    (outcomes : List Outcome) (own : ∀ step ∈ leaving, step.entryId = id)
    (handled : ∀ step ∈ leaving,
      if isFirst then step.id ∈ ledger.opened else step.id ∈ ledger.closed) :
    Meets (Turn.Tracks start id ledger) (kit.enterSiblings actionId leaving isFirst outcomes)
      (fun _ => Turn.Works start id) (Turn.Breaks start fun _ => True) := by
  induction outcomes generalizing isFirst ledger with
  | nil => exact meets_done fun _ tracks => tracks.works
  | cons outcome rest ih =>
    have left : ∀ step ∈ leaving, step.id ∈ (ledger.leave isFirst leaving).closed := by
      rintro step rfl
      have handle := handled step rfl
      cases isFirst with
      | true => simp [Ledger.leave, Ledger.close]
      | false => simpa [Ledger.leave] using handle
    unfold enterSiblings
    refine meets_andThen (meets_mono (enterStep_tracks standard lineal known outcome actionId leaving
      isFirst ?_ ?_ ?_) (fun _ tracks => tracks)
      (fun _ _ entered => entered.toTracks)
      fun _ _ breaks => ⟨breaks.proceeds, breaks.explains, trivial⟩) fun _ => ?_
    · intro first step isLeft
      have handle := handled step isLeft
      rw [if_pos first] at handle
      exact ⟨own step isLeft, handle⟩
    · cases leaving <;> simp
    · cases leaving with
      | none => simp
      | some step => simpa using left step rfl
    · exact ih false left

/-- A split closes the step being left and creates steps that follow it. -/
theorem takeSplit_works (splitId : NodeId) (action : Action) (leaving : Option Step)
    (handled : ∀ step ∈ leaving, step.entryId = id ∧ step.id ∈ ledger.opened) :
    Meets (Turn.Tracks start id ledger) (kit.takeSplit splitId action leaving)
      (fun _ => Turn.Works start id) (Turn.Breaks start fun _ => True) := by
  have passes {α : Type} {computation : Run Turn α}
      (keeps : Keeps (Turn.Tracks start id ledger) start.Explains computation) :
      Meets (Turn.Tracks start id ledger) computation (fun _ => Turn.Tracks start id ledger)
        (Turn.Breaks start fun _ => True) :=
    meets_failures keeps fun _ _ ends => ⟨ends.1.tracks.proceeds, ends.2, trivial⟩
  have hosts : kit.Hosts start.Explains (Turn.Tracks start id ledger) := tracks_hosted standard
  unfold takeSplit
  refine meets_scopeNow_bind fun turn _ => ?_
  refine meets_bind (passes (keeps_ofOption nofun)) fun split => ?_
  refine meets_bind (passes (hosts.validators _)) fun _ => ?_
  refine meets_bind (passes (hosts.functions _)) fun _ => ?_
  have after : Meets (Turn.Works start id)
      (kit.runFunctions (split.outcomes.flatMap (·.postFunctions)))
      (fun _ => Turn.Works start id) (Turn.Breaks start fun _ => True) :=
    meets_failures ((works_hosted standard).functions _)
      fun _ _ ends => ⟨ends.1.proceeds, ends.2, trivial⟩
  dsimp only
  split
  · refine meets_bind (enterSiblings_works standard lineal known action.id leaving true _
      (fun step isLeft => (handled step isLeft).1) fun step isLeft => ?_) fun _ => after
    exact (handled step isLeft).2
  · exact meets_mono after (fun _ tracks => tracks.works) (fun _ _ works => works)
      fun _ _ breaks => breaks

/-! ### Joins -/

/-- The branches are what an arrival at a join brings together, and all of them are closed. -/
structure Gathers (start : World) (id : EntryId) (blueprint : Blueprint) (joinId : NodeId)
    (leaving : Option Step) (shown : List Step) (ledger : Ledger) (branches : List StepId) : Prop where
  once : branches.Nodup
  closed : ∀ step ∈ branches, step ∈ ledger.closed
  joins : ∀ step : Step, step.previous = branches →
    Joins start id blueprint joinId leaving shown step

omit known in
/-- An arrival at a join closes the arriving step. Where the join lets the entry pass, the branches
are retired. -/
theorem openJoin_gathers (joinId : NodeId) (action : Action) (outcome : Outcome)
    (leaving : Option Step) {steps : List Step} {blueprint : Blueprint} (handles : Handles id steps)
    (opened : ∀ step ∈ steps, step.id ∈ ledger.opened) (among : ∀ step ∈ leaving, step ∈ steps) :
    Meets (Turn.Displays start id ledger steps blueprint) (kit.openJoin joinId action outcome leaving)
      (fun opened turn => ∃ now : Ledger, (now.count = ledger.count ∧
        ∀ passed ∈ opened, Gathers start id blueprint joinId leaving steps now passed.2) ∧
          Turn.Tracks start id now turn)
      (Turn.Breaks start (Store.Counts ledger.count)) := by
  have hosts {now : Ledger} : kit.Hosts start.Explains (Turn.Tracks start id now) :=
    tracks_hosted standard
  unfold openJoin
  refine meets_scopeNow_bind fun turn shows => ?_
  obtain ⟨here, rfl, rfl⟩ := shows
  rw [here.own]
  refine meets_mono ?_ (fun _ shows => shows.toTracks) (fun _ _ ends => ends) fun _ _ ends => ends
  refine meets_bind (Turn.tracks_keeps (keeps_ofOption nofun)) fun join => ?_
  refine meets_bind (Turn.tracks_keeps (keeps_ofOption nofun)) fun joined => ?_
  -- the arriving step is closed, and the history is read after that
  refine meets_bind (arrive_tracks action outcome fun step isLeft =>
    ⟨handles.own step (among step isLeft), opened step (among step isLeft)⟩)
    fun arrived => meets_given fun named => ?_
  rw [← ledger.count_leave true leaving]
  refine meets_bind (meets_answers (Turn.tracks_onWorld (World.historySteps_tracks lineal))
    fun past turn ends => (⟨ends.2.1, ends.1, ends.2.2⟩ :
      start.Remembers id (ledger.leave true leaving) past ∧
        Turn.Tracks start id ((ledger.leave true leaving).remember (past.map (·.id))) turn))
    fun past => meets_given fun remembers => ?_
  refine meets_bind (Turn.tracks_amend fun _ => rfl) fun _ => ?_
  refine meets_bind (Turn.tracks_keeps (hosts.guards _ _)) fun passed => ?_
  split
  · have isOpen : ∀ step ∈ feeding turn.scope.blueprint joinId leaving turn.scope.currentSteps,
        step.id ∈ (ledger.leave true leaving).opened := by
      intro step feeds
      obtain ⟨member, apart, -⟩ := mem_feeding.mp feeds
      exact ledger.mem_opened_leave.mpr ⟨opened step member, apart⟩
    have brings : (arrived ++ feeding turn.scope.blueprint joinId leaving turn.scope.currentSteps ++
        feeding turn.scope.blueprint joinId leaving past).map (·.id) =
          gathered turn.scope.blueprint joinId leaving turn.scope.currentSteps past := by
      rw [List.map_append, List.map_append, named, gathered]
    refine meets_bind (Turn.tracks_keeps (hosts.validators _)) fun _ => ?_
    refine meets_bind (Turn.tracks_keeps (hosts.functions _)) fun _ => ?_
    refine meets_bind (retire_tracks (handles.sublist (List.filter_sublist ..)) isOpen) fun _ => ?_
    refine meets_pure fun _ tracks => ⟨_, ⟨?_, ?_⟩, tracks⟩
    · exact Ledger.count_closeAll _ _
    rintro _ ⟨⟩
    rw [brings]
    exact {
      once := gathered_nodup handles.distinct remembers.distinct
        fun step feeds => remembers.apart _ (isOpen step feeds)
      closed := fun _ => closed_of_gathered
      joins := fun _ follows => ⟨past, remembers.grown, remembers.distinct, follows⟩ }
  · refine meets_pure fun _ tracks => ⟨_, ⟨?_, nofun⟩, tracks⟩
    rfl

/-- Where a join lets the entry pass, a step is created that follows the branches. -/
theorem followJoin_arrives {count : Nat} (counted : ledger.count = count) (action : Action)
    (leaving : Option Step) {fit : Step → Prop} {opened : Option (Outcome × List StepId)}
    (once : ∀ passed ∈ opened, passed.2.Nodup)
    (closed : ∀ passed ∈ opened, ∀ step ∈ passed.2, step ∈ ledger.closed)
    (fits : ∀ passed ∈ opened, ∀ step : Step, step.previous = passed.2 → fit step) :
    Meets (Turn.Tracks start id ledger) (kit.followJoin action leaving opened)
      (fun _ => Turn.Arrived start id count fit) (Turn.Breaks start (Store.Enters id count fit)) := by
  subst counted
  cases opened with
  | none => exact meets_change fun _ tracks => ⟨⟨tracks.own, tracks.tracks.proceeds⟩,
      .inl tracks.tracks.counted⟩
  | some passed =>
    obtain ⟨joined, previous⟩ := passed
    have after : Meets (Turn.Arrived start id ledger.count fit)
        (do
          kit.runFunctions joined.postFunctions
          showBranches none)
        (fun _ => Turn.Arrived start id ledger.count fit)
        (Turn.Breaks start (Store.Enters id ledger.count fit)) := by
      refine meets_bind (meets_failures ((arrived_hosted standard).functions _) ?_) fun _ => ?_
      · exact fun _ _ ends => ⟨ends.1.proceeds, ends.2, ends.1.enters⟩
      · exact meets_change fun _ arrived => ⟨⟨arrived.own, arrived.proceeds⟩, arrived.enters⟩
    unfold followJoin
    dsimp only
    split
    · have leaves : ledger.leave false leaving = ledger := by cases leaving <;> rfl
      have entering := enterStep_tracks standard lineal known joined action.id leaving false nofun
        (once _ rfl) (leaves.symm ▸ closed _ rfl)
      rw [leaves] at entering
      refine meets_bind (meets_mono entering (fun _ tracks => tracks)
        (fun _ turn entered => entered.arrived (fits _ rfl)) fun _ _ breaks => ?_) fun _ => after
      exact ⟨breaks.proceeds, breaks.explains, breaks.left.mono (fits _ rfl)⟩
    · exact meets_mono after (fun turn tracks => tracks.arrived) (fun _ _ ends => ends)
        fun _ _ ends => ends

/-- An arrival at a join closes the arriving step. Where the join lets the entry pass, it retires
the branches and creates a step that follows all of them. -/
theorem takeJoin_arrives (joinId : NodeId) (action : Action) (outcome : Outcome)
    (leaving : Option Step) {steps : List Step} {blueprint : Blueprint} (handles : Handles id steps)
    (opened : ∀ step ∈ steps, step.id ∈ ledger.opened) (among : ∀ step ∈ leaving, step ∈ steps) :
    Meets (Turn.Displays start id ledger steps blueprint) (kit.takeJoin joinId action outcome leaving)
      (fun _ => Turn.Arrived start id ledger.count
        (Joins start id blueprint joinId leaving steps))
      (Turn.Breaks start (Store.Enters id ledger.count
        (Joins start id blueprint joinId leaving steps))) := by
  rw [takeJoin_eq]
  refine meets_bind (meets_failures (openJoin_gathers standard lineal joinId action outcome leaving
    handles opened among) fun _ _ breaks => breaks.early) fun opened => ?_
  refine meets_some fun now => meets_given fun ⟨counted, gathers⟩ => ?_
  exact followJoin_arrives standard lineal known counted action leaving
    (fun _ passed => (gathers _ passed).once) (fun _ passed => (gathers _ passed).closed)
    fun _ passed => (gathers _ passed).joins

/-! ### The action as a whole -/

/-- Whatever outcome an action takes, it does only what fits. -/
theorem takeOutcome_works (action : Action) (outcome : Outcome) (leaving : Option Step)
    {steps : List Step} {blueprint : Blueprint} (handles : Handles id steps)
    (opened : ∀ step ∈ steps, step.id ∈ ledger.opened) (among : ∀ step ∈ leaving, step ∈ steps) :
    Meets (Turn.Displays start id ledger steps blueprint) (kit.takeOutcome action outcome leaving)
      (fun _ => Turn.Works start id)
      (fun failure turn => start.Proceeds turn.world ∧ start.Explains failure) := by
  have handled : ∀ step ∈ leaving, step.entryId = id ∧ step.id ∈ ledger.opened := by
    intro step isLeft
    have member := among step isLeft
    exact ⟨handles.own step member, opened step member⟩
  unfold takeOutcome
  split
  · refine meets_mono (takeSplit_works standard lineal known _ action leaving handled)
      (fun _ shows => shows.toTracks) (fun _ _ works => works) ?_
    exact fun _ _ breaks => ⟨breaks.proceeds, breaks.explains⟩
  · refine meets_mono (takeJoin_arrives standard lineal known _ action outcome leaving handles
      opened among) (fun _ shows => shows) (fun _ _ arrived => arrived.toWorks) ?_
    exact fun _ _ breaks => ⟨breaks.proceeds, breaks.explains⟩
  · refine meets_mono (takePlain_works standard lineal known action outcome leaving handled)
      (fun _ shows => shows.toTracks) (fun _ _ works => works) ?_
    exact fun _ _ breaks => ⟨breaks.proceeds, breaks.explains⟩

end Standard

/-- What hooks and moves of the entry keep is kept by all that follows on the outcome. -/
theorem conclude_keeps {kept : Turn → Prop} {refused : Failure → Prop}
    (functions : ∀ calls, Keeps kept refused (kit.runFunctions calls))
    (moves : ∀ finishedStatus entryId target actionId caller, Keeps kept refused (do
      let _ ← Turn.onWorld (Lifecycle.move finishedStatus entryId target actionId caller)
      Turn.amendScope fun scope => { scope with entry := { scope.entry with state := target } }))
    (chosen : ScopedAction) (scope : Scope) (outcome : Outcome) :
    Keeps kept refused (kit.conclude chosen scope outcome) := by
  unfold conclude
  refine keeps_bind (functions _) fun _ => keeps_bind (functions _) fun _ => ?_
  refine keeps_bind (activate_keeps moves _ _) fun _ => ?_
  exact finish_keeps moves _ _

section Concluding

variable (lineal : start.store.Lineal)

include lineal

/-- A move of the entry at hand puts fitting requests only. -/
private theorem moveHere_works (finishedStatus : String) (entryId : EntryId) (target : EntryState)
    (actionId : ActionId) (caller : Option String) :
    Keeps (Turn.Works start id) start.Explains (do
      let _ ← Turn.onWorld (Lifecycle.move finishedStatus entryId target actionId caller)
      Turn.amendScope fun scope =>
        { scope with entry := { scope.entry with state := target } }) := by
  refine keeps_bind (meets_within fun turn works => ?_) fun _ => keeps_change fun _ works => ?_
  · refine meets_mono (Lifecycle.move_proceeds lineal finishedStatus target actionId caller)
      ?_ (fun _ _ proceeds => ⟨works.own, proceeds⟩) fun _ _ ends => ⟨⟨works.own, ends.1⟩, ends.2⟩
    rintro _ rfl
    exact works.proceeds
  · exact ⟨works.own, works.proceeds⟩

/-- What follows on the outcome puts fitting requests only. -/
theorem conclude_works (standard : kit.extensions = Builtin.extensions) (chosen : ScopedAction)
    (scope : Scope) (outcome : Outcome) :
    Keeps (Turn.Works start id) start.Explains (kit.conclude chosen scope outcome) :=
  conclude_keeps (works_hosted standard).functions (moveHere_works lineal) chosen scope outcome

end Concluding

/-- What follows on the outcome creates no step. -/
theorem conclude_counts (standard : kit.extensions = Builtin.extensions) (count : Nat)
    (chosen : ScopedAction) (scope : Scope) (outcome : Outcome) :
    Keeps (fun turn => turn.world.store.Counts count) (fun _ => True)
      (kit.conclude chosen scope outcome) := by
  have stable : Turn.Stable fun turn => turn.world.store.Counts count := by
    intro before after hooked counts
    obtain ⟨change, store⟩ := hooked.store
    simpa [store, Store.Counts] using counts
  have modest : kit.extensions.Modest Builtin.Refusal := standard ▸ Builtin.extensions_modest
  have functions (calls : List Call) :=
    keeps_mono ((hosts_of_modest stable modest).functions calls) fun _ _ => trivial
  refine conclude_keeps functions (fun finishedStatus entryId target actionId caller => ?_) _ _ _
  refine keeps_bind (meets_within fun turn counts => ?_) fun _ => keeps_change fun _ counts => counts
  exact meets_at (Lifecycle.move_keeps (fun _ => trivial) (fun _ _ _ => trivial)
    (fun _ => World.request_counts) _ _ _ _ _) counts

/-- An action that is executed on an entry as it is stored puts fitting requests only, and fails for
the store only in an outage. -/
theorem execute_proceeds (standard : kit.extensions = Builtin.extensions) {turn : Turn}
    (fresh : turn.Fresh) (chosen : ScopedAction) :
    Meets (· = turn) (kit.execute chosen) (fun _ after => turn.world.Proceeds after.world)
      (fun failure after => turn.world.Proceeds after.world ∧ turn.world.Explains failure) := by
  have executes : Meets (· = turn.begun chosen)
      (kit.ready chosen turn.scope >>= fun readied => do
        kit.takeOutcome chosen.action readied.2 readied.1
        kit.conclude chosen turn.scope readied.2)
      (fun _ after => turn.world.Proceeds after.world)
      (fun failure after => turn.world.Proceeds after.world ∧ turn.world.Explains failure) := by
    refine meets_bind (meets_failures (ready_hooked standard chosen turn) ?_) ?_
    · intro _ _ stopped
      exact ⟨(World.Proceeds.here.noted _).trans stopped.1.proceeds, stopped.2⟩
    rintro ⟨leaving, outcome⟩
    refine meets_given fun isShown => ?_
    refine meets_bind (meets_mono (takeOutcome_works standard fresh.lineal fresh.known
      chosen.action outcome leaving fresh.handles turn.mem_opening isShown)
      (fun _ hooked => fresh.displays hooked)
      (fun _ _ works => works) fun _ _ stopped => stopped) fun _ => ?_
    refine meets_mono (conclude_works fresh.lineal standard chosen turn.scope outcome)
      (fun _ works => works) ?_ ?_
    · exact fun _ _ works => works.proceeds
    · exact fun _ _ ends => ⟨ends.1.proceeds, ends.2⟩
  rintro _ rfl
  rw [execute_ready]
  exact executes _ rfl

end Toolkit

end Caseflow
