import Caseflow.Proofs.Endurance
/-! Which actions a call executes. Nothing but the execution of an action notes that an action has
begun, whatever the extensions do, so the journal of a call tells exactly what it selected: the
action that was asked for, and then each action that followed on its own. -/
namespace Caseflow

open Run

/-- The action that an event tells of the beginning of, with its entry. -/
def Event.begun? : Event → Option (EntryId × ActionKey)
  | .actionBegun entry key => some (entry, key)
  | _ => none

/-- The actions that were begun, in order. -/
def begunIn (journal : List Event) : List (EntryId × ActionKey) :=
  journal.filterMap Event.begun?

/-- The property of journals survives every event but the beginning of an action. -/
def Lasting (kept : List Event → Prop) : Prop :=
  ∀ ⦃journal events⦄, kept journal → (∀ event ∈ events, Event.begun? event = none) →
    kept (journal ++ events)

theorem lasting_begunIn (told : List (EntryId × ActionKey)) :
    Lasting fun journal => begunIn journal = told := by
  intro journal events same quiet
  have silent : begunIn events = [] := List.filterMap_eq_nil_iff.mpr quiet
  unfold begunIn at same silent ⊢
  rw [List.filterMap_append, same, silent, List.append_nil]

theorem lasting_extends (earlier : List Event) : Lasting (earlier <+: ·) :=
  fun _ _ within _ => within.trans (List.prefix_append _ _)

theorem begun?_of_call {event : Event} (isCall : Event.isCall event = true) :
    event.begun? = none := by
  cases event <;> first | rfl | cases isCall

theorem begun?_of_answer {request : StoreRequest} (answer : request.Answer) :
    ∀ event ∈ request.events answer, Event.begun? event = none := by
  cases request <;> simp [StoreRequest.events, Event.begun?]

variable {kept : List Event → Prop}

/-- It is a property of worlds that endures, as long as no action begins. -/
theorem Lasting.enduring (lasting : Lasting kept) :
    World.Enduring (fun event => event.begun? = none) fun world => kept world.journal where
  calls _ := begun?_of_call
  served holds served := by
    cases served with
    | refused error => exact holds
    | answered value store done => exact lasting holds (begun?_of_answer value)
    | absent value lost met => exact holds
  written _ _ holds := holds
  passed _ _ _ holds areQuiet := lasting holds areQuiet

theorem Lasting.observed (lasting : Lasting kept) {start world : World} (holds : kept start.journal)
    (observed : World.Observed start world) : kept world.journal :=
  lasting.enduring.observed holds observed

/-! ### The selections of a call -/

/-- Between the two journals just the selected actions were begun on the entry, in this order, and
each right after what had been noted when it was selected. -/
structure Begins (entryId : EntryId) (selections : List (ScopedAction × Turn))
    (start later : List Event) : Prop where
  begun : begunIn later =
    begunIn start ++ selections.map fun selected => (entryId, selected.1.key)
  continued : start <+: later
  noted : ∀ selected ∈ selections,
    selected.2.world.journal ++ [.actionBegun entryId selected.1.key] <+: later

theorem Begins.refl (entryId : EntryId) (journal : List Event) : Begins entryId [] journal journal where
  begun := by simp
  continued := List.prefix_rfl
  noted := by simp

theorem Begins.trans {entryId : EntryId} {first second : List (ScopedAction × Turn)}
    {start middle later : List Event} (left : Begins entryId first start middle)
    (right : Begins entryId second middle later) :
    Begins entryId (first ++ second) start later where
  begun := by rw [right.begun, left.begun, List.map_append, List.append_assoc]
  continued := left.continued.trans right.continued
  noted selected member := by
    rcases List.mem_append.mp member with earlier | later
    · exact (left.noted selected earlier).trans right.continued
    · exact right.noted selected later

namespace Engine

variable {engine : Engine} {entryId : EntryId} {inputs : Values} {number : ActionId}
  {world : World}

/-- What a call on an action of this number selects in the world: the action and the turn it is to
be executed in, or nothing where the call is turned down. -/
def selection (engine : Engine) (entryId : EntryId) (inputs : Values) (number : ActionId)
    (world : World) : List (ScopedAction × Turn) :=
  (engine.select entryId inputs number world).1.toOption.toList

/-- The actions that a call executes, each with the turn it was selected in: the one of this number,
and then at most `limit` more, as each leads to the next. -/
def executions (engine : Engine) (entryId : EntryId) (inputs : Values) :
    Nat → ActionId → World → List (ScopedAction × Turn)
  | 0, number, world => engine.selection entryId inputs number world
  | limit + 1, number, world =>
    engine.selection entryId inputs number world ++
      match engine.act entryId inputs number world with
      | (.ok (some next), after) => engine.executions entryId inputs limit next after
      | _ => []

/-- What a call selects has been found by looking only. -/
theorem selected_of_mem {selected : ScopedAction × Turn}
    (member : selected ∈ engine.selection entryId inputs number world) :
    engine.select entryId inputs number world = (.ok selected, selected.2.world) ∧
      engine.Selected entryId inputs number world selected.1 selected.2 := by
  have observes : Meets (World.Observed world) (engine.select entryId inputs number) _ _ :=
    select_observes engine.kit.extensions.refuses_any world
  have ends := observes world (.refl world)
  unfold selection at member
  split at ends
  · rename_i reached after answered
    rw [answered] at member
    obtain rfl : selected = reached := by simpa [Except.toOption] using member
    rw [answered, ends.1]
    exact ⟨rfl, ends.2⟩
  · rename_i failure after answered
    rw [answered] at member
    simp [Except.toOption] at member

/-- What is initiated shows the new entry. -/
theorem initiated_of_mem {entry : Entry} {blueprint : Blueprint} {action : Action}
    {selected : ScopedAction × Turn}
    (member : selected ∈ (engine.initiate entry blueprint action inputs world).1.toOption.toList) :
    engine.Initiated entry blueprint action world selected.1 selected.2 := by
  have observes : Meets (World.Observed world) (engine.initiate entry blueprint action inputs) _ _ :=
    initiate_observes engine.kit.extensions.refuses_any world
  cases initiated : engine.initiate entry blueprint action inputs world with
  | mk result after =>
    rw [initiated] at member
    cases result with
    | error failure => simp [Except.toOption] at member
    | ok reached =>
      obtain rfl : selected = reached := by simpa [Except.toOption] using member
      exact (observes.answer (.refl world) initiated).2

/-- Carrying on with an action keeps what still holds once that action has begun. -/
theorem carryOn_lasts (lasting : Lasting kept) {selected : ScopedAction × Turn}
    (own : selected.2.scope.entry.id = entryId)
    (begins : kept (selected.2.world.journal ++ [.actionBegun entryId selected.1.key])) :
    kept (engine.carryOn entryId inputs number selected world).2.journal := by
  subst own
  have enduring := lasting.enduring
  have goesOn : Meets (· = world) (engine.carryOn selected.2.scope.entry.id inputs number selected)
      (fun _ after => kept after.journal) fun _ after => kept after.journal :=
    meets_bind
      (meets_resume (meets_failures (enduring.execute_meets engine.kit selected.1 selected.2 begins)
        fun _ _ ends => ends.1))
      fun progress => meets_failures
        (engine.admits_any.settle_keeps enduring.observed enduring.move_keeps number progress)
        fun _ _ ends => ends.1
  exact goesOn.ends rfl

/-- What only looks until it has picked an action, and then carries on with it, begins that action
and nothing else. -/
theorem picked_begins {pick : Run World (ScopedAction × Turn)}
    (observes : Meets (· = world) pick
      (fun reached after => reached.2.world = after ∧ World.Observed world after ∧
        reached.2.scope.entry.id = entryId)
      (fun _ after => World.Observed world after)) :
    Begins entryId (pick world).1.toOption.toList world.journal
      ((pick >>= engine.carryOn entryId inputs number) world).2.journal := by
  have ends := observes world rfl
  split at ends
  · rename_i reached after picked
    obtain ⟨rfl, observed, own⟩ := ends
    obtain ⟨calls, areCalls, looked⟩ := observed.journal
    rw [bind_eq, andThen_ok picked, picked]
    have begun {kept : List Event → Prop} (lasting : Lasting kept)
        (begins : kept (reached.2.world.journal ++ [.actionBegun entryId reached.1.key])) :
        kept (engine.carryOn entryId inputs number reached reached.2.world).2.journal :=
      carryOn_lasts lasting own begins
    have here := begun (lasting_extends _) List.prefix_rfl
    refine ⟨begun (lasting_begunIn _) ?_, ?_, by simpa [Except.toOption] using here⟩
    · have silent : begunIn calls = [] :=
        List.filterMap_eq_nil_iff.mpr fun event member => begun?_of_call (areCalls event member)
      simp only [looked, begunIn, List.filterMap_append] at silent ⊢
      simp [silent, Event.begun?, Except.toOption]
    · refine List.IsPrefix.trans ?_ here
      rw [looked, List.append_assoc]
      exact List.prefix_append _ _
  · rename_i failure after picked
    rw [bind_eq, andThen_error picked, picked]
    have kept {kept : List Event → Prop} (lasting : Lasting kept) (holds : kept world.journal) :
        kept after.journal := lasting.observed holds ends
    refine ⟨?_, kept (lasting_extends _) List.prefix_rfl, by simp [Except.toOption]⟩
    exact (kept (lasting_begunIn _) rfl).trans (List.append_nil _).symm

/-- A call begins what it selects, and nothing else. -/
theorem act_begins (engine : Engine) (entryId : EntryId) (inputs : Values) (number : ActionId)
    (world : World) :
    Begins entryId (engine.selection entryId inputs number world) world.journal
      (engine.act entryId inputs number world).2.journal := by
  rw [act_eq]
  have observes : Meets (World.Observed world) (engine.select entryId inputs number) _ _ :=
    select_observes engine.kit.extensions.refuses_any world
  refine picked_begins (meets_mono (meets_at observes (.refl world)) (fun _ same => same) ?_
    fun _ _ ends => ends.1)
  rintro reached _ ⟨rfl, selected⟩
  exact ⟨rfl, selected.observed, Store.id_of_findEntry? selected.sees.found⟩

/-- So does the start of a new entry. -/
theorem runInitial_begins (engine : Engine) (entry : Entry) (blueprint : Blueprint)
    (action : Action) (inputs : Values) (world : World) :
    Begins entry.id (engine.initiate entry blueprint action inputs world).1.toOption.toList
      world.journal (engine.runInitial entry blueprint action inputs world).2.journal := by
  rw [runInitial_eq]
  have observes : Meets (World.Observed world) (engine.initiate entry blueprint action inputs) _ _ :=
    initiate_observes engine.kit.extensions.refuses_any world
  refine picked_begins (meets_answers (meets_at observes (.refl world)) ?_)
  rintro reached _ ⟨rfl, admitted⟩
  obtain ⟨bindings, shown⟩ := admitted.shown
  exact ⟨rfl, admitted.observed, by rw [shown]⟩

/-- A call and the actions that follow it on their own begin the executions of the call. -/
theorem executions_begin (limit : Nat) (number : ActionId) (world : World) :
    Begins entryId (engine.executions entryId inputs limit number world) world.journal
      (Run.andThen (engine.act entryId inputs number) (engine.chain entryId inputs limit)
        world).2.journal := by
  have acts (number : ActionId) (world : World) := engine.act_begins entryId inputs number world
  induction limit generalizing number world with
  | zero =>
    have ends : (Run.andThen (engine.act entryId inputs number) (engine.chain entryId inputs 0)
        world).2 = (engine.act entryId inputs number world).2 := by
      unfold andThen
      split
      · rename_i next after answered
        rw [answered]
        cases next <;> rfl
      · rename_i answered
        rw [answered]
    rw [ends]
    exact acts number world
  | succ limit ih =>
    unfold executions
    refine (acts number world).trans ?_
    unfold andThen
    cases answered : engine.act entryId inputs number world with
    | mk result after =>
      cases result with
      | error failure => exact .refl entryId _
      | ok next =>
        cases next with
        | none => exact .refl entryId _
        | some number => exact ih number after

/-- The executions of a call whose chain of actions goes on like this. -/
def chained (engine : Engine) (entryId : EntryId) (inputs : Values) :
    Nat → Except Failure (Option ActionId) × World → List (ScopedAction × Turn)
  | limit + 1, (.ok (some next), after) => engine.executions entryId inputs limit next after
  | _, _ => []

/-- A chain executes what a call executes that begins it. -/
theorem execution_of_chained {limit : Nat} {reached : Except Failure (Option ActionId) × World}
    {selected : ScopedAction × Turn}
    (member : selected ∈ engine.chained entryId inputs limit reached) :
    ∃ limit number world, selected ∈ engine.executions entryId inputs limit number world := by
  unfold chained at member
  split at member
  · exact ⟨_, _, _, member⟩
  · cases member

/-- A chain of actions begins its executions. -/
theorem chained_begin (limit : Nat) (next : Option ActionId) (world : World) :
    Begins entryId (engine.chained entryId inputs limit (.ok next, world)) world.journal
      (engine.chain entryId inputs limit next world).2.journal := by
  cases limit with
  | zero => cases next <;> exact .refl entryId _
  | succ limit =>
    cases next with
    | none => exact .refl entryId _
    | some number => exact executions_begin limit number world

/-- What starting an entry executes: the initial action, and those that follow it on their own. -/
def startExecutions (engine : Engine) (workflow : String) (actionId : ActionId) (inputs : Values)
    (world : World) : List (ScopedAction × Turn) :=
  match engine.initialAction workflow actionId with
  | .error _ => []
  | .ok (blueprint, action) =>
    match World.createEntry workflow world with
    | (.error _, _) => []
    | (.ok entry, created) =>
      (engine.initiate entry blueprint action inputs created).1.toOption.toList ++
        engine.chained entry.id inputs engine.kit.settings.maxAutoChainDepth
          (engine.runInitial entry blueprint action inputs created)

/-- The initial action and those that follow it begin what they execute. -/
theorem initial_begin (entry : Entry) (blueprint : Blueprint) (action : Action) (limit : Nat)
    (world : World) :
    Begins entry.id
      ((engine.initiate entry blueprint action inputs world).1.toOption.toList ++
        engine.chained entry.id inputs limit
          (engine.runInitial entry blueprint action inputs world))
      world.journal
      (andThen (engine.runInitial entry blueprint action inputs)
        (engine.chain entry.id inputs limit) world).2.journal := by
  refine (engine.runInitial_begins entry blueprint action inputs world).trans ?_
  unfold andThen
  cases reached : engine.runInitial entry blueprint action inputs world with
  | mk result after =>
    cases result with
    | error failure => cases limit <;> exact .refl entry.id _
    | ok next => exact chained_begin limit next after

section Starts

variable {workflow : String} {actionId : ActionId} {blueprint : Blueprint} {action : Action}
  (found : engine.initialAction workflow actionId = .ok (blueprint, action))

include found

/-- Without a new entry nothing else happens. -/
theorem startEntry_refused {failure : Failure} {after : World}
    (refused : World.createEntry workflow world = (.error failure, after)) :
    engine.startEntry workflow actionId inputs world = ⟨.error failure, after, true⟩ := by
  unfold startEntry
  rw [found]
  simp only [Reply.ofRun, bind_eq, andThen_error refused]

/-- With one, it replies what becomes of it under the initial action and those that follow. -/
theorem startEntry_created {entry : Entry} {created : World}
    (creates : World.createEntry workflow world = (.ok entry, created)) :
    engine.startEntry workflow actionId inputs world =
      Reply.ofRun (fun _ => true)
        (andThen (andThen (engine.runInitial entry blueprint action inputs)
          (engine.chain entry.id inputs engine.kit.settings.maxAutoChainDepth))
          fun _ => done entry.id) created := by
  unfold startEntry
  rw [found]
  dsimp only
  unfold Reply.ofRun
  simp only [← bind_eq, bind_assoc]
  rw [bind_eq, andThen_ok creates]
  rfl

/-- A start ends where the initial action and those that follow it do. -/
theorem startEntry_world {entry : Entry} {created : World}
    (creates : World.createEntry workflow world = (.ok entry, created)) :
    (engine.startEntry workflow actionId inputs world).world =
      (andThen (engine.runInitial entry blueprint action inputs)
        (engine.chain entry.id inputs engine.kit.settings.maxAutoChainDepth) created).2 := by
  rw [startEntry_created found creates, Reply.world_ofRun, andThen_done]

end Starts

end Engine

end Caseflow
