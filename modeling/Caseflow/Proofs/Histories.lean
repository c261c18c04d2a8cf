import Caseflow.Proofs.Bookkeeping
import Caseflow.Proofs.Endurance
/-! Histories. What an entry has left is only ever added to, a step stays what it was created as,
and how it was closed is told by the last request that marked it as finished while it was current.
That holds of any requests, and an engine with any extensions does nothing to a store but put
requests and write properties. -/
namespace Caseflow

open Run

namespace Store

variable {store after : Store} {now : Instant} {request : StoreRequest} {value : request.Answer}

/-- An answered request keeps a step as it is, unless it marks it as finished while it is
current. -/
theorem kept_of_answered (numbered : store.Numbered)
    (done : store.answer now request = .ok (value, after)) {id : EntryId} {held : Step}
    (member : held ∈ store.steps id) :
    held ∈ after.steps id ∨ ∃ handle closing, request = .markFinished handle closing ∧
      handle.id = held.id ∧ handle.entryId = id ∧ held ∈ store.currentSteps id ∧
      closing.mark held ∈ after.steps id := by
  cases request with
  | createEntry workflow =>
    rw [steps_createEntry numbered done]
    exact .inl member
  | createStep new =>
    refine .inl ((steps_createStep done id).mem_iff.mpr ?_)
    split
    · exact List.mem_cons_of_mem _ member
    · exact member
  | markFinished handle closing =>
    rcases List.mem_append.mp member with current | past
    · by_cases named : handle.id = held.id ∧ handle.entryId = id
      · obtain ⟨named, rfl⟩ := named
        refine .inr ⟨handle, closing, rfl, named, rfl, current, List.mem_append_left _ ?_⟩
        rw [currentSteps_markFinished done, if_pos rfl]
        exact List.mem_map.mpr ⟨held, current, if_pos named.symm⟩
      · refine .inl (List.mem_append_left _ ?_)
        rw [currentSteps_markFinished done]
        split
        · rename_i here
          refine List.mem_map.mpr ⟨held, current, if_neg fun same => ?_⟩
          exact named ⟨same.symm, here.symm⟩
        · exact current
    · refine .inl (List.mem_append_right _ ?_)
      rw [historySteps_markFinished done]
      exact past
  | setEntryState entry state =>
    obtain ⟨_, set, same⟩ := exists_of_map_eq_ok done
    cases same
    rw [steps_setEntryState set]
    exact .inl member
  | moveToHistory handle =>
    obtain ⟨_, moved, same⟩ := exists_of_map_eq_ok done
    cases same
    exact .inl ((steps_moveToHistory moved id).mem_iff.mpr member)
  | properties entry =>
    obtain ⟨_, -, same⟩ := exists_of_map_eq_ok done
    cases same
    exact .inl member
  | findEntry | currentSteps | historySteps | query =>
    cases done
    exact .inl member

end Store

namespace World

/-- In this world the request to mark the step that the handle names as finished is answered; it
names a current step of the entry. -/
structure Marks (world : World) (handle : Step) (closing : Closing) (id : EntryId) (step : StepId) :
    Prop where
  answered : ∃ answer, (world.ask (.markFinished handle closing)).1 = .ok answer
  named : handle.id = step ∧ handle.entryId = id
  current : ∃ held ∈ world.store.currentSteps id, held.id = step

variable {world : World} {entries steps : Nat}

/-- A happening adds to the history of an entry, and to nothing of it. -/
theorem history_meet (booked : world.store.Booked entries steps) (happening : Happening)
    (id : EntryId) :
    world.store.historySteps id <+: (world.meet happening).store.historySteps id := by
  cases happening with
  | asked request =>
    have served := world.ask_served request
    simp only [meet]
    generalize world.ask request = reached at served ⊢
    obtain ⟨answer, after⟩ := reached
    cases served with
    | refused error => exact List.prefix_rfl
    | answered value store done => exact (Store.Grows.answered booked.numbered done).history id
    | absent value lost => exact List.prefix_rfl
  | written entry change =>
    have same : (world.meet (.written entry change)).store.historySteps id =
        world.store.historySteps id :=
      Store.historySteps_modifyProperties ..
    exact same ▸ List.prefix_rfl
  | meanwhile outages now events => exact List.prefix_rfl

theorem history_through (booked : world.store.Booked entries steps) (happenings : List Happening)
    (id : EntryId) :
    world.store.historySteps id <+: (world.through happenings).store.historySteps id := by
  induction happenings generalizing world entries steps with
  | nil => exact List.prefix_rfl
  | cons happening rest ih =>
    exact (history_meet booked happening id).trans (ih (booked_meet booked happening))

/-- A happening keeps a step as it is, unless it marks it as finished. -/
theorem kept_meet (booked : world.store.Booked entries steps) (happening : Happening) {id : EntryId}
    {held : Step} (member : held ∈ world.store.steps id) :
    ∃ kept ∈ (world.meet happening).store.steps id, kept = held ∨ ∃ handle closing,
      happening = .asked (.markFinished handle closing) ∧ world.Marks handle closing id held.id ∧
      kept = closing.mark held := by
  cases happening with
  | asked request =>
    have served := world.ask_served request
    simp only [meet]
    cases reached : world.ask request with
    | mk answer after =>
      rw [reached] at served
      cases served with
      | refused error => exact ⟨held, member, .inl rfl⟩
      | answered value store done =>
        rcases Store.kept_of_answered booked.numbered done member with
          stays | ⟨handle, closing, rfl, named, isEntry, current, marked⟩
        · exact ⟨held, stays, .inl rfl⟩
        · refine ⟨_, marked, .inr ⟨handle, closing, rfl, ⟨⟨value, ?_⟩, ⟨named, isEntry⟩,
            held, current, rfl⟩, rfl⟩⟩
          rw [reached]
      | absent value lost => exact ⟨held, member, .inl rfl⟩
  | written entry change =>
    refine ⟨held, ?_, .inl rfl⟩
    rw [meet, Store.steps, Store.currentSteps_modifyProperties, Store.historySteps_modifyProperties]
    exact member
  | meanwhile outages now events => exact ⟨held, member, .inl rfl⟩

/-- Whatever happens, a step is there as it was, or as it was last marked. -/
theorem kept_through (booked : world.store.Booked entries steps) (happenings : List Happening)
    {id : EntryId} {held : Step} (member : held ∈ world.store.steps id) :
    ∃ kept ∈ (world.through happenings).store.steps id, kept = held ∨
      ∃ first handle closing rest, happenings = first ++ .asked (.markFinished handle closing) :: rest ∧
        (world.through first).Marks handle closing id held.id ∧ kept = closing.mark held := by
  induction happenings generalizing world entries steps held with
  | nil => exact ⟨held, member, .inl rfl⟩
  | cons happening others ih =>
    obtain ⟨middle, isThere, at_once⟩ := kept_meet booked happening member
    obtain ⟨kept, isKept, later⟩ := ih (booked_meet booked happening) isThere
    refine ⟨kept, isKept, ?_⟩
    have sameId : middle.id = held.id := by
      obtain rfl | ⟨_, _, -, -, rfl⟩ := at_once <;> rfl
    have sameMark (closing : Closing) : closing.mark middle = closing.mark held := by
      obtain rfl | ⟨_, _, -, -, rfl⟩ := at_once <;> rfl
    obtain rfl | ⟨first, handle, closing, rest, rfl, marks, rfl⟩ := later
    · obtain rfl | ⟨handle, closing, rfl, marks, rfl⟩ := at_once
      · exact .inl rfl
      · exact .inr ⟨[], handle, closing, others, rfl, marks, rfl⟩
    · exact .inr ⟨happening :: first, handle, closing, rest, rfl, sameId ▸ marks, sameMark closing⟩

/-! ### What an engine does to a world -/

/-- Whatever a request comes to, happenings come to. -/
theorem through_served {after : World} {request : StoreRequest}
    {answer : Except StoreError request.Answer} (served : Served world request answer after) :
    ∃ happenings, after = world.through happenings := by
  have counted : ∃ happenings, { world with outages := world.outages.count request.method } =
      world.through happenings :=
    ⟨[.meanwhile (world.outages.count request.method) world.now []], by simp [through, meet, note]⟩
  cases served with
  | refused error => exact counted
  | answered value store done =>
    refine ⟨[.meanwhile {} world.now [], .asked request,
      .meanwhile (world.outages.count request.method) world.now []], ?_⟩
    simp [through, meet, note, ask, serve, Outages.next, done]
  | absent value lost => exact counted

/-- To have come about by happenings endures. -/
theorem through_endures (start : World) :
    Enduring (fun _ => True) fun world => ∃ happenings, world = start.through happenings where
  calls _ _ := trivial
  served := by
    rintro _ request answer after ⟨first, rfl⟩ served
    obtain ⟨rest, rfl⟩ := through_served served
    exact ⟨first ++ rest, (through_append start first rest).symm⟩
  written := by
    rintro _ entry change ⟨first, rfl⟩
    exact ⟨first ++ [.written entry change], by rw [through_append]; rfl⟩
  passed := by
    rintro _ outages now events ⟨first, rfl⟩ -
    exact ⟨first ++ [.meanwhile outages now events], by rw [through_append]; rfl⟩

/-- A call of an engine with any extensions comes down to requests, writings of properties, and
notes. -/
theorem perform_through (engine : Engine) (world : World) (operation : Operation) :
    ∃ happenings, engine.perform world operation = world.through happenings := by
  have enduring := through_endures world
  have upholds := enduring.upholds engine
  exact upholds.perform_keeps ⟨[], rfl⟩ (fun workflow => enduring.request_keeps (.createEntry workflow))
    (fun _ entryId change holds => enduring.written entryId change holds) operation

theorem calls_through (calls : List (Engine × Operation)) (world : World) : ∃ happenings,
    calls.foldl (fun world call => call.1.perform world call.2) world = world.through happenings := by
  induction calls generalizing world with
  | nil => exact ⟨[], rfl⟩
  | cons call rest ih =>
    obtain ⟨first, performed⟩ := perform_through call.1 world call.2
    obtain ⟨others, reached⟩ := ih (call.1.perform world call.2)
    exact ⟨first ++ others, by rw [through_append, ← performed, ← reached, List.foldl_cons]⟩

/-- From any point on of whatever happens to a new store, the history of every entry is added to
and nothing else; every step is still there, the only one of its number and with the same entry,
and all that it was created with; and unless it is the same step altogether, it is now as a request
left it that marked it as finished while it was current. Calls of engines, with any extensions and
wherever the store fails, are nothing but such happenings. -/
theorem history_only_grows (outages : Outages) (now : Instant) (before more : List Happening) :
    let earlier := World.through { outages, now } before
    let later := earlier.through more
    (∀ id, earlier.store.historySteps id <+: later.store.historySteps id) ∧
      (∀ id, ∀ held ∈ earlier.store.currentSteps id ++ earlier.store.historySteps id,
        ∃ kept ∈ later.store.currentSteps id ++ later.store.historySteps id,
          (kept.id = held.id ∧ kept.entryId = held.entryId ∧ kept.defId = held.defId ∧
            kept.owner = held.owner ∧ kept.startDate = held.startDate ∧
            kept.dueDate = held.dueDate ∧ kept.previous = held.previous) ∧
          (∀ other, ∀ step ∈ later.store.currentSteps other ++ later.store.historySteps other,
            step.id = held.id → other = id ∧ step = kept) ∧
          (kept = held ∨ ∃ first handle closing rest,
            more = first ++ .asked (.markFinished handle closing) :: rest ∧
            (earlier.through first).Marks handle closing id held.id ∧ kept = closing.mark held)) ∧
      ∀ calls : List (Engine × Operation), ∃ happenings,
        calls.foldl (fun world call => call.1.perform world call.2) later =
          later.through happenings := by
  intro earlier later
  have new : ({ outages, now } : World).store.Booked 0 0 := .new
  have booked := booked_through new before
  have bookedLater := booked_through booked more
  refine ⟨history_through booked more, fun id held member => ?_,
    fun calls => calls_through calls later⟩
  obtain ⟨kept, isKept, asItWas⟩ := kept_through booked more member
  have same : kept.id = held.id ∧ kept.entryId = held.entryId ∧ kept.defId = held.defId ∧
      kept.owner = held.owner ∧ kept.startDate = held.startDate ∧ kept.dueDate = held.dueDate ∧
      kept.previous = held.previous := by
    obtain rfl | ⟨_, _, _, _, -, -, rfl⟩ := asItWas <;> exact ⟨rfl, rfl, rfl, rfl, rfl, rfl, rfl⟩
  refine ⟨kept, isKept, same, fun other step isThere sameId => ?_, asItWas⟩
  obtain ⟨rfl, rfl⟩ := bookedLater.same_of_id isThere isKept (sameId.trans same.1.symm)
  exact ⟨rfl, rfl⟩

/-- A step is created in a new entry. -/
def staging : List Happening :=
  [.asked (.createEntry "plain"),
    .asked (.createStep { entryId := 1, defId := 7, startDate := ⟨0, 0⟩, status := "Open" })]

/-- A handle to that step, wrong in everything but its numbers. -/
def staleHandle : Step :=
  { id := 1, entryId := 1, defId := 9, owner := some "nobody", status := "Lost", startDate := ⟨5, 0⟩,
    previous := [4] }

/-- The step is marked and moved by the handle. -/
def dismissal : List Happening :=
  [.asked (.markFinished staleHandle ⟨3, ⟨8, 0⟩, "Done", none⟩), .asked (.moveToHistory staleHandle)]

/-- In the history then is the step that was created, not the one that the handle shows. -/
theorem history_after_dismissal :
    let staged := World.through {} staging
    ∃ held ∈ staged.store.currentSteps 1,
      ∃ kept ∈ (staged.through dismissal).store.historySteps 1, kept.id = held.id ∧ kept.defId = 7 ∧
        kept.owner = none ∧ kept.startDate = ⟨0, 0⟩ ∧ kept.previous = [] ∧ kept ≠ held := by
  intro staged
  have created : ∃ held ∈ staged.store.currentSteps 1, held.defId = 7 ∧ held.owner = none ∧
      held.startDate = ⟨0, 0⟩ ∧ held.previous = [] ∧ held.actionId = 0 := by
    decide +kernel
  have moved : (staged.through dismissal).store.currentSteps 1 = [] ∧
      ∀ step ∈ (staged.through dismissal).store.historySteps 1, step.actionId ≠ 0 := by
    decide +kernel
  obtain ⟨held, isCurrent, defId, owner, startDate, previous, isOpen⟩ := created
  obtain ⟨-, steps, -⟩ := history_only_grows {} ⟨0, 0⟩ staging dismissal
  obtain ⟨kept, isKept, same, -, -⟩ := steps 1 held (List.mem_append_left _ isCurrent)
  obtain ⟨sameId, -, sameDefId, sameOwner, sameStart, -, samePrevious⟩ := same
  have isPast : kept ∈ (staged.through dismissal).store.historySteps 1 := by
    rcases List.mem_append.mp isKept with current | past
    · exact absurd (moved.1 ▸ current) List.not_mem_nil
    · exact past
  refine ⟨held, isCurrent, kept, isPast, sameId, sameDefId.trans defId, sameOwner.trans owner,
    sameStart.trans startDate, samePrevious.trans previous, ?_⟩
  rintro rfl
  exact moved.2 kept isPast isOpen

end World

end Caseflow
