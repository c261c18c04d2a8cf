import Caseflow.Engine.Turn
import Caseflow.Engine.Lifecycle
import Caseflow.Proofs.Looking
import Caseflow.Proofs.Requests
import Caseflow.Proofs.StoreViews
/-! Two runs of one computation. Worlds that show the same of an entry cannot be told apart by what
is asked about that entry, and what is written about it leaves all other entries as they are. A
computation of which every part is like that gives the same result in both worlds, notes the same,
and leaves worlds that again show the same of the entry. -/
namespace Caseflow

namespace Run

variable {σ τ α β : Type} {related : σ → σ → Prop} {fact : α → Prop}

/-- Started in related states, the computation comes to the same result, of which the fact holds if
it is an answer, and the states it ends in are related again. -/
def Alike (related : σ → σ → Prop) (computation : Run σ α) (fact : α → Prop) : Prop :=
  ∀ left right, related left right →
    (computation left).1 = (computation right).1 ∧
      related (computation left).2 (computation right).2 ∧
      ∀ value, (computation left).1 = .ok value → fact value

theorem alike_done {value : α} (holds : fact value) : Alike related (done value) fact :=
  fun _ _ here => ⟨rfl, here, fun _ same => by cases same; exact holds⟩

theorem alike_fail (failure : Failure) : Alike related (fail failure) fact :=
  fun _ _ here => ⟨rfl, here, fun _ same => by cases same⟩

theorem alike_change {update : σ → σ}
    (stays : ∀ left right, related left right → related (update left) (update right)) :
    Alike related (change update) fun _ => True :=
  fun left right here => ⟨rfl, stays left right here, fun _ _ => trivial⟩

theorem alike_ofExcept {result : Except Failure α} (holds : ∀ value, result = .ok value → fact value) :
    Alike related (ofExcept result) fact :=
  fun _ _ here => ⟨rfl, here, holds⟩

theorem alike_ofOption {failure : Failure} {found : Option α}
    (holds : ∀ value, found = some value → fact value) :
    Alike related (ofOption failure found) fact := by
  cases found with
  | none => exact alike_fail failure
  | some value => exact alike_done (holds value rfl)

theorem alike_andThen {after : β → Prop} {first : Run σ α} {next : α → Run σ β}
    (start : Alike related first fact) (rest : ∀ value, fact value → Alike related (next value) after) :
    Alike related (andThen first next) after := by
  intro left right here
  obtain ⟨same, there, holds⟩ := start left right here
  cases reached : first left with
  | mk result middle =>
    cases reachedToo : first right with
    | mk other middleToo =>
      rw [reached, reachedToo] at same there
      rw [reached] at holds
      obtain rfl : result = other := same
      cases result with
      | error failure =>
        rw [andThen_error reached, andThen_error reachedToo]
        exact ⟨rfl, there, fun _ answered => by cases answered⟩
      | ok value =>
        rw [andThen_ok reached, andThen_ok reachedToo]
        exact rest value (holds value rfl) middle middleToo there

theorem alike_bind {after : β → Prop} {first : Run σ α} {next : α → Run σ β}
    (start : Alike related first fact) (rest : ∀ value, fact value → Alike related (next value) after) :
    Alike related (first >>= next) after :=
  alike_andThen start rest

/-- What follows a look at the state must not tell related states apart. -/
theorem alike_read_bind {next : σ → Run σ α}
    (same : ∀ left right, related left right → next left = next right)
    (rest : ∀ left right, related left right → Alike related (next left) fact) :
    Alike related (read >>= next) fact := by
  intro left right here
  obtain ⟨equal, there, holds⟩ := rest left right here left right here
  have other : next right right = next left right := by rw [same left right here]
  exact ⟨equal.trans (congrArg Prod.fst other).symm, by rw [← other] at there; exact there, holds⟩

theorem alike_each {perform : α → Run σ Unit} {items : List α}
    (step : ∀ item ∈ items, Alike related (perform item) fun _ => True) :
    Alike related (each perform items) fun _ => True := by
  induction items with
  | nil => exact alike_done trivial
  | cons item rest ih =>
    refine alike_andThen (step item (List.mem_cons_self ..)) fun _ _ => ih fun later member => ?_
    exact step later (List.mem_cons_of_mem _ member)

theorem alike_within {part : τ → σ} {replace : τ → σ → τ} {whole : τ → τ → Prop}
    {computation : Run σ α} (alike : Alike related computation fact)
    (parts : ∀ left right, whole left right → related (part left) (part right))
    (wholes : ∀ left right after other, whole left right → related after other →
      whole (replace left after) (replace right other)) :
    Alike whole (within part replace computation) fact := by
  intro left right here
  obtain ⟨same, there, holds⟩ := alike _ _ (parts left right here)
  exact ⟨same, wholes left right _ _ here there, holds⟩

/-- What only looks is the same in any two worlds. -/
theorem alike_looks {related : World → World → Prop} {computation : Run World α}
    {admitted : Failure → Prop} (looks : Looks admitted computation)
    (noted : ∀ left right events, related left right →
      related (left.note events) (right.note events)) :
    Alike related computation fun _ => True := by
  obtain ⟨answer, calls, -, -, reached⟩ := looks
  intro left right here
  rw [reached, reached]
  exact ⟨rfl, noted left right calls here, fun _ _ => trivial⟩

end Run

/-! ### Requests about one entry -/

/-- The request is about this entry only. -/
def StoreRequest.Concerns (id : EntryId) : StoreRequest → Prop
  | .findEntry entry | .currentSteps entry | .historySteps entry | .properties entry => entry = id
  | .setEntryState entry _ => entry = id
  | .createStep new => new.entryId = id
  | .markFinished handle _ | .moveToHistory handle => handle.entryId = id
  | .createEntry _ | .query _ => False

namespace Store

variable {id : EntryId} {left right store after : Store}

/-- The current steps of the entry bear its number. -/
def Filed (id : EntryId) (store : Store) : Prop :=
  ∀ step ∈ store.currentSteps id, step.entryId = id

/-- The stores hold the same of the entry, and go on with the same number for steps. -/
structure Agree (id : EntryId) (left right : Store) : Prop where
  record : left.record? id = right.record? id
  counted : left.stepCount = right.stepCount

/-- Between the two stores only the entry has changed, and its steps are still its own. -/
structure Spares (id : EntryId) (store after : Store) : Prop where
  elsewhere : ∀ other, other ≠ id → after.record? other = store.record? other
  filed : store.Filed id → after.Filed id

theorem Spares.refl (id : EntryId) (store : Store) : store.Spares id store :=
  ⟨fun _ _ => rfl, fun filed => filed⟩

/-- What may be done to a record: it keeps its number and its steps stay its own. -/
structure Tame (id : EntryId) (change : Record → Record) : Prop where
  stable : ∀ record, (change record).entry.id = record.entry.id
  files : ∀ record, (∀ step ∈ record.current, step.entryId = id) →
    ∀ step ∈ (change record).current, step.entryId = id

theorem Tame.agree {change : Record → Record} (tame : Tame id change) (agree : Agree id left right) :
    Agree id (left.modifyRecord id change) (right.modifyRecord id change) := by
  refine ⟨?_, agree.counted⟩
  rw [record?_modifyRecord tame.stable, record?_modifyRecord tame.stable, agree.record]

theorem Tame.spares {change : Record → Record} (tame : Tame id change) :
    store.Spares id (store.modifyRecord id change) where
  elsewhere other apart := by
    rw [record?_modifyRecord tame.stable]
    cases store.record? other <;> simp [apart]
  filed filed := by
    intro step member
    rw [currentSteps, record?_modifyRecord tame.stable] at member
    cases found : store.record? id with
    | none => simp [found] at member
    | some record =>
      have own : ∀ step ∈ record.current, step.entryId = id := by
        intro step isCurrent
        exact filed step (by simpa [currentSteps, found] using isCurrent)
      exact tame.files record own step (by simpa [found] using member)

theorem tame_properties (change : Values → Values) :
    Tame id fun record => { record with properties := change record.properties } :=
  ⟨fun _ => rfl, fun _ own => own⟩

/-- The stores answer alike, and go on holding the same of the entry. -/
inductive Answers (id : EntryId) (left right : Store) {α : Type} :
    Except StoreError (α × Store) → Except StoreError (α × Store) → Prop where
  | refused (error : StoreError) : Answers id left right (.error error) (.error error)
  | answered (answer : α) {after other : Store} (agree : Agree id after other)
      (spares : left.Spares id after) (sparesToo : right.Spares id other) :
      Answers id left right (.ok (answer, after)) (.ok (answer, other))

theorem Agree.asked {α : Type} (agree : Agree id left right) {answer other : α}
    (same : answer = other) : Answers id left right (.ok (answer, left)) (.ok (other, right)) :=
  same ▸ .answered answer agree (.refl id left) (.refl id right)

theorem Agree.changed {α : Type} (agree : Agree id left right) {change : Record → Record}
    (tame : Tame id change) (answer : α) :
    Answers id left right (.ok (answer, left.modifyRecord id change))
      (.ok (answer, right.modifyRecord id change)) :=
  .answered answer (tame.agree agree) tame.spares tame.spares

theorem Agree.currentSteps (agree : Agree id left right) :
    left.currentSteps id = right.currentSteps id := by
  rw [Store.currentSteps, agree.record, Store.currentSteps]

theorem Agree.setEntryState (agree : Agree id left right) (state : EntryState) :
    Answers id left right ((left.setEntryState id state).map fun after => ((), after))
      ((right.setEntryState id state).map fun after => ((), after)) := by
  unfold Store.setEntryState
  rw [agree.record]
  cases right.record? id with
  | none => exact .refused _
  | some record =>
    refine agree.changed ?_ _
    exact ⟨fun _ => rfl, fun _ own => own⟩

theorem Agree.createStep {new : NewStep} (agree : Agree new.entryId left right) :
    Answers new.entryId left right (left.createStep new) (right.createStep new) := by
  unfold Store.createStep
  rw [agree.record, agree.counted]
  cases right.record? new.entryId with
  | none => exact .refused _
  | some record =>
    have tame (count : Nat) : Tame new.entryId fun record =>
        { record with current := record.current ++ [new.toStep count] } := by
      refine ⟨fun _ => rfl, fun record own step member => ?_⟩
      rcases List.mem_append.mp member with old | created
      · exact own step old
      · rw [List.mem_singleton.mp created]
        rfl
    have grown := (tame (right.stepCount + 1)).agree agree
    have spares {store : Store} : store.Spares new.entryId _ := (tame (right.stepCount + 1)).spares
    exact .answered _ ⟨grown.record, rfl⟩ ⟨spares.elsewhere, spares.filed⟩
      ⟨spares.elsewhere, spares.filed⟩

theorem Agree.markFinished {handle : Step} (agree : Agree handle.entryId left right)
    (closing : Closing) :
    Answers handle.entryId left right (left.markFinished handle closing)
      (right.markFinished handle closing) := by
  unfold Store.markFinished currentStep?
  rw [agree.currentSteps]
  cases (right.currentSteps handle.entryId).find? (·.id = handle.id) with
  | none => exact .refused _
  | some held =>
    refine agree.changed ?_ _
    refine ⟨fun _ => rfl, fun record own step member => ?_⟩
    obtain ⟨held, isCurrent, rfl⟩ := List.mem_map.mp member
    split
    · exact own held isCurrent
    · exact own held isCurrent

theorem Agree.moveToHistory {handle : Step} (agree : Agree handle.entryId left right) :
    Answers handle.entryId left right ((left.moveToHistory handle).map fun after => ((), after))
      ((right.moveToHistory handle).map fun after => ((), after)) := by
  unfold Store.moveToHistory currentStep?
  rw [agree.currentSteps]
  cases (right.currentSteps handle.entryId).find? (·.id = handle.id) with
  | none => exact .refused _
  | some held =>
    refine agree.changed ?_ _
    refine ⟨fun _ => rfl, fun record own step member => ?_⟩
    exact own step (List.mem_of_mem_eraseP member)

theorem Agree.properties (agree : Agree id left right) :
    Answers id left right ((left.properties id).map fun properties => (properties, left))
      ((right.properties id).map fun properties => (properties, right)) := by
  unfold Store.properties
  rw [agree.record]
  cases right.record? id with
  | none => exact .refused _
  | some record => exact agree.asked rfl

theorem Agree.findEntry? (agree : Agree id left right) : left.findEntry? id = right.findEntry? id :=
  congrArg _ agree.record

theorem Agree.historySteps (agree : Agree id left right) :
    left.historySteps id = right.historySteps id := by
  rw [Store.historySteps, agree.record, Store.historySteps]

/-- Stores that hold the same of an entry answer alike what they are asked about it. -/
theorem answers_agree {request : StoreRequest} (concerns : request.Concerns id)
    (agree : Agree id left right) (now : Instant) :
    Answers id left right (left.answer now request) (right.answer now request) := by
  cases request with
  | createEntry workflow => cases concerns
  | query query => cases concerns
  | findEntry entry =>
    cases concerns
    exact agree.asked agree.findEntry?
  | currentSteps entry =>
    cases concerns
    exact agree.asked agree.currentSteps
  | historySteps entry =>
    cases concerns
    exact agree.asked agree.historySteps
  | properties entry =>
    cases concerns
    exact agree.properties
  | setEntryState entry state =>
    cases concerns
    exact agree.setEntryState state
  | createStep new =>
    cases concerns
    exact agree.createStep
  | markFinished handle closing =>
    cases concerns
    exact agree.markFinished closing
  | moveToHistory handle =>
    cases concerns
    exact agree.moveToHistory

end Store

/-- From now on the calls of each method meet the same. -/
def Outages.SameAhead (left right : Outages) : Prop :=
  ∀ method passed, left.verdict method (left.calls method + passed) =
    right.verdict method (right.calls method + passed)

theorem Outages.SameAhead.next {left right : Outages} (same : left.SameAhead right)
    (method : StoreMethod) : left.next method = right.next method :=
  same method 0

theorem Outages.SameAhead.count {left right : Outages} (same : left.SameAhead right)
    (method : StoreMethod) : (left.count method).SameAhead (right.count method) := by
  intro asked passed
  by_cases here : asked = method
  · subst here
    have later := same asked (1 + passed)
    simpa [Outages.count, Nat.add_assoc] using later
  · simpa [Outages.count, here] using same asked passed

namespace World

variable {id : EntryId} {start other left right : World}

/-- The worlds show the same of the entry, at the same time and with the same outages to come. -/
structure Agree (id : EntryId) (left right : World) : Prop where
  store : Store.Agree id left.store right.store
  outages : left.outages.SameAhead right.outages
  now : left.now = right.now

theorem Agree.refl (id : EntryId) (world : World) : Agree id world world :=
  ⟨⟨rfl, rfl⟩, fun _ _ => rfl, rfl⟩

/-- Two runs that began in `start` and in `other` have come to worlds that show the same of the
entry. They have told the same, and changed nothing of other entries. -/
structure Parallel (id : EntryId) (start other left right : World) : Prop
    extends Agree id left right where
  filed : left.store.Filed id
  told : ∃ events, left.journal = start.journal ++ events ∧ right.journal = other.journal ++ events
  leaves : ∀ foreign, foreign ≠ id → left.store.record? foreign = start.store.record? foreign
  leavesToo : ∀ foreign, foreign ≠ id → right.store.record? foreign = other.store.record? foreign

theorem Agree.parallel (agree : Agree id left right) (filed : left.store.Filed id) :
    Parallel id left right left right where
  toAgree := agree
  filed := filed
  told := ⟨[], (List.append_nil _).symm, (List.append_nil _).symm⟩
  leaves _ _ := rfl
  leavesToo _ _ := rfl

namespace Parallel

variable (parallel : Parallel id start other left right)

include parallel

theorem note (events : List Event) :
    Parallel id start other (left.note events) (right.note events) := by
  obtain ⟨earlier, told, toldToo⟩ := parallel.told
  refine { parallel with told := ⟨earlier ++ events, ?_, ?_⟩ }
  · show left.journal ++ events = _
    rw [told, List.append_assoc]
  · show right.journal ++ events = _
    rw [toldToo, List.append_assoc]

theorem counted (method : StoreMethod) :
    Parallel id start other { left with outages := left.outages.count method }
      { right with outages := right.outages.count method } :=
  { parallel with outages := parallel.outages.count method }

theorem stored {store storeToo : Store} (agree : Store.Agree id store storeToo)
    (spares : left.store.Spares id store) (sparesToo : right.store.Spares id storeToo) :
    Parallel id start other { left with store } { right with store := storeToo } :=
  { parallel with
    store := agree
    filed := spares.filed parallel.filed
    leaves := fun foreign apart => (spares.elsewhere foreign apart).trans (parallel.leaves _ apart)
    leavesToo := fun foreign apart =>
      (sparesToo.elsewhere foreign apart).trans (parallel.leavesToo _ apart) }

theorem serve {request : StoreRequest} (concerns : request.Concerns id) :
    (left.serve request).1 = (right.serve request).1 ∧
      Parallel id start other (left.serve request).2 (right.serve request).2 := by
  have answers : Store.Answers id left.store right.store (left.store.answer left.now request)
      (right.store.answer right.now request) := by
    rw [← parallel.now]
    exact Store.answers_agree concerns parallel.store left.now
  unfold World.serve
  revert answers
  generalize left.store.answer left.now request = first
  generalize right.store.answer right.now request = second
  intro answers
  cases answers with
  | refused error => exact ⟨rfl, parallel⟩
  | answered answer agree spares sparesToo =>
    exact ⟨rfl, (parallel.stored agree spares sparesToo).note _⟩

/-- A request about the entry is answered alike. -/
theorem ask {request : StoreRequest} (concerns : request.Concerns id) :
    (left.ask request).1 = (right.ask request).1 ∧
      Parallel id start other (left.ask request).2 (right.ask request).2 := by
  have counted := parallel.counted request.method
  unfold World.ask
  rw [parallel.outages.next request.method]
  cases right.outages.next request.method with
  | none => exact counted.serve concerns
  | some outage =>
    cases outage with
    | failure error => exact ⟨rfl, counted⟩
    | absence =>
      dsimp only
      cases request.absence? with
      | none => exact counted.serve concerns
      | some answer => exact ⟨rfl, counted⟩

end Parallel

open Run

variable {id : EntryId} {start other : World}

section Requests

/-- A request about the entry cannot tell parallel worlds apart. -/
theorem request_alike (request : StoreRequest) (concerns : request.Concerns id)
    {fact : request.Answer → Prop}
    (holds : ∀ left answer after, left.store.Filed id → Served left request (.ok answer) after →
      fact answer) : Alike (Parallel id start other) (Run.request request) fact := by
  intro left right parallel
  obtain ⟨same, there⟩ := parallel.ask concerns
  have served := left.ask_served request
  unfold Run.request
  revert same there served
  generalize left.ask request = first
  generalize right.ask request = second
  intro same there served
  obtain ⟨result, after⟩ := first
  obtain ⟨resultToo, afterToo⟩ := second
  obtain rfl : result = resultToo := same
  cases result with
  | error error => exact ⟨rfl, there, fun _ answered => by cases answered⟩
  | ok answer =>
    refine ⟨rfl, there, fun _ answered => ?_⟩
    cases answered
    exact holds left answer after parallel.filed served

theorem findEntry_alike :
    Alike (Parallel id start other) (findEntry id) fun entry => entry.id = id := by
  unfold findEntry
  have finds : Alike (Parallel id start other) (World.findEntry? id)
      fun found => ∀ entry, found = some entry → entry.id = id := by
    refine request_alike (.findEntry id) rfl fun left answer after _ served => ?_
    obtain ⟨-, -, ⟨error, refused⟩ | found | ⟨lost, -⟩⟩ := findEntry_served served
    · cases refused
    · cases found
      exact fun entry => Store.id_of_findEntry?
    · cases lost
      exact fun entry found => by cases found
  exact alike_bind finds fun found known => alike_ofOption known

theorem currentSteps_alike :
    Alike (Parallel id start other) (currentSteps id) fun steps =>
      ∀ step ∈ steps, step.entryId = id := by
  refine request_alike (.currentSteps id) rfl fun left answer after filed served => ?_
  obtain ⟨-, -, ⟨error, refused⟩ | found⟩ := currentSteps_served served
  · cases refused
  · cases found
    exact filed

theorem createStep_alike {new : NewStep} (own : new.entryId = id) :
    Alike (Parallel id start other) (createStep new) fun step => step.entryId = id := by
  refine request_alike (.createStep new) own fun left answer after _ served => ?_
  cases served with
  | answered step store done =>
    obtain ⟨-, rfl, -⟩ := Store.createStep_eq done
    exact own
  | absent step lost => cases lost

/-- The other requests answer nothing that has to be known. -/
theorem plain_alike (request : StoreRequest) (concerns : request.Concerns id) :
    Alike (Parallel id start other) (Run.request request) fun _ => True :=
  request_alike request concerns fun _ _ _ _ _ => trivial

theorem looks_alike {α : Type} {computation : Run World α} {admitted : Failure → Prop}
    (looks : Looks admitted computation) :
    Alike (Parallel id start other) computation fun _ => True :=
  alike_looks looks fun _ _ events parallel => parallel.note events

end Requests

end World

/-! ### The lifecycle -/

namespace Lifecycle

open Run

variable {id : EntryId} {start other : World}

theorem closeSteps_alike (closing : Closing) {steps : List Step}
    (own : ∀ step ∈ steps, step.entryId = id) :
    Alike (World.Parallel id start other) (closeSteps closing steps) fun _ => True := by
  refine alike_each fun step member => ?_
  refine alike_bind (World.plain_alike (.markFinished step closing) (own step member))
    fun _ _ => ?_
  exact World.plain_alike (.moveToHistory step) (own step member)

theorem closeAll_alike (finishedStatus : String) (actionId : ActionId) (caller : Option String) :
    Alike (World.Parallel id start other) (closeAll finishedStatus id actionId caller)
      fun _ => True := by
  refine alike_read_bind (fun left right parallel => by rw [parallel.now]) fun left _ _ => ?_
  exact alike_bind World.currentSteps_alike fun steps own => closeSteps_alike _ own

theorem move_alike (finishedStatus : String) (target : EntryState) (actionId : ActionId)
    (caller : Option String) :
    Alike (World.Parallel id start other) (move finishedStatus id target actionId caller)
      fun _ => True := by
  have sets : Alike (World.Parallel id start other) (World.setEntryState id target) fun _ => True :=
    World.plain_alike (.setEntryState id target) rfl
  unfold move
  refine alike_bind World.findEntry_alike fun entry _ => ?_
  split
  · exact alike_done trivial
  split
  · exact alike_fail _
  split
  · refine alike_bind (closeAll_alike _ _ _) fun _ _ => ?_
    exact alike_bind sets fun _ _ => alike_done trivial
  · exact alike_bind sets fun _ _ => alike_done trivial

end Lifecycle

/-! ### Turns -/

/-- The program is about this entry only, wherever the scope shows this entry. -/
inductive Program.Local (id : EntryId) : Program → Prop where
  | done : Local id .done
  | fail (failure : Failure) : Local id (.fail failure)
  | look {next : Scope → Values → Program}
      (rest : ∀ scope properties, scope.entry.id = id → Local id (next scope properties)) :
      Local id (.look next)
  | assign {name : String} {value : Json} {next : Program} (rest : Local id next) :
      Local id (.amend (·.assign name value) next)
  | putProperty {name : String} {value : Json} {next : Program} (rest : Local id next) :
      Local id (.putProperty name value next)
  | dropProperty {name : String} {next : Program} (rest : Local id next) :
      Local id (.dropProperty name next)
  | ask {request : StoreRequest} {next : Except StoreError request.Answer → Program}
      (concerns : request.Concerns id) (rest : ∀ answer, Local id (next answer)) :
      Local id (.ask request next)

/-- The function is about the entry that its scope shows. -/
def Function.Local (function : Function) : Prop :=
  ∀ id given, (function given).Local id

namespace Turn

open Run

/-- Two turns on the entry that differ in what their worlds hold of other entries only. -/
structure Parallel (id : EntryId) (start other : World) (left right : Turn) : Prop where
  worlds : World.Parallel id start other left.world right.world
  scope : left.scope = right.scope
  known : left.known = right.known
  home : left.home = id
  homeToo : right.home = id
  entry : left.scope.entry.id = id
  shown : ∀ step ∈ left.scope.currentSteps, step.entryId = id

variable {id : EntryId} {start other : World} {left right : Turn}

namespace Parallel

variable (parallel : Parallel id start other left right)

include parallel

theorem properties : left.properties = right.properties := by
  unfold Turn.properties Store.propertiesOf
  rw [parallel.home, parallel.homeToo, parallel.worlds.store.record]

theorem amend {change : Scope → Scope}
    (entry : ∀ scope, scope.entry.id = id → (change scope).entry.id = id)
    (shown : ∀ scope, (∀ step ∈ scope.currentSteps, step.entryId = id) →
      ∀ step ∈ (change scope).currentSteps, step.entryId = id) :
    Parallel id start other { left with scope := change left.scope }
      { right with scope := change right.scope } :=
  { parallel with
    scope := congrArg change parallel.scope
    entry := entry _ parallel.entry
    shown := shown _ parallel.shown }

theorem amendProperties (change : Values → Values) :
    Parallel id start other
      { left with
        world := { left.world with
          store := left.world.store.modifyProperties left.home change } }
      { right with
        world := { right.world with
          store := right.world.store.modifyProperties right.home change } } := by
  refine { parallel with worlds := ?_ }
  rw [parallel.home, parallel.homeToo]
  have tame : Store.Tame id _ := Store.tame_properties change
  exact parallel.worlds.stored (tame.agree parallel.worlds.store) tame.spares tame.spares

end Parallel

section Rules

variable {α : Type} {fact : α → Prop}

theorem onWorld_alike {computation : Run World α}
    (alike : Alike (World.Parallel id start other) computation fact) :
    Alike (Parallel id start other) (onWorld computation) fact :=
  alike_within alike (fun _ _ parallel => parallel.worlds)
    fun _ _ _ _ parallel worlds => { parallel with worlds }

theorem amendScope_alike {change : Scope → Scope}
    (entry : ∀ scope, scope.entry.id = id → (change scope).entry.id = id)
    (shown : ∀ scope, (∀ step ∈ scope.currentSteps, step.entryId = id) →
      ∀ step ∈ (change scope).currentSteps, step.entryId = id) :
    Alike (Parallel id start other) (amendScope change) fun _ => True :=
  alike_change fun _ _ parallel => parallel.amend entry shown

theorem scopeNow_alike :
    Alike (Parallel id start other) scopeNow fun scope =>
      scope.entry.id = id ∧ ∀ step ∈ scope.currentSteps, step.entryId = id :=
  alike_read_bind (fun _ _ parallel => by rw [parallel.scope])
    fun _ _ parallel => alike_done ⟨parallel.entry, parallel.shown⟩

theorem answerOf_alike {request : StoreRequest} (concerns : request.Concerns id) :
    Alike (Parallel id start other) (answerOf request) fun _ => True := by
  intro left right parallel
  obtain ⟨same, worlds⟩ := parallel.worlds.ask concerns
  exact ⟨congrArg Except.ok same, { parallel with worlds }, fun _ _ => trivial⟩

/-- A program about the entry at hand cannot tell the turns apart. -/
theorem perform_alike {program : Program} (isLocal : program.Local id) :
    Alike (Parallel id start other) (perform program) fun _ => True := by
  induction isLocal with
  | done => exact alike_done trivial
  | fail failure => exact alike_fail failure
  | look rest ih =>
    refine alike_read_bind (fun left right parallel => ?_) fun left right parallel => ?_
    · rw [parallel.scope, parallel.properties]
    · exact ih left.scope left.properties parallel.entry
  | assign rest ih =>
    exact alike_andThen (amendScope_alike (fun _ own => own) fun _ own => own) fun _ _ => ih
  | putProperty rest ih =>
    exact alike_andThen (alike_change fun _ _ parallel => parallel.amendProperties _) fun _ _ => ih
  | dropProperty rest ih =>
    exact alike_andThen (alike_change fun _ _ parallel => parallel.amendProperties _) fun _ _ => ih
  | ask concerns rest ih => exact alike_andThen (answerOf_alike concerns) fun answer _ => ih answer

end Rules

end Turn

end Caseflow
