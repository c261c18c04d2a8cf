import Caseflow.World.Basic
import Caseflow.Proofs.Contract
/-! What a request to the store can come to, with or without an outage, and the contracts of the
requests as computations. -/
namespace Caseflow

/-- A mapped result was a result before. -/
theorem exists_of_map_eq_ok {ε α β : Type} {result : Except ε α} {change : α → β}
    {value : β} (done : result.map change = .ok value) :
    ∃ before, result = .ok before ∧ change before = value := by
  cases result with
  | error error => cases done
  | ok before => exact ⟨before, rfl, by cases done; rfl⟩

namespace World

/-- A request is refused, by an outage or by the store; or the store answers it; or, where a method
can, it answers as if everything were lost. Only an answer of the store changes the store and is
noted in the journal. -/
inductive Served (world : World) (request : StoreRequest) :
    Except StoreError request.Answer → World → Prop where
  | refused (error : StoreError)
      (cause : world.outages.next request.method = some (.failure error) ∨
        world.store.answer world.now request = .error error) :
      Served world request (.error error)
        { world with outages := world.outages.count request.method }
  | answered (value : request.Answer) (store : Store)
      (done : world.store.answer world.now request = .ok (value, store)) :
      Served world request (.ok value)
        { world with
          store
          outages := world.outages.count request.method
          journal := world.journal ++ request.events value }
  | absent (value : request.Answer) (lost : request.absence? = some value)
      (met : world.outages.next request.method = some .absence) :
      Served world request (.ok value)
        { world with outages := world.outages.count request.method }

theorem serve_served (world : World) (request : StoreRequest) :
    Served world request
      (({ world with outages := world.outages.count request.method } : World).serve request).1
      (({ world with outages := world.outages.count request.method } : World).serve request).2 := by
  cases done : world.store.answer world.now request with
  | error error => simpa [serve, done] using Served.refused error (.inr done)
  | ok answer =>
    obtain ⟨value, store⟩ := answer
    simpa [serve, done, note] using Served.answered value store done

theorem ask_served (world : World) (request : StoreRequest) :
    Served world request (world.ask request).1 (world.ask request).2 := by
  unfold ask
  split
  · rename_i met
    exact .refused _ (.inl met)
  · rename_i met
    split
    · rename_i value lost
      exact .absent value lost met
    · exact serve_served world request
  · exact serve_served world request

section Frame

variable {world after : World} {request : StoreRequest} {answer : Except StoreError request.Answer}

theorem now_of_served (served : Served world request answer after) : after.now = world.now := by
  cases served <;> rfl

theorem verdict_of_served (served : Served world request answer after) :
    after.outages.verdict = world.outages.verdict := by
  cases served <;> rfl

/-- A request that asks for something leaves the store as it is. -/
theorem findEntry_served {id : EntryId}
    {answer : Except StoreError (StoreRequest.findEntry id).Answer}
    (served : Served world (.findEntry id) answer after) :
    after.store = world.store ∧ after.journal = world.journal ∧
      ((∃ error, answer = .error error) ∨ answer = .ok (world.store.findEntry? id) ∨
        answer = .ok (none : Option Entry) ∧
          ∃ call, world.outages.verdict .findEntry call = some .absence) := by
  cases served with
  | refused error => exact ⟨rfl, rfl, .inl ⟨error, rfl⟩⟩
  | answered value store done =>
    cases done
    exact ⟨rfl, List.append_nil _, .inr (.inl rfl)⟩
  | absent value lost met =>
    cases lost
    exact ⟨rfl, rfl, .inr (.inr ⟨rfl, _, met⟩)⟩

theorem currentSteps_served {id : EntryId}
    {answer : Except StoreError (StoreRequest.currentSteps id).Answer}
    (served : Served world (.currentSteps id) answer after) :
    after.store = world.store ∧ after.journal = world.journal ∧
      ((∃ error, answer = .error error) ∨ answer = .ok (world.store.currentSteps id)) := by
  cases served with
  | refused error => exact ⟨rfl, rfl, .inl ⟨error, rfl⟩⟩
  | answered value store done =>
    cases done
    exact ⟨rfl, List.append_nil _, .inr rfl⟩
  | absent value lost => cases lost

theorem historySteps_served {id : EntryId}
    {answer : Except StoreError (StoreRequest.historySteps id).Answer}
    (served : Served world (.historySteps id) answer after) :
    after.store = world.store ∧ after.journal = world.journal ∧
      ((∃ error, answer = .error error) ∨ answer = .ok (world.store.historySteps id)) := by
  cases served with
  | refused error => exact ⟨rfl, rfl, .inl ⟨error, rfl⟩⟩
  | answered value store done =>
    cases done
    exact ⟨rfl, List.append_nil _, .inr rfl⟩
  | absent value lost => cases lost

theorem properties_served {id : EntryId}
    {answer : Except StoreError (StoreRequest.properties id).Answer}
    (served : Served world (.properties id) answer after) :
    after.store = world.store ∧ after.journal = world.journal ∧
      ((∃ error, answer = .error error) ∨ answer = .ok (world.store.propertiesOf id)) := by
  cases served with
  | refused error => exact ⟨rfl, rfl, .inl ⟨error, rfl⟩⟩
  | answered value store done =>
    simp only [Store.answer, Store.properties] at done
    split at done
    · cases done
    · rename_i record found
      cases done
      exact ⟨rfl, List.append_nil _, .inr (by simp [Store.propertiesOf, found])⟩
  | absent value lost => cases lost

end Frame

end World

namespace Run

variable {before kept : World → Prop} {admitted : Failure → Prop} {request : StoreRequest}

/-- The contract of a request, from all it can come to. -/
theorem meets_request {answered : request.Answer → World → Prop} {failed : Failure → World → Prop}
    (answers : ∀ world value after, before world → World.Served world request (.ok value) after →
      answered value after)
    (refusals : ∀ world error after, before world →
      World.Served world request (.error error) after → failed (.store error) after) :
    Meets before (Run.request request) answered failed := by
  intro world holds
  have served := world.ask_served request
  unfold Run.request
  split
  · rename_i reached
    split at reached
    · rename_i value after asked
      cases reached
      rw [asked] at served
      exact answers world _ _ holds served
    · cases reached
  · rename_i reached
    split at reached
    · cases reached
    · rename_i error after asked
      cases reached
      rw [asked] at served
      exact refusals world _ _ holds served

theorem keeps_request (allowed : ∀ error, admitted (.store error))
    (stays : ∀ world answer after, kept world → World.Served world request answer after →
      kept after) : Keeps kept admitted (Run.request request) :=
  meets_request (fun world value after holds served => stays world (.ok value) after holds served)
    fun world error after holds served =>
      ⟨stays world (.error error) after holds served, allowed error⟩

end Run

end Caseflow
