import Caseflow.Proofs.Looking
import Caseflow.Proofs.Requests
/-! Looking at a world. What only asks the store or only calls guards leaves the store as it is and
adds nothing but notes on calls to the journal, so the answers agree with the store that was there
before and is there after. -/
namespace Caseflow

open Run

namespace World

/-- Since `start` the world was only looked at. -/
structure Observed (start world : World) : Prop where
  store : world.store = start.store
  verdict : world.outages.verdict = start.outages.verdict
  journal : ∃ calls, (∀ event ∈ calls, Event.isCall event = true) ∧
    world.journal = start.journal ++ calls

variable {start world after : World}

theorem Observed.refl (world : World) : Observed world world where
  store := rfl
  verdict := rfl
  journal := ⟨[], by simp, by simp⟩

theorem Observed.noted (observed : Observed start world) {calls : List Event}
    (areCalls : ∀ event ∈ calls, Event.isCall event = true) :
    Observed start (world.note calls) where
  store := observed.store
  verdict := observed.verdict
  journal := by
    obtain ⟨earlier, areEarlier, reached⟩ := observed.journal
    refine ⟨earlier ++ calls, fun event member => ?_, by simp [reached, note]⟩
    exact (List.mem_append.mp member).elim (areEarlier event) (areCalls event)

/-- A request that leaves the store and the journal alone only looks. -/
theorem Observed.asked (observed : Observed start world) {request : StoreRequest}
    {answer : Except StoreError request.Answer} (served : world.Served request answer after)
    (store : after.store = world.store) (journal : after.journal = world.journal) :
    Observed start after where
  store := store.trans observed.store
  verdict := (verdict_of_served served).trans observed.verdict
  journal := by rw [journal]; exact observed.journal

/-- What an entry is not found for. -/
inductive NotFound (start : World) (id : EntryId) : Failure → Prop where
  | store (error : StoreError) : NotFound start id (.store error)
  | missing (gone : start.store.findEntry? id = none) : NotFound start id (.entryNotFound id)
  | lost (call : Nat) (met : start.outages.verdict .findEntry call = some .absence) :
      NotFound start id (.entryNotFound id)

theorem findEntry_observes (start : World) (id : EntryId) :
    Meets (Observed start) (findEntry id)
      (fun entry world => start.store.findEntry? id = some entry ∧ Observed start world)
      (fun failure world => Observed start world ∧ NotFound start id failure) := by
  unfold findEntry
  refine meets_bind_via (fun found world => Observed start world ∧
    (found = start.store.findEntry? id ∨ found = none ∧
      ∃ call, start.outages.verdict .findEntry call = some .absence)) ?_ fun found => ?_
  · refine meets_request (fun world value after observed served => ?_)
      fun world error after observed served => ?_
    · obtain ⟨store, journal, answer⟩ := findEntry_served served
      refine ⟨observed.asked served store journal, ?_⟩
      obtain ⟨_, refused⟩ | found | ⟨lost, call, met⟩ := answer
      · cases refused
      · cases found
        exact .inl (by rw [observed.store])
      · cases lost
        exact .inr ⟨rfl, call, observed.verdict ▸ met⟩
    · obtain ⟨store, journal, -⟩ := findEntry_served served
      exact ⟨observed.asked served store journal, .store error⟩
  · refine meets_ofOption (fun value same world ends => ?_) fun gone world ends => ?_
    · obtain ⟨observed, found | ⟨lost, -⟩⟩ := ends
      · exact ⟨found.symm.trans same, observed⟩
      · rw [lost] at same
        cases same
    · obtain ⟨observed, found | ⟨-, call, met⟩⟩ := ends
      · exact ⟨observed, .missing (found.symm.trans gone)⟩
      · exact ⟨observed, .lost call met⟩

theorem currentSteps_observes (start : World) (id : EntryId) :
    Meets (Observed start) (currentSteps id)
      (fun steps world => steps = start.store.currentSteps id ∧ Observed start world)
      (fun failure world => Observed start world ∧ ∃ error, failure = .store error) := by
  refine meets_request (fun world value after observed served => ?_)
    fun world error after observed served => ?_
  · obtain ⟨store, journal, answer⟩ := currentSteps_served served
    obtain ⟨_, refused⟩ | found := answer
    · cases refused
    · cases found
      exact ⟨by rw [observed.store], observed.asked served store journal⟩
  · obtain ⟨store, journal, -⟩ := currentSteps_served served
    exact ⟨observed.asked served store journal, error, rfl⟩

theorem properties_observes (start : World) (id : EntryId) :
    Meets (Observed start) (properties id)
      (fun values world => values = start.store.propertiesOf id ∧ Observed start world)
      (fun failure world => Observed start world ∧ ∃ error, failure = .store error) := by
  refine meets_request (fun world value after observed served => ?_)
    fun world error after observed served => ?_
  · obtain ⟨store, journal, answer⟩ := properties_served served
    obtain ⟨_, refused⟩ | found := answer
    · cases refused
    · cases found
      exact ⟨by rw [observed.store], observed.asked served store journal⟩
  · obtain ⟨store, journal, -⟩ := properties_served served
    exact ⟨observed.asked served store journal, error, rfl⟩

/-- A computation that only looks answers what it would answer in any world. -/
theorem looks_observes {α : Type} {admitted : Failure → Prop} {computation : Run World α}
    (looks : Looks admitted computation) (start : World) :
    Meets (Observed start) computation
      (fun value world => (∀ other, (computation other).1 = .ok value) ∧ Observed start world)
      (fun failure world => Observed start world ∧ admitted failure) := by
  obtain ⟨answer, calls, areCalls, allowed, reached⟩ := looks
  intro world observed
  rw [reached]
  cases answer with
  | ok value => exact ⟨fun other => by rw [reached], observed.noted areCalls⟩
  | error failure => exact ⟨observed.noted areCalls, allowed failure rfl⟩

end World

end Caseflow
