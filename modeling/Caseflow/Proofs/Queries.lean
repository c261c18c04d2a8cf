import Mathlib.Logic.Basic
import Caseflow.Proofs.Bookkeeping
/-! What a search finds. An expression means something for an entry, by what the store reports of
the entry and of its steps, and the search answers the numbers of the entries of which the meaning
is true. So the connectives are those of logic: what an expression does not find its negation does,
also where an entry has no steps to look at. -/
namespace Caseflow

/-- The field of the step has the value. -/
def FieldTest.Met (step : Step) : FieldTest → Prop
  | .defId id => step.defId = id
  | .actionId id => step.actionId = id
  | .owner name => step.owner = some name
  | .caller name => step.caller = some name
  | .status text => step.status = text

theorem FieldTest.holds_iff {test : FieldTest} {step : Step} :
    test.holds step = true ↔ test.Met step := by
  cases test <;> simp [holds, Met]

namespace Store

variable {store : Store} {id : EntryId}

/-- The steps of an entry in a partition, as the store reports them. -/
def partition (store : Store) (id : EntryId) : Partition → List Step
  | .current => store.currentSteps id
  | .history => store.historySteps id

theorem record?_of_mem (numbered : store.Numbered) {record : Record} (member : record ∈ store.records) :
    store.record? record.entry.id = some record := by
  have distinct : (store.records.map (·.entry.id)).Nodup := numbered ▸ List.nodup_range'
  have known : (store.record? record.entry.id).isSome := by
    rw [record?, List.find?_isSome]
    exact ⟨record, member, decide_eq_true rfl⟩
  obtain ⟨found, holds⟩ := Option.isSome_iff_exists.mp known
  have same : found.entry.id = record.entry.id := by simpa using List.find?_some holds
  rw [holds, List.inj_on_of_nodup_map distinct (List.mem_of_find?_eq_some holds) member same]

end Store

namespace Query

variable {store : Store} {entry : Entry} {current history : List Step} {parts : List Query}

/-- An expression is told by its parts. -/
theorem induction {motive : Query → Prop}
    (someStep : ∀ partition test, motive (.someStep partition test))
    (ofWorkflow : ∀ name, motive (.ofWorkflow name))
    (inState : ∀ state, motive (.inState state))
    (all : ∀ parts, (∀ part ∈ parts, motive part) → motive (.all parts))
    (any : ∀ parts, (∀ part ∈ parts, motive part) → motive (.any parts))
    (not : ∀ part, motive part → motive (.not part)) (query : Query) : motive query :=
  -- The recursor has a second motive, for the parts of a connective.
  @Query.rec motive (fun parts => ∀ part ∈ parts, motive part) someStep ofWorkflow inState all any not
    (List.forall_mem_nil motive) (fun _ _ head rest => List.forall_mem_cons.mpr ⟨head, rest⟩) query

/-- What an expression says of an entry of the store. -/
def Means (store : Store) (entry : Entry) : Query → Prop
  | .someStep partition test => ∃ step ∈ store.partition entry.id partition, test.Met step
  | .ofWorkflow name => entry.workflow = name
  | .inState state => entry.state = state
  | .all parts => ∀ part, ∀ _ : part ∈ parts, part.Means store entry
  | .any parts => ∃ part, ∃ _ : part ∈ parts, part.Means store entry
  | .not part => ¬ part.Means store entry
termination_by query => sizeOf query
decreasing_by
  all_goals simp_wf
  · exact Nat.lt_trans (List.sizeOf_lt_of_mem ‹_›) (by omega)
  · exact Nat.lt_trans (List.sizeOf_lt_of_mem ‹_›) (by omega)

theorem allHold_iff : allHold entry current history parts = true ↔
    ∀ part ∈ parts, part.holds entry current history = true := by
  induction parts with
  | nil => simp [allHold]
  | cons part rest ih => simp [allHold, ih]

theorem anyHolds_iff : anyHolds entry current history parts = true ↔
    ∃ part ∈ parts, part.holds entry current history = true := by
  induction parts with
  | nil => simp [anyHolds]
  | cons part rest ih => simp [anyHolds, ih]

/-- An expression holds of the steps that the store reports exactly if it means something true. -/
theorem holds_iff (query : Query) :
    query.holds entry (store.currentSteps entry.id) (store.historySteps entry.id) = true ↔
      query.Means store entry := by
  induction query using Query.induction with
  | someStep partition test =>
    cases partition <;> simp [holds, Means, Store.partition, FieldTest.holds_iff]
  | ofWorkflow name => simp [holds, Means]
  | inState state => simp [holds, Means]
  | all parts ih =>
    rw [holds, Means, allHold_iff]
    exact forall₂_congr ih
  | any parts ih =>
    rw [holds, Means, anyHolds_iff]
    simp only [exists_prop]
    exact exists_congr fun part => and_congr_right (ih part)
  | not part ih => rw [holds, Means, Bool.not_eq_true', ← Bool.not_eq_true, ih]

/-- All do not hold exactly if one of them does not. -/
theorem holds_not_all (parts : List Query) :
    (Query.not (.all parts)).holds entry current history =
      (Query.any (parts.map .not)).holds entry current history := by
  simp only [holds]
  induction parts with
  | nil => rfl
  | cons part rest ih => simp only [allHold, List.map_cons, anyHolds, holds, Bool.not_and, ih]

end Query

namespace Store

variable {store : Store} {id : EntryId} {query : Query}

/-- The search finds an entry exactly if the expression is true of it. -/
theorem mem_query_iff (numbered : store.Numbered) :
    id ∈ store.query query ↔
      ∃ entry, store.findEntry? id = some entry ∧ query.Means store entry := by
  have reported {record : Record} (known : store.record? record.entry.id = some record) :
      query.holds record.entry record.current record.history = true ↔
        query.Means store record.entry := by
    rw [← Query.holds_iff, currentSteps, historySteps, known]
    rfl
  simp only [Store.query, List.mem_map, List.mem_filter, findEntry?, Option.map_eq_some_iff]
  constructor
  · rintro ⟨record, ⟨member, holds⟩, rfl⟩
    have known := record?_of_mem numbered member
    exact ⟨record.entry, ⟨record, known, rfl⟩, (reported known).mp holds⟩
  · rintro ⟨entry, ⟨record, known, rfl⟩, means⟩
    obtain rfl : record.entry.id = id := by simpa using List.find?_some known
    exact ⟨record, ⟨List.mem_of_find?_eq_some known, (reported known).mpr means⟩, rfl⟩

/-- What is found stands in the order of the numbers, none of them twice. -/
theorem query_ascending (numbered : store.Numbered) : (store.query query).Pairwise (· < ·) := by
  have all : (store.records.map (·.entry.id)).Pairwise (· < ·) := numbered ▸ List.pairwise_lt_range'
  exact all.sublist (List.filter_sublist.map _)

theorem query_not_all (parts : List Query) :
    store.query (.not (.all parts)) = store.query (.any (parts.map .not)) := by
  simp only [Store.query, Query.holds_not_all]

/-- In whatever has become of a new store, a search changes nothing and answers, in ascending
order, the numbers of the entries of which the expression is true. Every entry is found either by
an expression or by its negation, in particular an entry without steps in a partition by the
negation of any condition on these. A negated conjunction finds the same list as the disjunction of
the negated parts. -/
theorem queries_select (outages : Outages) (now : Instant) (happenings : List Happening)
    (query : Query) :
    let store := (World.through { outages, now } happenings).store
    store.answer now (.query query) = .ok (store.query query, store) ∧
      (store.query query).Pairwise (· < ·) ∧
      (∀ id, id ∈ store.query query ↔
        ∃ entry, store.findEntry? id = some entry ∧ query.Means store entry) ∧
      (∀ id, (∃ entry, store.findEntry? id = some entry) ↔
        Xor (id ∈ store.query query) (id ∈ store.query (.not query))) ∧
      (∀ id partition test, (∃ entry, store.findEntry? id = some entry) →
        store.partition id partition = [] →
          id ∈ store.query (.not (.someStep partition test))) ∧
      ∀ parts, store.query (.not (.all parts)) = store.query (.any (parts.map .not)) := by
  intro store
  have numbered : store.Numbered := (World.booked_through .new happenings).numbered
  refine ⟨rfl, query_ascending numbered, fun id => mem_query_iff numbered, fun id => ?_,
    fun id partition test known nothing => ?_, query_not_all⟩
  · rw [mem_query_iff numbered, mem_query_iff numbered]
    simp only [Query.Means]
    cases found : store.findEntry? id with
    | none => simp [Xor]
    | some entry => by_cases means : query.Means store entry <;> simp [Xor, means]
  · obtain ⟨entry, found⟩ := known
    refine (mem_query_iff numbered).mpr ⟨entry, found, ?_⟩
    simp [Query.Means, id_of_findEntry? found, nothing]

end Store

end Caseflow
