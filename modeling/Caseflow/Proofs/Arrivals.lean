import Caseflow.Proofs.Joining
/-! Branches that arrive at a barrier one after another. Each of the steps that were opened for
them is either waiting or arrived, and an arrival takes its own one from the former to the
latter. -/
namespace Caseflow

/-- A branch with the step that was opened for it. -/
abbrev Place := Branch × Step

/-- The call of a caller on an action, at some time. -/
structure Arrival where
  caller : Option String := none
  action : ActionId
  inputs : Values := ∅
  now : Instant := ⟨0, 0⟩

/-- How the arrival closes the step of its branch. -/
def Arrival.closing (arrival : Arrival) : Closing :=
  ⟨arrival.action, arrival.now, Branch.done, arrival.caller⟩

namespace Place

/-- The steps of the branches that have not arrived, in the order they were opened. -/
def waiting (places : List Place) (done : List Arrival) : List Step :=
  (places.filter fun place => place.1.action.id ∉ done.map (·.action)).map (·.2)

/-- The steps of the branches that have arrived, in the order of their arrival, as they were
closed. -/
def arrived (places : List Place) (done : List Arrival) : List Step :=
  done.filterMap fun arrival =>
    (places.find? (·.1.action.id = arrival.action)).map fun place => arrival.closing.mark place.2

/-- The steps were opened for the branches, each under a number of its own. -/
structure Opened (entryId : EntryId) (branches : List Branch) (places : List Place) : Prop where
  branches : places.map (·.1) = branches
  each : ∀ place ∈ places, place.1.OpenedAs entryId place.2
  ids : (places.map (·.2.id)).Nodup

theorem opened_zip {entryId : EntryId} {branches : List Branch} {steps : List Step} {start : StepId}
    (each : List.Forall₂ (Branch.OpenedAs entryId) branches steps)
    (ids : steps.map (·.id) = List.range' start branches.length) :
    Opened entryId branches (branches.zip steps) ∧ (branches.zip steps).map (·.2) = steps := by
  have right : (branches.zip steps).map (·.2) = steps := List.map_snd_zip each.length_eq.ge
  refine ⟨⟨List.map_fst_zip each.length_eq.le, fun place member => List.forall₂_zip each member, ?_⟩,
    right⟩
  have numbers : (branches.zip steps).map (·.2.id) = ((branches.zip steps).map (·.2)).map (·.id) := by
    rw [List.map_map]
    rfl
  rw [numbers, right, ids]
  exact List.nodup_range'

variable {places : List Place} {place : Place} {done : List Arrival} {arrival : Arrival}

theorem waiting_nil (places : List Place) : waiting places [] = places.map (·.2) := by
  simp [waiting]

theorem waiting_append (first second : List Place) (done : List Arrival) :
    waiting (first ++ second) done = waiting first done ++ waiting second done := by
  simp [waiting]

theorem waiting_cons_new (rest : List Place) (new : place.1.action.id ∉ done.map (·.action)) :
    waiting (place :: rest) done = place.2 :: waiting rest done := by
  unfold waiting
  rw [List.filter_cons_of_pos (by simpa using new), List.map_cons]

theorem waiting_cons_done (rest : List Place) (old : place.1.action.id ∈ done.map (·.action)) :
    waiting (place :: rest) done = waiting rest done := by
  unfold waiting
  rw [List.filter_cons_of_neg (by simpa using old)]

/-- An arrival leaves the other branches waiting. -/
theorem waiting_others (apart : ∀ place ∈ places, place.1.action.id ≠ arrival.action) :
    waiting places (done ++ [arrival]) = waiting places done := by
  unfold waiting
  refine congrArg _ (List.filter_congr fun place member => ?_)
  simp [apart place member]

/-- An arrival takes its own branch out of the waiting ones. -/
theorem waiting_arrival (differ : (places.map (·.1.action.id)).Nodup) (member : place ∈ places)
    (same : place.1.action.id = arrival.action) (new : arrival.action ∉ done.map (·.action)) :
    ∃ earlier later, waiting places done = earlier ++ place.2 :: later ∧
      waiting places (done ++ [arrival]) = earlier ++ later := by
  obtain ⟨before, behind, rfl⟩ := List.append_of_mem member
  have first := ((List.perm_middle.map fun other : Place => other.1.action.id).nodup_iff).mp differ
  have apart : ∀ other ∈ before ++ behind, other.1.action.id ≠ arrival.action := by
    intro other present equal
    exact (List.nodup_cons.mp first).1 (List.mem_map.mpr ⟨other, present, equal.trans same.symm⟩)
  refine ⟨waiting before done, waiting behind done, ?_, ?_⟩
  · rw [waiting_append, waiting_cons_new _ (by rw [same]; exact new)]
  · rw [waiting_append, waiting_cons_done _ (by simp [same]),
      waiting_others fun other present => apart other (List.mem_append_left _ present),
      waiting_others fun other present => apart other (List.mem_append_right _ present)]

/-- An arrival adds its own branch to the arrived ones. -/
theorem arrived_arrival (differ : (places.map (·.1.action.id)).Nodup) (member : place ∈ places)
    (same : place.1.action.id = arrival.action) :
    arrived places (done ++ [arrival]) = arrived places done ++ [arrival.closing.mark place.2] := by
  have found := find?_of_mem differ member
  rw [same] at found
  simp [arrived, List.filterMap_append, found]

/-- A branch whose action has not been executed is waiting. -/
theorem waiting_ne_nil (member : place ∈ places) (new : place.1.action.id ∉ done.map (·.action)) :
    waiting places done ≠ [] := by
  refine List.ne_nil_of_mem (a := place.2) (List.mem_map.mpr ⟨place, ?_, rfl⟩)
  exact List.mem_filter.mpr ⟨member, by simpa using new⟩

theorem waiting_eq_nil (all : ∀ place ∈ places, place.1.action.id ∈ done.map (·.action)) :
    waiting places done = [] := by
  simpa [waiting] using all

/-! ### Schedules -/

/-- What is needed of arrivals: each branch arrives once. -/
structure Schedule (places : List Place) (arrivals : List Arrival) : Prop where
  differ : (places.map (·.1.action.id)).Nodup
  order : (arrivals.map (·.action)).Perm (places.map (·.1.action.id))

namespace Schedule

variable {arrivals rest : List Arrival} (schedule : Schedule places arrivals)

include schedule

theorem finds (split : arrivals = done ++ arrival :: rest) :
    ∃ place ∈ places, place.1.action.id = arrival.action := by
  have member : arrival.action ∈ arrivals.map (·.action) := List.mem_map_of_mem (by simp [split])
  exact List.mem_map.mp (schedule.order.mem_iff.mp member)

theorem new (split : arrivals = done ++ arrival :: rest) : arrival.action ∉ done.map (·.action) := by
  have once := schedule.order.nodup_iff.mpr schedule.differ
  rw [split, List.map_append, List.map_cons] at once
  intro met
  exact (List.nodup_append.mp once).2.2 _ met _ (List.mem_cons_self ..) rfl

/-- Branches are waiting just as long as there are arrivals to come. -/
theorem waiting_iff (split : arrivals = done ++ rest) : waiting places done = [] ↔ rest = [] := by
  constructor
  · intro none
    cases rest with
    | nil => rfl
    | cons arrival rest =>
      obtain ⟨place, member, same⟩ := schedule.finds split
      exact absurd none (waiting_ne_nil member (by rw [same]; exact schedule.new split))
  · rintro rfl
    rw [List.append_nil] at split
    refine waiting_eq_nil fun place member => ?_
    rw [← split]
    exact schedule.order.mem_iff.mpr (List.mem_map_of_mem member)

/-- However many branches have arrived, each step is either waiting or arrived. -/
theorem shared {α : Type} {key : Step → α}
    (kept : ∀ (closing : Closing) step, key (closing.mark step) = key step)
    (split : arrivals = done ++ rest) :
    ((waiting places done ++ arrived places done).map key).Perm (places.map (key ·.2)) := by
  induction done using List.reverseRecOn generalizing rest with
  | nil => simp [waiting_nil, arrived, Function.comp_def]
  | append_singleton done arrival ih =>
    have earlier : arrivals = done ++ arrival :: rest := by simp [split]
    obtain ⟨place, member, same⟩ := schedule.finds earlier
    obtain ⟨first, second, before, after⟩ :=
      waiting_arrival schedule.differ member same (schedule.new earlier)
    refine .trans ?_ (ih earlier)
    rw [before, after, arrived_arrival schedule.differ member same]
    simp only [List.map_append, List.map_cons, List.map_nil, kept, List.append_assoc,
      List.cons_append]
    refine .append_left _ ?_
    rw [← List.append_assoc]
    exact List.perm_append_singleton _ _

end Schedule

/-- The branches that have arrived and those that have not are underway. -/
theorem Opened.underway {blueprint : Blueprint} {join : NodeId} {entryId : EntryId}
    {branches : List Branch} {arrivals rest : List Arrival} (opened : Opened entryId branches places)
    (feeds : ∀ branch ∈ branches, branch.Feeds blueprint join)
    (schedule : Schedule places arrivals) (split : arrivals = done ++ rest) :
    Underway entryId branches (waiting places done) (arrived places done) := by
  have each {step : Step} (member : step ∈ waiting places done) :
      ∃ branch ∈ branches, branch.OpenedAs entryId step := by
    obtain ⟨place, filtered, rfl⟩ := List.mem_map.mp member
    have present := (List.mem_filter.mp filtered).1
    exact ⟨place.1, by rw [← opened.branches]; exact List.mem_map_of_mem present,
      opened.each place present⟩
  refine ⟨fun step member => ?_, fun step member => ?_, fun step member => ?_, ?_, ?_⟩
  · obtain ⟨_, -, asSuch⟩ := each member
    exact asSuch.entryId
  · obtain ⟨branch, present, asSuch⟩ := each member
    rw [asSuch.status]
    exact (feeds branch present).undone
  · obtain ⟨arrival, -, found⟩ := List.mem_filterMap.mp member
    obtain ⟨place, -, rfl⟩ := Option.map_eq_some_iff.mp found
    rfl
  · exact (schedule.shared (fun _ _ => rfl) split).nodup_iff.mpr opened.ids
  · have definitions : places.map (fun place => place.2.defId) =
        branches.map (·.definition.id) := by
      rw [← opened.branches, List.map_map]
      exact List.map_congr_left fun place member => (opened.each place member).defId
    exact definitions ▸ schedule.shared (fun _ _ => rfl) split

end Place

end Caseflow
