import Caseflow.Engine.Catalog
import Caseflow.Engine.Selection
/-! What the acceptance of a blueprint promises to those who look things up in it. Every target of
every outcome exists, every action has an outcome to fall back on, a split leads to steps only, and
a join has an outcome. A join is promised no more than that: its outcome may lead to a split or to
a join. -/
namespace Caseflow

/-- Where no number is repeated, all differ, also from those seen before. -/
theorem nodup_of_firstRepeated? {seen ids : List Int32}
    (none : firstRepeated? seen ids = .none) :
    (∀ id ∈ ids, id ∉ seen) ∧ ids.Nodup := by
  induction ids generalizing seen with
  | nil => simp
  | cons id rest ih =>
    unfold firstRepeated? at none
    split at none
    · cases none
    · rename_i new
      obtain ⟨apart, distinct⟩ := ih none
      refine ⟨fun other member => ?_, List.nodup_cons.mpr ⟨fun again => ?_, distinct⟩⟩
      · rcases List.mem_cons.mp member with rfl | later
        · exact new
        · exact fun met => apart other later (List.mem_cons_of_mem _ met)
      · exact apart id again (List.mem_cons_self ..)

namespace Blueprint

/-- Whatever an outcome, a split or a join of the blueprint refers to is defined. -/
structure Closed (blueprint : Blueprint) : Prop where
  fallback : ∀ action ∈ blueprint.allActions, action.unconditionalOutcome.isSome
  actions : ∀ action ∈ blueprint.allActions, ∀ outcome ∈ action.outcomes,
    blueprint.targetDefect? outcome.target = none
  splits : ∀ split ∈ blueprint.splits, ∀ outcome ∈ split.outcomes,
    ∃ id, outcome.target = .step id ∧ blueprint.targetDefect? (.step id) = none
  joins : ∀ join ∈ blueprint.joins,
    ∃ outcome, join.outcome = some outcome ∧ blueprint.targetDefect? outcome.target = none

variable {blueprint : Blueprint}

/-- What is accepted has no defect. -/
theorem flawless_of_validate (accepted : blueprint.validate = .ok ()) : blueprint.defect? = none := by
  unfold validate at accepted
  split at accepted
  · assumption
  · cases accepted

/-- The name of an accepted blueprint is not blank. -/
theorem named_of_validate (accepted : blueprint.validate = .ok ()) :
    Text.isAllBlank blueprint.name = false := by
  have flawless := flawless_of_validate accepted
  unfold defect? at flawless
  simp only [Option.or_eq_none_iff] at flawless
  obtain ⟨named, -⟩ := flawless
  simpa [nameDefect?] using named

/-! ### What the parts of the search for defects promise -/

theorem outcomes_of_actionDefect? {action : Action} (sound : blueprint.actionDefect? action = none) :
    action.unconditionalOutcome.isSome ∧
      ∀ outcome ∈ action.outcomes, blueprint.targetDefect? outcome.target = none := by
  unfold actionDefect? at sound
  split at sound
  · cases sound
  · rename_i present
    refine ⟨by simpa [Option.isSome_iff_ne_none] using present, ?_⟩
    simpa only [List.findSome?_eq_none_iff] using sound

theorem outcomes_of_splitDefect? {split : Split} (sound : blueprint.splitDefect? split = none) :
    ∀ outcome ∈ split.outcomes,
      ∃ id, outcome.target = .step id ∧ blueprint.targetDefect? (.step id) = none := by
  unfold splitDefect? at sound
  split at sound
  · cases sound
  · intro outcome member
    have fine := List.findSome?_eq_none_iff.mp sound outcome member
    cases leads : outcome.target with
    | step id => exact ⟨id, rfl, by simpa [leads] using fine⟩
    | split id => simp [leads] at fine
    | join id => simp [leads] at fine

theorem outcome_of_joinDefect? {join : Join} (sound : blueprint.joinDefect? join = none) :
    ∃ outcome, join.outcome = some outcome ∧ blueprint.targetDefect? outcome.target = none := by
  unfold joinDefect? at sound
  split at sound
  · cases sound
  · rename_i outcome leads
    exact ⟨outcome, leads, sound⟩

/-- An accepted blueprint defines whatever it refers to. -/
theorem closed_of_validate (accepted : blueprint.validate = .ok ()) : blueprint.Closed := by
  have flawless := flawless_of_validate accepted
  unfold defect? at flawless
  simp only [Option.or_eq_none_iff, List.findSome?_eq_none_iff] at flawless
  obtain ⟨-, -, -, -, actions, splits, joins⟩ := flawless
  constructor
  · exact fun action member => (outcomes_of_actionDefect? (actions action member)).1
  · exact fun action member => (outcomes_of_actionDefect? (actions action member)).2
  · exact fun split member => outcomes_of_splitDefect? (splits split member)
  · exact fun join member => outcome_of_joinDefect? (joins join member)

/-! ### What is found is covered by it -/

/-- A step that a target names is defined, unless it stands for the step being left. -/
theorem step_of_targetDefect? {id : StepDefId} (sound : blueprint.targetDefect? (.step id) = none) :
    id = Target.sameStep ∨ (blueprint.step? id).isSome := by
  by_cases same : id = Target.sameStep
  · exact .inl same
  · exact .inr (by simpa [targetDefect?, same, Option.isSome_iff_ne_none] using sound)

namespace Closed

variable (closed : blueprint.Closed)

include closed

theorem split? {id : NodeId} (known : blueprint.targetDefect? (.split id) = none) :
    ∃ split, blueprint.split? id = some split ∧ ∀ outcome ∈ split.outcomes,
      ∃ id, outcome.target = .step id ∧ blueprint.targetDefect? (.step id) = none := by
  have present : (blueprint.split? id).isSome := by
    simpa [targetDefect?, Option.isSome_iff_ne_none] using known
  obtain ⟨split, found⟩ := Option.isSome_iff_exists.mp present
  exact ⟨split, found, closed.splits split (List.mem_of_find?_eq_some found)⟩

theorem join? {id : NodeId} (known : blueprint.targetDefect? (.join id) = none) :
    ∃ join outcome, blueprint.join? id = some join ∧ join.outcome = some outcome ∧
      blueprint.targetDefect? outcome.target = none := by
  have present : (blueprint.join? id).isSome := by
    simpa [targetDefect?, Option.isSome_iff_ne_none] using known
  obtain ⟨join, found⟩ := Option.isSome_iff_exists.mp present
  obtain ⟨outcome, leads, sound⟩ := closed.joins join (List.mem_of_find?_eq_some found)
  exact ⟨join, outcome, found, leads, sound⟩

end Closed

theorem mem_allActions_of_initial {id : ActionId} {action : Action}
    (found : blueprint.initialAction? id = some action) : action ∈ blueprint.allActions := by
  have member := List.mem_of_find?_eq_some found
  simp [allActions, member]

theorem mem_allActions_of_global {declared : ScopedAction}
    (member : declared ∈ blueprint.scopedGlobalActions) :
    declared.action ∈ blueprint.allActions := by
  obtain ⟨action, isGlobal, rfl⟩ := List.mem_map.mp member
  simp [allActions, isGlobal]

/-- What a step offers, its own actions and the common ones it refers to, is declared somewhere. -/
theorem mem_allActions_of_offer {stepId : StepDefId} {offer : ScopedAction}
    (member : offer ∈ blueprint.actionsForStep stepId) : offer.action ∈ blueprint.allActions := by
  unfold actionsForStep at member
  split at member
  · cases member
  · rename_i step found
    rcases List.mem_append.mp member with own | common
    · obtain ⟨action, declared, rfl⟩ := List.mem_map.mp own
      have isStep := List.mem_of_find?_eq_some found
      have among : action ∈ blueprint.steps.flatMap (·.actions) :=
        List.mem_flatMap.mpr ⟨step, isStep, declared⟩
      exact List.mem_append_right _ among
    · obtain ⟨number, -, reference⟩ := List.mem_filterMap.mp common
      obtain ⟨action, declared, rfl⟩ := Option.map_eq_some_iff.mp reference
      have among : action ∈ blueprint.commonActions.values :=
        List.mem_map.mpr ⟨(number, action), mem_of_findPair? declared, rfl⟩
      simp [allActions, among]

/-- Whatever the engine may select is declared somewhere in the blueprint. -/
theorem mem_allActions_of_candidate {steps : List Step} {candidate : ScopedAction × StepDefId}
    (member : candidate ∈ Toolkit.candidates blueprint steps) :
    candidate.1.action ∈ blueprint.allActions := by
  rcases List.mem_append.mp member with isGlobal | offered
  · obtain ⟨declared, among, rfl⟩ := List.mem_map.mp isGlobal
    exact mem_allActions_of_global among
  · obtain ⟨step, -, offers⟩ := List.mem_flatMap.mp offered
    obtain ⟨offer, among, rfl⟩ := List.mem_map.mp offers
    exact mem_allActions_of_offer among

end Blueprint

end Caseflow
