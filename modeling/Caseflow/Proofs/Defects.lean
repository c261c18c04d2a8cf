import Caseflow.Proofs.Acceptance
import Caseflow.Proofs.Maps
/-! What is accepted and what is found wrong. A blueprint is accepted exactly if it is well-formed,
and the defect that is named otherwise is there. Well-formedness is said of the parts of a
blueprint, without the order in which they are looked through, and each of its clauses has the
defects that break it. -/
namespace Caseflow

/-- A repeated number stands among those seen before, or twice in the list. -/
theorem two_le_count_of_firstRepeated? {seen ids : List Int32} {id : Int32}
    (found : firstRepeated? seen ids = some id) : id ∈ ids ∧ (id ∈ seen ∨ 2 ≤ ids.count id) := by
  induction ids generalizing seen with
  | nil => cases found
  | cons head rest ih =>
    unfold firstRepeated? at found
    split at found
    · rename_i met
      cases found
      exact ⟨List.mem_cons_self .., .inl met⟩
    · obtain ⟨later, repeats⟩ := ih found
      refine ⟨List.mem_cons_of_mem _ later, ?_⟩
      by_cases same : id = head
      · have once := List.count_pos_iff.mpr later
        rw [same, List.count_cons_self]
        rw [same] at once
        exact .inr (by omega)
      · rw [List.count_cons_of_ne (Ne.symm same)]
        exact repeats.imp_left fun met => (List.mem_cons.mp met).resolve_left same

namespace Action

/-- The outcome is one of those that the action can take. -/
def MayTake (action : Action) (outcome : Outcome) : Prop :=
  (∃ conditional ∈ action.conditionalOutcomes, conditional.outcome = outcome) ∨
    action.unconditionalOutcome = some outcome

theorem mem_outcomes_iff {action : Action} {outcome : Outcome} :
    outcome ∈ action.outcomes ↔ action.MayTake outcome := by
  simp [outcomes, MayTake]

end Action

namespace Blueprint

variable {blueprint : Blueprint}

/-! ### Well-formed blueprints -/

/-- The action is an initial, a global or a common one, or a step's own. -/
def Declares (blueprint : Blueprint) (action : Action) : Prop :=
  action ∈ blueprint.initialActions ∨ action ∈ blueprint.globalActions ∨
    (∃ id, blueprint.commonActions.get? id = some action) ∨
      ∃ step ∈ blueprint.steps, action ∈ step.actions

/-- The target is there. The step being left always is. -/
def Leads (blueprint : Blueprint) : Target → Prop
  | .step id => id = Target.sameStep ∨ ∃ step ∈ blueprint.steps, step.id = id
  | .split id => ∃ split ∈ blueprint.splits, split.id = id
  | .join id => ∃ join ∈ blueprint.joins, join.id = id

/-- The numbers that must differ: those of the initial actions, of the global ones and of the
steps' own ones, all together. -/
def numbers (blueprint : Blueprint) : List ActionId :=
  (blueprint.initialActions ++ blueprint.globalActions ++
    blueprint.steps.flatMap (·.actions)).map (·.id)

/-- A blueprint without defects. -/
structure WellFormed (blueprint : Blueprint) : Prop where
  named : ∃ c ∈ blueprint.name.toList, Text.isBlank c = false
  begins : blueprint.initialActions ≠ []
  steps : (blueprint.steps.map (·.id)).Nodup
  splits : (blueprint.splits.map (·.id)).Nodup
  joins : (blueprint.joins.map (·.id)).Nodup
  actions : blueprint.numbers.Nodup
  references : ∀ step ∈ blueprint.steps, ∀ id ∈ step.commonActions,
    ∃ action, blueprint.commonActions.get? id = some action
  falls : ∀ action, blueprint.Declares action → action.unconditionalOutcome ≠ none
  leads : ∀ action, blueprint.Declares action → ∀ outcome, action.MayTake outcome →
    blueprint.Leads outcome.target
  divides : ∀ split ∈ blueprint.splits, split.outcomes ≠ [] ∧
    ∀ outcome ∈ split.outcomes, ∃ id, outcome.target = .step id ∧ blueprint.Leads (.step id)
  gathers : ∀ join ∈ blueprint.joins, ∃ outcome,
    join.outcome = some outcome ∧ blueprint.Leads outcome.target

/-- Some outcome leads to the target: one that an action can take, one of a split, which is to lead
to a step, or that of a join. -/
inductive Seeks (blueprint : Blueprint) : Target → Prop where
  | action {action : Action} {outcome : Outcome} (declared : blueprint.Declares action)
      (taken : action.MayTake outcome) : Seeks blueprint outcome.target
  | split {split : Split} {outcome : Outcome} {id : StepDefId} (known : split ∈ blueprint.splits)
      (taken : outcome ∈ split.outcomes) (leads : outcome.target = .step id) :
      Seeks blueprint (.step id)
  | join {join : Join} {outcome : Outcome} (known : join ∈ blueprint.joins)
      (taken : join.outcome = some outcome) : Seeks blueprint outcome.target

end Blueprint

/-- What a defect says of a blueprint. -/
def Defect.Afflicts (blueprint : Blueprint) : Defect → Prop
  | .missingName => ∀ c ∈ blueprint.name.toList, Text.isBlank c = true
  | .noInitialAction workflow => workflow = blueprint.name ∧ blueprint.initialActions = []
  | .duplicateStep id => 2 ≤ (blueprint.steps.map (·.id)).count id
  | .duplicateSplit id => 2 ≤ (blueprint.splits.map (·.id)).count id
  | .duplicateJoin id => 2 ≤ (blueprint.joins.map (·.id)).count id
  | .duplicateAction id => 2 ≤ blueprint.numbers.count id
  | .commonActionNotFound id =>
    (∃ step ∈ blueprint.steps, id ∈ step.commonActions) ∧ blueprint.commonActions.get? id = none
  | .missingUnconditionalOutcome id =>
    ∃ action, blueprint.Declares action ∧ action.id = id ∧ action.unconditionalOutcome = none
  | .stepNotFound id => blueprint.Seeks (.step id) ∧ ¬ blueprint.Leads (.step id)
  | .splitNotFound id => blueprint.Seeks (.split id) ∧ ¬ blueprint.Leads (.split id)
  | .joinNotFound id => blueprint.Seeks (.join id) ∧ ¬ blueprint.Leads (.join id)
  | .emptySplit id => ∃ split ∈ blueprint.splits, split.id = id ∧ split.outcomes = []
  | .splitOutcomeNotStep id target =>
    (∃ split ∈ blueprint.splits, split.id = id ∧ ∃ outcome ∈ split.outcomes,
      outcome.target = target) ∧ ∀ step, target ≠ .step step
  | .missingJoinOutcome id => ∃ join ∈ blueprint.joins, join.id = id ∧ join.outcome = none

namespace Blueprint

variable {blueprint : Blueprint} {defect : Defect}

/-! ### The parts that are looked through -/

theorem mem_allActions_iff {action : Action} :
    action ∈ blueprint.allActions ↔ blueprint.Declares action := by
  simp only [allActions, Declares, List.mem_append, List.mem_flatMap, SortedMap.mem_values_iff,
    or_assoc]

theorem targetDefect?_eq_none_iff {target : Target} :
    blueprint.targetDefect? target = none ↔ blueprint.Leads target := by
  cases target with
  | step id => simp [targetDefect?, Leads, step?, or_iff_not_imp_left]
  | split id => simp [targetDefect?, Leads, split?]
  | join id => simp [targetDefect?, Leads, join?]

/-- Where a target is sought that is not there, this is a defect. -/
theorem afflicts_of_targetDefect? {target : Target} (sought : blueprint.Seeks target)
    (found : blueprint.targetDefect? target = some defect) : defect.Afflicts blueprint := by
  have missing : ¬ blueprint.Leads target := by
    rw [← targetDefect?_eq_none_iff, found]
    exact Option.some_ne_none _
  cases target with
  | step id | split id | join id =>
    obtain ⟨-, same⟩ := Option.ite_none_left_eq_some.mp found
    cases same
    exact ⟨sought, missing⟩

theorem afflicts_of_nameDefect? (found : blueprint.nameDefect? = some defect) :
    defect.Afflicts blueprint := by
  obtain ⟨blank, same⟩ := Option.ite_none_right_eq_some.mp found
  cases same
  exact List.all_eq_true.mp blank

theorem afflicts_of_initialDefect? (found : blueprint.initialDefect? = some defect) :
    defect.Afflicts blueprint := by
  obtain ⟨none, same⟩ := Option.ite_none_right_eq_some.mp found
  cases same
  exact ⟨rfl, List.isEmpty_iff.mp none⟩

theorem afflicts_of_duplicateDefect? (found : blueprint.duplicateDefect? = some defect) :
    defect.Afflicts blueprint := by
  have twice {ids : List Int32} {id : Int32} (found : firstRepeated? [] ids = some id) :
      2 ≤ ids.count id :=
    (two_le_count_of_firstRepeated? found).2.resolve_left List.not_mem_nil
  simp only [duplicateDefect?, Option.or_eq_some_iff, Option.map_eq_some_iff] at found
  obtain ⟨id, found, rfl⟩ | ⟨-, ⟨id, found, rfl⟩ |
    ⟨-, ⟨id, found, rfl⟩ | ⟨-, id, found, rfl⟩⟩⟩ := found
  · exact twice found
  · exact twice found
  · exact twice found
  · exact twice found

theorem afflicts_of_referenceDefect? (found : blueprint.referenceDefect? = some defect) :
    defect.Afflicts blueprint := by
  obtain ⟨id, member, found⟩ := List.exists_of_findSome?_eq_some found
  obtain ⟨unknown, same⟩ := Option.ite_none_left_eq_some.mp found
  cases same
  refine ⟨List.mem_flatMap.mp member, ?_⟩
  simpa [SortedMap.contains] using unknown

theorem afflicts_of_actionDefect? {action : Action} (declared : blueprint.Declares action)
    (found : blueprint.actionDefect? action = some defect) : defect.Afflicts blueprint := by
  unfold actionDefect? at found
  split at found
  · rename_i none
    cases found
    exact ⟨action, declared, rfl, Option.isNone_iff_eq_none.mp none⟩
  · obtain ⟨outcome, member, found⟩ := List.exists_of_findSome?_eq_some found
    exact afflicts_of_targetDefect? (.action declared (Action.mem_outcomes_iff.mp member)) found

theorem afflicts_of_splitDefect? {split : Split} (known : split ∈ blueprint.splits)
    (found : blueprint.splitDefect? split = some defect) : defect.Afflicts blueprint := by
  unfold splitDefect? at found
  split at found
  · rename_i empty
    cases found
    exact ⟨split, known, rfl, List.isEmpty_iff.mp empty⟩
  · obtain ⟨outcome, member, found⟩ := List.exists_of_findSome?_eq_some found
    split at found
    · rename_i id leads
      exact afflicts_of_targetDefect? (.split known member leads) found
    · rename_i other
      cases found
      exact ⟨⟨split, known, rfl, outcome, member, rfl⟩, other⟩

theorem afflicts_of_joinDefect? {join : Join} (known : join ∈ blueprint.joins)
    (found : blueprint.joinDefect? join = some defect) : defect.Afflicts blueprint := by
  unfold joinDefect? at found
  split at found
  · rename_i none
    cases found
    exact ⟨join, known, rfl, none⟩
  · rename_i outcome taken
    exact afflicts_of_targetDefect? (.join known taken) found

/-- A defect that is found is there. -/
theorem afflicts_of_defect? (found : blueprint.defect? = some defect) :
    defect.Afflicts blueprint := by
  simp only [defect?, Option.or_eq_some_iff] at found
  obtain found | ⟨-, found | ⟨-, found | ⟨-, found |
    ⟨-, found | ⟨-, found | ⟨-, found⟩⟩⟩⟩⟩⟩ := found
  · exact afflicts_of_nameDefect? found
  · exact afflicts_of_initialDefect? found
  · exact afflicts_of_duplicateDefect? found
  · exact afflicts_of_referenceDefect? found
  · obtain ⟨action, member, found⟩ := List.exists_of_findSome?_eq_some found
    exact afflicts_of_actionDefect? (mem_allActions_iff.mp member) found
  · obtain ⟨split, member, found⟩ := List.exists_of_findSome?_eq_some found
    exact afflicts_of_splitDefect? member found
  · obtain ⟨join, member, found⟩ := List.exists_of_findSome?_eq_some found
    exact afflicts_of_joinDefect? member found

/-! ### Acceptance -/

theorem validate_eq_error_iff : blueprint.validate = .error defect ↔ blueprint.defect? = some defect := by
  unfold validate
  split <;> simp [*]

theorem filled_of_splitDefect? {split : Split} (sound : blueprint.splitDefect? split = none) :
    split.outcomes ≠ [] := by
  unfold splitDefect? at sound
  split at sound
  · cases sound
  · rename_i filled
    simpa using filled

/-- What is accepted is well-formed. -/
theorem wellFormed_of_validate (accepted : blueprint.validate = .ok ()) : blueprint.WellFormed := by
  have closed := closed_of_validate accepted
  have flawless := flawless_of_validate accepted
  simp only [defect?, duplicateDefect?, Option.or_eq_none_iff, Option.map_eq_none_iff,
    List.findSome?_eq_none_iff] at flawless
  obtain ⟨named, begins, ⟨steps, splits, joins, actions⟩, references, -, divides, -⟩ := flawless
  constructor
  · simpa [nameDefect?, Text.isAllBlank] using named
  · simpa [initialDefect?] using begins
  · exact (nodup_of_firstRepeated? steps).2
  · exact (nodup_of_firstRepeated? splits).2
  · exact (nodup_of_firstRepeated? joins).2
  · exact (nodup_of_firstRepeated? actions).2
  · intro step member id refers
    have fine := List.findSome?_eq_none_iff.mp references id
      (List.mem_flatMap.mpr ⟨step, member, refers⟩)
    split at fine
    · rename_i known
      exact Option.isSome_iff_exists.mp known
    · cases fine
  · intro action declared
    exact Option.isSome_iff_ne_none.mp (closed.fallback action (mem_allActions_iff.mpr declared))
  · intro action declared outcome taken
    exact targetDefect?_eq_none_iff.mp
      (closed.actions action (mem_allActions_iff.mpr declared) outcome (Action.mem_outcomes_iff.mpr taken))
  · intro split member
    refine ⟨filled_of_splitDefect? (divides split member), fun outcome taken => ?_⟩
    obtain ⟨id, leads, known⟩ := closed.splits split member outcome taken
    exact ⟨id, leads, targetDefect?_eq_none_iff.mp known⟩
  · intro join member
    obtain ⟨outcome, taken, known⟩ := closed.joins join member
    exact ⟨outcome, taken, targetDefect?_eq_none_iff.mp known⟩

namespace WellFormed

variable (wellFormed : blueprint.WellFormed)

include wellFormed

/-- In a well-formed blueprint whatever is sought is there. -/
theorem leads_of_seeks {target : Target} (sought : blueprint.Seeks target) :
    blueprint.Leads target := by
  cases sought with
  | action declared taken => exact wellFormed.leads _ declared _ taken
  | split known taken leads =>
    obtain ⟨id, same, there⟩ := (wellFormed.divides _ known).2 _ taken
    cases leads.symm.trans same
    exact there
  | join known taken =>
    obtain ⟨outcome, same, there⟩ := wellFormed.gathers _ known
    cases taken.symm.trans same
    exact there

/-- A well-formed blueprint has no defect. -/
theorem not_afflicted (defect : Defect) : ¬ defect.Afflicts blueprint := by
  have once {ids : List Int32} {id : Int32} (differ : ids.Nodup) : ¬ 2 ≤ ids.count id :=
    Nat.not_le.mpr (Nat.lt_succ_of_le (List.nodup_iff_count_le_one.mp differ id))
  intro afflicted
  cases defect with
  | missingName =>
    obtain ⟨c, member, visible⟩ := wellFormed.named
    rw [afflicted c member] at visible
    cases visible
  | noInitialAction workflow => exact wellFormed.begins afflicted.2
  | duplicateStep id => exact once wellFormed.steps afflicted
  | duplicateSplit id => exact once wellFormed.splits afflicted
  | duplicateJoin id => exact once wellFormed.joins afflicted
  | duplicateAction id => exact once wellFormed.actions afflicted
  | commonActionNotFound id =>
    obtain ⟨⟨step, member, refers⟩, unknown⟩ := afflicted
    obtain ⟨action, known⟩ := wellFormed.references step member id refers
    rw [unknown] at known
    cases known
  | missingUnconditionalOutcome id =>
    obtain ⟨action, declared, -, none⟩ := afflicted
    exact wellFormed.falls action declared none
  | stepNotFound id => exact afflicted.2 (wellFormed.leads_of_seeks afflicted.1)
  | splitNotFound id => exact afflicted.2 (wellFormed.leads_of_seeks afflicted.1)
  | joinNotFound id => exact afflicted.2 (wellFormed.leads_of_seeks afflicted.1)
  | emptySplit id =>
    obtain ⟨split, member, -, empty⟩ := afflicted
    exact (wellFormed.divides split member).1 empty
  | splitOutcomeNotStep id target =>
    obtain ⟨⟨split, member, -, outcome, taken, leads⟩, other⟩ := afflicted
    obtain ⟨step, same, -⟩ := (wellFormed.divides split member).2 outcome taken
    exact other step (leads.symm.trans same)
  | missingJoinOutcome id =>
    obtain ⟨join, member, -, none⟩ := afflicted
    obtain ⟨outcome, taken, -⟩ := wellFormed.gathers join member
    rw [none] at taken
    cases taken

end WellFormed

/-- A blueprint is accepted exactly if it is well-formed. Otherwise the defect that is named is
there, with the numbers that it names, and what a defect says of a blueprint is never true of a
well-formed one. -/
theorem accepts_well_formed (blueprint : Blueprint) :
    (blueprint.validate = .ok () ↔ blueprint.WellFormed) ∧
      (∀ defect, blueprint.validate = .error defect → defect.Afflicts blueprint) ∧
      (blueprint.WellFormed ↔ ∀ defect : Defect, ¬ defect.Afflicts blueprint) := by
  have named (defect : Defect) (refused : blueprint.validate = .error defect) :
      defect.Afflicts blueprint :=
    afflicts_of_defect? (validate_eq_error_iff.mp refused)
  have accepted (sound : ∀ defect : Defect, ¬ defect.Afflicts blueprint) :
      blueprint.validate = .ok () := by
    cases judged : blueprint.validate with
    | ok _ => rfl
    | error defect => exact absurd (named defect judged) (sound defect)
  refine ⟨⟨wellFormed_of_validate, fun wellFormed => accepted wellFormed.not_afflicted⟩, named, ?_⟩
  exact ⟨WellFormed.not_afflicted, fun sound => wellFormed_of_validate (accepted sound)⟩

end Blueprint

end Caseflow
