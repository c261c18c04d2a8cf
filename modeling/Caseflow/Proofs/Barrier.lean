import Caseflow.Proofs.Numerals
import Caseflow.Proofs.Pictures
import Caseflow.Proofs.Searches
/-! A barrier in a blueprint. The initial action enters several branches at once; the one action of
each branch leads to the same join; and the join asks of every branch whether it is done. The
conditions of the join pass only once no branch is left that is still current. -/
namespace Caseflow

open Run

/-- The outcome has no hooks. -/
structure Outcome.Bare (outcome : Outcome) : Prop where
  validators : outcome.validators = []
  preFunctions : outcome.preFunctions = []
  postFunctions : outcome.postFunctions = []

/-- The action is not restricted, has no hooks, does not finish the entry and has this outcome
only. -/
structure Action.Plain (action : Action) (outcome : Outcome) : Prop where
  unrestricted : ∀ tree, action.restriction = some tree → tree.children = []
  continues : action.finish = false
  validators : action.validators = []
  preFunctions : action.preFunctions = []
  postFunctions : action.postFunctions = []
  unconditional : action.conditionalOutcomes = []
  leads : action.unconditionalOutcome = some outcome
  bare : outcome.Bare

/-- A branch: how it is entered, its step, and the action that leaves it. -/
structure Branch where
  entering : Outcome
  definition : StepDef
  action : Action
  leaving : Outcome

namespace Branch

/-- The status of a branch that has arrived. -/
def done : String := "Done"

/-- The branch is entered with a literal status other than the one it arrives with, and its only
action leads to the join. -/
structure Feeds (blueprint : Blueprint) (join : NodeId) (branch : Branch) : Prop where
  target : branch.entering.target = .step branch.definition.id
  enteringBare : branch.entering.Bare
  literal : Template.hasOpening branch.entering.status.toList = false
  undone : branch.entering.status ≠ done
  definition : blueprint.step? branch.definition.id = some branch.definition
  ordinary : branch.definition.id ≠ 0 ∧ branch.definition.id ≠ Target.sameStep
  preFunctions : branch.definition.preFunctions = []
  postFunctions : branch.definition.postFunctions = []
  offers : branch.definition.actions = [branch.action]
  manual : branch.action.autoExecute = false
  plain : branch.action.Plain branch.leaving
  arrives : branch.leaving.target = .join join
  arrivesDone : branch.leaving.oldStatus = done

end Branch

/-- The condition asks whether the branch of the step has arrived done. -/
def Condition.AsksFor (id : StepDefId) (condition : Condition) : Prop :=
  ∃ call : Call, condition = .leaf { call } ∧ call.type = "join-status" ∧
    call.args.get? "stepId" = some (Text.integerText id.toInt) ∧
    call.args.get? "status" = some Branch.done

/-- The conditions ask just for the given steps, and all of them must have arrived. -/
structure Conditions.AskForAll (ids : List StepDefId) (conditions : Conditions) : Prop where
  all : conditions.combinator = .and
  only : ∀ child ∈ conditions.children, ∃ id ∈ ids, child.AsksFor id
  each : ∀ id ∈ ids, ∃ child ∈ conditions.children, child.AsksFor id

/-- Nothing is declared for the workflow as a whole. -/
structure Blueprint.Local (blueprint : Blueprint) : Prop where
  noGlobalActions : blueprint.globalActions = []
  noCommonActions : blueprint.commonActions = ∅
  noGlobalConditions : blueprint.globalConditions = none
  noRegisters : blueprint.registers = []

/-- The workflow consists of a barrier and what comes after it. -/
structure Blueprint.Barrier (blueprint : Blueprint) (entrance : Action) (branches : List Branch)
    (join : Join) (further : StepDef) : Prop extends blueprint.Local where
  initial : blueprint.initialAction? entrance.id = some entrance
  splits : ∃ outcome split, entrance.Plain outcome ∧ outcome.target = .split split.id ∧
    blueprint.split? split.id = some split ∧ split.outcomes = branches.map (·.entering)
  branching : branches ≠ []
  distinct : (branches.map (·.definition.id)).Nodup
  feeds : ∀ branch ∈ branches, branch.Feeds blueprint join.id
  joins : blueprint.join? join.id = some join
  asks : join.conditions.AskForAll (branches.map (·.definition.id))
  leads : ∃ outcome, join.outcome = some outcome ∧ outcome.Bare ∧ outcome.target = .step further.id
  beyond : further.id ∉ branches.map (·.definition.id) ∧ further.id ≠ Target.sameStep
  definition : blueprint.step? further.id = some further
  preFunctions : further.preFunctions = []
  goesOn : further.actions ≠ []
  manual : ∀ action ∈ further.actions, action.autoExecute = false

/-! ### What the steps of a barrier offer -/

namespace Blueprint

variable {blueprint : Blueprint}

/-- Where there are no common actions, a step offers its own ones. -/
theorem actionsForStep_own (noCommonActions : blueprint.commonActions = ∅) {definition : StepDef}
    (known : blueprint.step? definition.id = some definition) :
    blueprint.actionsForStep definition.id =
      definition.actions.map (⟨.step definition.id, ·⟩) := by
  have nothing (ids : List ActionId) :
      (ids.filterMap fun id => (blueprint.commonAction? id).map (⟨.common, ·⟩ : Action → ScopedAction))
        = [] :=
    List.filterMap_eq_nil_iff.mpr fun id _ => by simp [commonAction?, noCommonActions]
  rw [actionsForStep, known]
  simp only [nothing, List.append_nil]

end Blueprint

namespace Branch

variable {blueprint : Blueprint} {join : NodeId} {branch : Branch}

/-- The action of a branch, as its step offers it. -/
def offer (branch : Branch) : ScopedAction :=
  ⟨.step branch.definition.id, branch.action⟩

theorem Feeds.actionsForStep (feeds : branch.Feeds blueprint join)
    (noCommonActions : blueprint.commonActions = ∅) :
    blueprint.actionsForStep branch.definition.id = [branch.offer] := by
  rw [Blueprint.actionsForStep_own noCommonActions feeds.definition, feeds.offers]
  rfl

theorem Feeds.actionForStep? (feeds : branch.Feeds blueprint join)
    (noCommonActions : blueprint.commonActions = ∅) :
    blueprint.actionForStep? branch.definition.id branch.offer.id = some branch.offer := by
  rw [Blueprint.actionForStep?, feeds.actionsForStep noCommonActions]
  simp

/-- Leaving the step of a branch calls nothing. -/
theorem Feeds.leaveStep (feeds : branch.Feeds blueprint join) (kit : Toolkit) {step : Step}
    (own : step.defId = branch.definition.id) : kit.leaveStep blueprint (some step) = Run.done () := by
  unfold Toolkit.leaveStep
  dsimp only
  rw [own, feeds.definition]
  show kit.runFunctions branch.definition.postFunctions = _
  rw [feeds.postFunctions]
  rfl

theorem Feeds.resultsInJoin (feeds : branch.Feeds blueprint join)
    (noCommonActions : blueprint.commonActions = ∅) :
    blueprint.resultsInJoin branch.definition.id join = true := by
  simp [Blueprint.resultsInJoin, feeds.actionsForStep noCommonActions, offer, Action.outcomes,
    feeds.plain.unconditional, feeds.plain.leads, feeds.arrives]

end Branch

/-! ### Conditions that answer -/

namespace Toolkit

/-- The toolkit decides on branches with the built-in guard and leaves texts without references as
they are. -/
structure Literal (kit : Toolkit) : Prop where
  branches : ∀ args, kit.extensions.guard "join-status" args = .ok Builtin.joinStatus
  texts : ∀ scope properties text, Template.hasOpening text.toList = false →
    kit.resolver.text scope properties text = text

/-- The built-in extensions and the interpolation of templates are literal in this sense. -/
theorem literal_builtin {kit : Toolkit} (builtin : kit.extensions = Builtin.extensions)
    (resolves : kit.resolver = Interpolation.resolve) : kit.Literal where
  branches args := by
    rw [builtin]
    rfl
  texts scope properties text plain := by
    rw [resolves, Resolver.text, Interpolation.resolve, plain]
    rfl

variable {kit : Toolkit} {scope : Scope} {properties : Values}

/-- A restriction without children passes. -/
theorem treePasses_blank {tree : Option Conditions} {stepId : StepDefId}
    (blank : ∀ conditions, tree = some conditions → conditions.children = []) :
    Answers true (kit.treePasses scope properties stepId tree) := by
  cases tree with
  | none => exact answers_done true
  | some conditions =>
    show Answers true (kit.conditionPasses scope properties stepId
      (.group conditions.combinator conditions.children))
    rw [blank conditions rfl, conditionPasses]
    exact answers_done true

/-- Where one of the children does not pass, all of them together do not. -/
theorem childrenPass_refused {children : List Condition} {stepId : StepDefId}
    (answer : ∀ child ∈ children, ∃ passed,
      Answers passed (kit.conditionPasses scope properties stepId child))
    (refused : ∃ child ∈ children,
      Answers false (kit.conditionPasses scope properties stepId child)) :
    Answers false (kit.childrenPass scope properties stepId .and children) := by
  induction children with
  | nil => simp at refused
  | cons child rest ih =>
    rw [childrenPass]
    obtain ⟨passed, answers⟩ := answer child (by simp)
    cases passed with
    | false => exact answers_andThen answers (answers_done false)
    | true =>
      refine answers_andThen answers (ih (fun other member => answer other (by simp [member])) ?_)
      obtain ⟨other, member, refuses⟩ := refused
      rcases List.mem_cons.mp member with rfl | later
      · cases answers_unique answers refuses
      · exact ⟨other, later, refuses⟩

/-- Where all children pass, they pass together. -/
theorem childrenPass_passed {children : List Condition} {stepId : StepDefId}
    (pass : ∀ child ∈ children,
      Answers true (kit.conditionPasses scope properties stepId child)) :
    Answers true (kit.childrenPass scope properties stepId .and children) := by
  induction children with
  | nil =>
    rw [childrenPass]
    exact answers_done true
  | cons child rest ih =>
    rw [childrenPass]
    exact answers_andThen (pass child (by simp)) (ih fun other member => pass other (by simp [member]))

private theorem requiredArg_of_get? {type name value : String} {args : Args}
    (held : args.get? name = some value) (full : value.isEmpty = false) :
    Builtin.requiredArg type name args = .ok value := by
  rw [Builtin.requiredArg, held]
  simp [full]

private theorem stepIdArg_of_get? {type : String} {args : Args} {id : StepDefId}
    (held : args.get? "stepId" = some (Text.integerText id.toInt)) :
    Builtin.stepIdArg type args = .ok id := by
  unfold Builtin.stepIdArg
  simp [held, Text.trim_integerText, Text.isEmpty_integerText, Text.int32?_integerText]

/-- A step number other than the one that stands for the step at hand is passed on as it is. -/
theorem withStepId_ordinary {args : Args} {id stepId : StepDefId}
    (held : args.get? "stepId" = some (Text.integerText id.toInt)) (ordinary : id ≠ -1) :
    withStepId stepId args = args := by
  have apart : Text.trim (Text.integerText id.toInt) ≠ "-1" := by
    rw [Text.trim_integerText]
    intro same
    have read := Text.int32?_integerText id
    rw [same] at read
    have minusOne : Text.int32? "-1" = some (-1) := by decide
    exact ordinary (Option.some.inj (read.symm.trans minusOne))
  unfold withStepId
  rw [stepIdName, held]
  exact if_neg fun both => apart both.2

/-- The guard on branches answers whether the branch of the step has arrived done. -/
theorem asked_answers (literal : kit.Literal) (properties : Values) {branches : Branches} {id : StepDefId}
    {condition : Condition} (asks : condition.AsksFor id)
    (ordinary : id ≠ 0 ∧ id ≠ Target.sameStep) (shown : scope.branches = some branches) :
    Answers ((branches.step? id).any (·.status = Branch.done))
      (kit.conditionPasses scope properties 0 condition) := by
  obtain ⟨call, rfl, isJoinStatus, stepId, status⟩ := asks
  have literally {name text : String} (held : call.args.get? name = some text)
      (plain : Template.hasOpening text.toList = false) :
      (kit.resolver.args scope properties call.args).get? name = some text := by
    rw [Resolver.args, SortedMap.get?_mapValues, held, Option.map_some, literal.texts _ _ _ plain]
  have stepIdHeld := literally stepId (Template.hasOpening_integerText _)
  have statusHeld := literally status (by decide)
  have args : kit.guardArgs scope properties 0 call.args =
      kit.resolver.args scope properties call.args :=
    withStepId_ordinary stepIdHeld ordinary.2
  have guards : Builtin.joinStatus scope (kit.resolver.args scope properties call.args) properties =
      .ok ((branches.step? id).any (·.status = Branch.done)) := by
    unfold Builtin.joinStatus
    rw [requiredArg_of_get? statusHeld (by decide), stepIdArg_of_get? stepIdHeld, shown]
    show (if id = 0 then _ else pure _ : Except Failure Bool) = _
    rw [if_neg ordinary.1]
    rfl
  refine ⟨[.extensionCalled .condition call.type
    (kit.guardArgs scope properties 0 call.args) scope.view], by simp [Event.isCall], fun world => ?_⟩
  rw [conditionPasses]
  unfold checkPasses callGuard
  rw [args, isJoinStatus, literal.branches]
  simp only [bind_eq, andThen, Run.ofExcept, World.record, change, guards]
  simp [done]

/-- The conditions of the join pass where every branch has arrived and is done. -/
theorem join_passes (literal : kit.Literal) {branches : Branches} {ids : List StepDefId}
    {conditions : Conditions} (asks : conditions.AskForAll ids)
    (ordinary : ∀ id ∈ ids, id ≠ 0 ∧ id ≠ Target.sameStep)
    (shown : scope.branches = some branches)
    (arrived : ∀ id ∈ ids, ∃ branch ∈ branches, branch.defId = id)
    (allDone : ∀ branch ∈ branches, branch.status = Branch.done) :
    Answers true (kit.treePasses scope properties 0 (some conditions)) := by
  have passes : ∀ child ∈ conditions.children,
      Answers true (kit.conditionPasses scope properties 0 child) := by
    intro child member
    obtain ⟨id, asked, asksFor⟩ := asks.only child member
    have answers := asked_answers literal properties asksFor (ordinary id asked) shown
    obtain ⟨branch, present, isBranch⟩ := arrived id asked
    have found : (branches.step? id).isSome :=
      List.find?_isSome.mpr ⟨branch, present, by simpa using isBranch⟩
    obtain ⟨first, isFirst⟩ := Option.isSome_iff_exists.mp found
    rw [isFirst, Option.any_some, allDone first (List.mem_of_find?_eq_some isFirst)] at answers
    simpa using answers
  show Answers _ (kit.conditionPasses scope properties 0 conditions.nested)
  rw [Conditions.nested, asks.all]
  cases children : conditions.children with
  | nil =>
    simp only [conditionPasses]
    exact answers_done true
  | cons first rest =>
    simp only [conditionPasses]
    exact childrenPass_passed (children ▸ passes)

/-- They do not pass where the first branch of some step is not done. -/
theorem join_refuses (literal : kit.Literal) {branches : Branches} {ids : List StepDefId}
    {conditions : Conditions} (asks : conditions.AskForAll ids)
    (ordinary : ∀ id ∈ ids, id ≠ 0 ∧ id ≠ Target.sameStep)
    (shown : scope.branches = some branches) {id : StepDefId} (asked : id ∈ ids) {waiting : Step}
    (found : branches.step? id = some waiting) (undone : waiting.status ≠ Branch.done) :
    Answers false (kit.treePasses scope properties 0 (some conditions)) := by
  have answers {id : StepDefId} (asked : id ∈ ids) {child : Condition} (asksFor : child.AsksFor id) :=
    asked_answers literal properties asksFor (ordinary id asked) shown
  obtain ⟨child, member, asksFor⟩ := asks.each id asked
  have refuses := answers asked asksFor
  rw [found, Option.any_some, decide_eq_false undone] at refuses
  show Answers _ (kit.conditionPasses scope properties 0 conditions.nested)
  rw [Conditions.nested, asks.all]
  cases children : conditions.children with
  | nil =>
    rw [children] at member
    cases member
  | cons first rest =>
    simp only [conditionPasses]
    refine childrenPass_refused (fun other present => ?_) ⟨child, children ▸ member, refuses⟩
    obtain ⟨otherId, otherAsked, otherAsksFor⟩ := asks.only other (children ▸ present)
    exact ⟨_, answers otherAsked otherAsksFor⟩

end Toolkit

end Caseflow
