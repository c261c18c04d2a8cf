import Caseflow.Proofs.Twins
/-! What the evaluation of a condition visits, and what it comes to. A child of a group is entered
only while the children before it have left the group undecided, so the leaves that are visited
follow one another in the order of their places, and the guards of these alone, asked in that
order, settle the result. -/
namespace Caseflow

open Run

/-- A child with this result leaves the group undecided: a conjunction goes on after a child that
passes, a disjunction after one that does not. -/
def Combinator.goesOn : Combinator → Except Failure Bool → Bool
  | .and, .ok passed => passed
  | .or, .ok passed => !passed
  | _, .error _ => false

namespace Condition

/-- Induction on a condition. For a group, what is to be shown holds of all its children. -/
@[elab_as_elim]
theorem induction {motive : Condition → Prop} (leaf : ∀ check, motive (.leaf check))
    (group : ∀ combinator children, (∀ child ∈ children, motive child) →
      motive (.group combinator children)) (condition : Condition) : motive condition :=
  -- The recursor has a second motive, for the children of a group.
  @Condition.rec motive (fun children => ∀ child ∈ children, motive child) leaf group
    (List.forall_mem_nil motive) (fun _ _ head rest => List.forall_mem_cons.mpr ⟨head, rest⟩) condition

/-! ### What a condition means -/

mutual

/-- What the condition comes to when its guards have these values: a group without children holds,
and any other holds as all its children do, or as some child does. -/
def holds (value : Check → Bool) : Condition → Bool
  | .leaf check => value check
  | .group _ [] => true
  | .group .and children => allHold value children
  | .group .or children => anyHolds value children

def allHold (value : Check → Bool) : List Condition → Bool
  | [] => true
  | child :: rest => child.holds value && allHold value rest

def anyHolds (value : Check → Bool) : List Condition → Bool
  | [] => false
  | child :: rest => child.holds value || anyHolds value rest

end

/-- What the children of a group come to together. -/
def together (value : Check → Bool) : Combinator → List Condition → Bool
  | .and => allHold value
  | .or => anyHolds value

theorem holds_group (value : Check → Bool) (combinator : Combinator) (child : Condition)
    (rest : List Condition) :
    (group combinator (child :: rest)).holds value = together value combinator (child :: rest) := by
  cases combinator <;> simp [holds, together]

/-- A child that leaves the group undecided leaves it to the others. -/
theorem together_of_goesOn {value : Check → Bool} {combinator : Combinator} {child : Condition}
    (goesOn : combinator.goesOn (.ok (child.holds value)) = true) (rest : List Condition) :
    together value combinator (child :: rest) = together value combinator rest := by
  cases combinator <;> simp_all [Combinator.goesOn, together, allHold, anyHolds]

/-- A child that decides the group decides as it is itself. -/
theorem together_of_decided {value : Check → Bool} {combinator : Combinator} {child : Condition}
    (decided : combinator.goesOn (.ok (child.holds value)) = false) (rest : List Condition) :
    together value combinator (child :: rest) = child.holds value := by
  cases combinator <;> simp_all [Combinator.goesOn, together, allHold, anyHolds]

/-! ### The leaves that are visited -/

/-- The evaluation comes to the leaf at the place, told by the child that is entered at each group
on the way: all the children before that one have left the group undecided. -/
inductive Visited (result : Condition → Except Failure Bool) : Condition → List Nat → Check → Prop
  | leaf (check : Check) : Visited result (.leaf check) [] check
  | child {combinator : Combinator} {children before after : List Condition} {child : Condition}
      {place : List Nat} {check : Check} (split : children = before ++ child :: after)
      (undecided : ∀ sibling ∈ before, combinator.goesOn (result sibling) = true)
      (inside : Visited result child place check) :
      Visited result (.group combinator children) (before.length :: place) check

mutual

/-- The leaves that are visited, with their places. -/
def visits (result : Condition → Except Failure Bool) : Condition → List (List Nat × Check)
  | .leaf check => [([], check)]
  | .group combinator children => visitsFrom result combinator 0 children

/-- Of the remaining children, the first of which has this position. -/
def visitsFrom (result : Condition → Except Failure Bool) (combinator : Combinator)
    (position : Nat) : List Condition → List (List Nat × Check)
  | [] => []
  | child :: rest =>
    (child.visits result).map (fun visit => (position :: visit.1, visit.2)) ++
      if combinator.goesOn (result child) then visitsFrom result combinator (position + 1) rest
      else []

end

variable {result : Condition → Except Failure Bool} {combinator : Combinator} {place : List Nat}
  {check : Check}

theorem mem_visitsFrom_iff {position : Nat} {children : List Condition} :
    (place, check) ∈ visitsFrom result combinator position children ↔
      ∃ before child after inner, children = before ++ child :: after ∧
        (∀ sibling ∈ before, combinator.goesOn (result sibling) = true) ∧
        place = (position + before.length) :: inner ∧ (inner, check) ∈ child.visits result := by
  induction children generalizing position with
  | nil => simp [visitsFrom]
  | cons head rest ih =>
    rw [visitsFrom, List.mem_append]
    constructor
    · rintro (first | later)
      · obtain ⟨⟨inner, _⟩, visited, same⟩ := List.mem_map.mp first
        cases same
        exact ⟨[], head, rest, inner, rfl, List.forall_mem_nil _, rfl, visited⟩
      · split at later
        · rename_i goesOn
          obtain ⟨before, child, after, inner, split, undecided, rfl, visited⟩ := ih.mp later
          refine ⟨head :: before, child, after, inner, by rw [split]; rfl, ?_, ?_, visited⟩
          · intro sibling member
            rcases List.mem_cons.mp member with rfl | among
            · exact goesOn
            · exact undecided sibling among
          · rw [List.length_cons, Nat.add_assoc, Nat.add_comm 1]
        · cases later
    · rintro ⟨before, child, after, inner, split, undecided, rfl, visited⟩
      cases before with
      | nil =>
        cases split
        exact .inl (List.mem_map.mpr ⟨(inner, check), visited, rfl⟩)
      | cons first others =>
        cases split
        refine .inr ?_
        rw [if_pos (undecided head (List.mem_cons_self ..))]
        refine ih.mpr ⟨others, child, after, inner, rfl, fun sibling member =>
          undecided sibling (List.mem_cons_of_mem _ member), ?_, visited⟩
        rw [List.length_cons, Nat.add_assoc, Nat.add_comm 1]

theorem mem_visits_iff {condition : Condition} :
    (place, check) ∈ condition.visits result ↔ condition.Visited result place check := by
  induction condition using induction generalizing place check with
  | leaf own =>
    rw [visits, List.mem_singleton]
    constructor
    · rintro ⟨rfl, rfl⟩
      exact .leaf _
    · rintro ⟨⟩
      rfl
  | group combinator children ih =>
    rw [visits, mem_visitsFrom_iff]
    constructor
    · rintro ⟨before, child, after, inner, split, undecided, rfl, visited⟩
      rw [Nat.zero_add]
      exact .child split undecided ((ih child (by simp [split])).mp visited)
    · rintro (_ | ⟨split, undecided, inside⟩)
      exact ⟨_, _, _, _, split, undecided, by rw [Nat.zero_add],
        (ih _ (by simp [split])).mpr inside⟩

theorem visitsFrom_sorted {children : List Condition}
    (inside : ∀ child ∈ children, (child.visits result).Pairwise (·.1 < ·.1)) (position : Nat) :
    (visitsFrom result combinator position children).Pairwise (·.1 < ·.1) := by
  induction children generalizing position with
  | nil => exact .nil
  | cons head rest ih =>
    rw [visitsFrom]
    refine List.pairwise_append.mpr ⟨?_, ?_, ?_⟩
    · refine List.pairwise_map.mpr ((inside head (List.mem_cons_self ..)).imp fun less => ?_)
      exact List.cons_lt_cons_iff.mpr (.inr ⟨rfl, less⟩)
    · split
      · exact ih (fun child member => inside child (List.mem_cons_of_mem _ member)) _
      · exact .nil
    · rintro ⟨early, own⟩ first ⟨late, other⟩ later
      obtain ⟨visit, -, same⟩ := List.mem_map.mp first
      cases same
      split at later
      · obtain ⟨before, -, -, inner, -, -, rfl, -⟩ := mem_visitsFrom_iff.mp later
        exact List.cons_lt_cons_iff.mpr (.inl (by omega))
      · cases later

/-- The leaves are visited from left to right, each of them once. -/
theorem visits_sorted (condition : Condition) :
    (condition.visits result).Pairwise fun earlier later => earlier.1 < later.1 := by
  induction condition using induction with
  | leaf check => exact List.pairwise_singleton ..
  | group combinator children ih => exact visitsFrom_sorted ih 0

/-! ### How the guards that are asked settle the result -/

/-- The guards that were asked, in this order, settle the result. All have answered, and then the
meaning is the result whatever any other guard would say, or only the last one has failed. -/
inductive Settled (answer : Check → Except Failure Bool) (meaning : (Check → Bool) → Bool) :
    List Check → Except Failure Bool → Prop
  | answered {asked : List Check} {passed : Bool}
      (given : ∀ check ∈ asked, ∃ own, answer check = .ok own)
      (means : ∀ value, (∀ check ∈ asked, answer check = .ok (value check)) →
        meaning value = passed) :
      Settled answer meaning asked (.ok passed)
  | failed {earlier : List Check} {last : Check} {failure : Failure}
      (given : ∀ check ∈ earlier, ∃ own, answer check = .ok own)
      (fails : answer last = .error failure) :
      Settled answer meaning (earlier ++ [last]) (.error failure)

namespace Settled

variable {answer : Check → Except Failure Bool} {meaning other : (Check → Bool) → Bool}
  {asked more : List Check} {passed : Bool}

/-- A failure settles whatever is asked for. -/
theorem error {failure : Failure} (settled : Settled answer meaning asked (.error failure)) :
    Settled answer other asked (.error failure) := by
  cases settled with
  | failed given fails => exact .failed given fails

/-- What follows from the meaning is settled along with it. -/
theorem decides (settled : Settled answer meaning asked (.ok passed))
    (follows : ∀ value, meaning value = passed → other value = passed) :
    Settled answer other asked (.ok passed) := by
  cases settled with
  | answered given means => exact .answered given fun value agrees => follows value (means value agrees)

/-- After guards that have answered, the rest is settled by those that are asked next. -/
theorem goesOn {rest : (Check → Bool) → Bool} {last : Except Failure Bool}
    (settled : Settled answer meaning asked (.ok passed)) (later : Settled answer rest more last)
    (follows : ∀ value, meaning value = passed → other value = rest value) :
    Settled answer other (asked ++ more) last := by
  cases settled with
  | answered given means =>
    cases later with
    | answered givenMore meansMore =>
      refine .answered (fun check member => ?_) fun value agrees => ?_
      · exact (List.mem_append.mp member).elim (given check) (givenMore check)
      · rw [follows value (means value fun check member => agrees check (List.mem_append_left _ member))]
        exact meansMore value fun check member => agrees check (List.mem_append_right _ member)
    | failed givenMore fails =>
      rw [← List.append_assoc]
      refine .failed (fun check member => ?_) fails
      exact (List.mem_append.mp member).elim (given check) (givenMore check)

/-- The result is a failure just where a guard that was asked has failed. -/
theorem error_iff {result : Except Failure Bool} {failure : Failure}
    (settled : Settled answer meaning asked result) :
    result = .error failure ↔ ∃ check ∈ asked, answer check = .error failure := by
  cases settled with
  | answered given means =>
    refine ⟨nofun, fun ⟨check, member, fails⟩ => ?_⟩
    obtain ⟨own, answered⟩ := given check member
    cases fails.symm.trans answered
  | @failed earlier last cause given fails =>
    constructor
    · rintro ⟨⟩
      exact ⟨last, by simp, fails⟩
    · rintro ⟨check, member, failed⟩
      rcases List.mem_append.mp member with among | isLast
      · obtain ⟨own, answered⟩ := given check among
        cases failed.symm.trans answered
      · obtain rfl := List.mem_singleton.mp isLast
        exact congrArg _ (Except.error.inj (fails.symm.trans failed))

/-- A guard that has failed was the last one to be asked. -/
theorem last {α : Type} {guardOf : α → Check} {visits : List α} {result : Except Failure Bool}
    (settled : Settled answer meaning (visits.map guardOf) result) {visit : α} {failure : Failure}
    (member : visit ∈ visits) (failed : answer (guardOf visit) = .error failure) :
    visits.getLast? = some visit := by
  generalize asks : visits.map guardOf = asked at settled
  cases settled with
  | answered given means =>
    obtain ⟨own, answered⟩ := given (guardOf visit) (asks ▸ List.mem_map_of_mem member)
    cases failed.symm.trans answered
  | failed given fails =>
    obtain ⟨front, back, rfl, asksFront, asksBack⟩ := List.map_eq_append_iff.mp asks
    obtain ⟨final, rfl, -⟩ := List.map_eq_singleton_iff.mp asksBack
    rcases List.mem_append.mp member with among | isLast
    · obtain ⟨own, answered⟩ := given (guardOf visit) (asksFront ▸ List.mem_map_of_mem among)
      cases failed.symm.trans answered
    · obtain rfl := List.mem_singleton.mp isLast
      exact List.getLast?_concat ..

/-- Where all guards that were asked have answered, the result is the meaning. -/
theorem result_eq {result : Except Failure Bool} (settled : Settled answer meaning asked result)
    {value : Check → Bool} (agrees : ∀ check ∈ asked, answer check = .ok (value check)) :
    result = .ok (meaning value) := by
  cases settled with
  | answered given means => rw [means value agrees]
  | failed given fails => cases fails.symm.trans (agrees _ (by simp))

end Settled

end Condition

namespace Toolkit

open Condition

section Evaluation

variable (kit : Toolkit) (scope : Scope) (properties : Values) (stepId : StepDefId)

/-- What a guard answers to the arguments it is called with. -/
def consult (call : Call) : Except Failure Bool := do
  let args := kit.guardArgs scope properties stepId call.args
  let guard ← kit.extensions.guard call.type args
  guard scope args properties

/-- What a leaf answers: what its guard does, inverted where the leaf says so. -/
def answer (check : Check) : Except Failure Bool :=
  (kit.consult scope properties stepId check.call).map (· != check.negate)

/-- The calls that the visit of a leaf makes: one of its guard, if that is found. -/
def callsOf (call : Call) : List Event :=
  let args := kit.guardArgs scope properties stepId call.args
  match kit.extensions.guard call.type args with
  | .ok _ => [.extensionCalled .condition call.type args scope.view]
  | .error _ => []

/-- The result of a condition by itself. -/
def verdict (condition : Condition) : Except Failure Bool :=
  (kit.conditionPasses scope properties stepId condition {}).1

end Evaluation

variable {kit : Toolkit} {scope : Scope} {properties : Values} {stepId : StepDefId}

theorem callGuard_eq (call : Call) (world : World) :
    kit.callGuard scope properties call.type (kit.guardArgs scope properties stepId call.args) world =
      (kit.consult scope properties stepId call,
        world.note (kit.callsOf scope properties stepId call)) := by
  unfold callGuard consult callsOf
  dsimp only
  cases kit.extensions.guard call.type (kit.guardArgs scope properties stepId call.args) with
  | error failure => simp [andThen, Run.ofExcept, World.note, bind, Except.bind]
  | ok guard => rfl

theorem checkPasses_eq (check : Check) (world : World) :
    kit.checkPasses scope properties stepId check world =
      (kit.answer scope properties stepId check,
        world.note (kit.callsOf scope properties stepId check.call)) := by
  unfold checkPasses
  simp only [bind_eq, pure_eq]
  rw [andThen, callGuard_eq, answer]
  cases kit.consult scope properties stepId check.call <;> rfl

/-- The result is the same in every world. -/
theorem verdict_eq (condition : Condition) (world : World) :
    (kit.conditionPasses scope properties stepId condition world).1 =
      kit.verdict scope properties stepId condition :=
  answer_of_looks (conditionPasses_looks kit.extensions.refuses_any condition) _ _

theorem childrenPass_cons {combinator : Combinator} (child : Condition) (rest : List Condition)
    {world after : World} {result : Except Failure Bool}
    (reached : kit.conditionPasses scope properties stepId child world = (result, after)) :
    kit.childrenPass scope properties stepId combinator (child :: rest) world =
      if combinator.goesOn result then
        kit.childrenPass scope properties stepId combinator rest after
      else (result, after) := by
  rw [childrenPass]
  cases result with
  | error failure =>
    rw [andThen_error reached]
    cases combinator <;> rfl
  | ok passed =>
    rw [andThen_ok reached]
    cases combinator <;> cases passed <;> rfl

/-- In every world the computation asks these guards, which settle its result, and leaves nothing
behind but the notes on their calls. -/
def Judges (kit : Toolkit) (scope : Scope) (properties : Values) (stepId : StepDefId)
    (computation : Run World Bool) (meaning : (Check → Bool) → Bool) (asked : List Check) : Prop :=
  ∃ result, (∀ world, computation world =
      (result, world.note (asked.flatMap fun check => kit.callsOf scope properties stepId check.call))) ∧
    Settled (kit.answer scope properties stepId) meaning asked result

theorem checkPasses_judges (check : Check) :
    kit.Judges scope properties stepId (kit.checkPasses scope properties stepId check)
      (fun value => value check) [check] := by
  refine ⟨kit.answer scope properties stepId check, fun world => ?_, ?_⟩
  · rw [checkPasses_eq, List.flatMap_singleton]
  · cases answered : kit.answer scope properties stepId check with
    | ok passed =>
      refine .answered (fun asked member => ?_) fun value agrees => ?_
      · obtain rfl := List.mem_singleton.mp member
        exact ⟨passed, answered⟩
      · have same := agrees check (List.mem_singleton_self check)
        exact Except.ok.inj (same.symm.trans answered)
    | error failure =>
      have given : ∀ asked ∈ ([] : List Check), ∃ own,
          kit.answer scope properties stepId asked = .ok own := List.forall_mem_nil _
      exact .failed given answered

theorem childrenPass_judges {combinator : Combinator} {children : List Condition}
    (each : ∀ child ∈ children, kit.Judges scope properties stepId
      (kit.conditionPasses scope properties stepId child) (fun value => child.holds value)
      ((child.visits (kit.verdict scope properties stepId)).map (·.2))) (position : Nat) :
    kit.Judges scope properties stepId
      (kit.childrenPass scope properties stepId combinator children)
      (fun value => together value combinator children)
      ((visitsFrom (kit.verdict scope properties stepId) combinator position children).map (·.2)) := by
  induction children generalizing position with
  | nil =>
    refine ⟨.ok (combinator = .and), fun world => ?_, .answered (List.forall_mem_nil _) fun value _ => ?_⟩
    · rw [childrenPass]
      simp [done, visitsFrom, World.note]
    · cases combinator <;> rfl
  | cons child rest ih =>
    obtain ⟨result, reached, settled⟩ := each child (List.mem_cons_self ..)
    have verdict : kit.verdict scope properties stepId child = result := congrArg Prod.fst (reached {})
    obtain ⟨last, passes, settledRest⟩ :=
      ih (fun other member => each other (List.mem_cons_of_mem _ member)) (position + 1)
    have asked : ((child.visits (kit.verdict scope properties stepId)).map
        fun visit => (position :: visit.1, visit.2)).map (·.2) =
          (child.visits (kit.verdict scope properties stepId)).map (·.2) := by
      rw [List.map_map]
      rfl
    unfold Judges
    simp only [childrenPass_cons child rest (reached _)]
    rw [visitsFrom, verdict, List.map_append, asked]
    cases result with
    | error failure =>
      have decided : ¬ combinator.goesOn (.error failure) = true := by
        cases combinator <;> exact Bool.false_ne_true
      simp only [if_neg decided, List.map_nil, List.append_nil]
      exact ⟨.error failure, fun world => rfl, settled.error⟩
    | ok passed =>
      by_cases goesOn : combinator.goesOn (.ok passed) = true
      · simp only [if_pos goesOn]
        refine ⟨last, fun world => ?_, settled.goesOn settledRest fun value same => ?_⟩
        · rw [passes, List.flatMap_append]
          simp [World.note]
        · exact together_of_goesOn (same ▸ goesOn) rest
      · simp only [if_neg goesOn, List.map_nil, List.append_nil]
        refine ⟨.ok passed, fun world => rfl, settled.decides fun value same => ?_⟩
        have decided := Bool.eq_false_iff.mpr goesOn
        exact (together_of_decided (same ▸ decided) rest).trans same

theorem conditionPasses_judges (condition : Condition) :
    kit.Judges scope properties stepId (kit.conditionPasses scope properties stepId condition)
      (fun value => condition.holds value)
      ((condition.visits (kit.verdict scope properties stepId)).map (·.2)) := by
  induction condition using Condition.induction with
  | leaf check =>
    rw [conditionPasses]
    exact checkPasses_judges check
  | group combinator children each =>
    cases children with
    | nil =>
      rw [conditionPasses]
      refine ⟨.ok true, fun world => ?_, .answered (List.forall_mem_nil _) fun value _ => rfl⟩
      simp [done, visits, visitsFrom, World.note]
    | cons child rest =>
      rw [conditionPasses]
      · simp only [holds_group]
        exact childrenPass_judges each 0
      · simp

theorem get?_withStepId_self (stepId : StepDefId) (args : Args) :
    (withStepId stepId args).get? stepIdName =
      (args.get? stepIdName).map fun text =>
        if stepId ≠ -1 ∧ Text.trim text = "-1" then Text.integerText stepId.toInt else text := by
  unfold withStepId
  cases given : args.get? stepIdName with
  | none => exact given
  | some text =>
    dsimp only [Option.map_some]
    split
    · exact SortedMap.get?_insert_self ..
    · exact given

/-- The arguments a guard is called with are the interpolated ones, except that the step under
evaluation, if there is one, stands for a step number of `-1`. -/
theorem get?_guardArgs (args : Args) (name : String) :
    (kit.guardArgs scope properties stepId args).get? name =
      (args.get? name).map fun template =>
        let text := Interpolation.rendered (kit.resolver scope properties template)
        if name = "stepId" ∧ stepId ≠ -1 ∧ Text.trim text = "-1" then Text.integerText stepId.toInt
        else text := by
  have interpolated : (kit.resolver.args scope properties args).get? name =
      (args.get? name).map fun template =>
        Interpolation.rendered (kit.resolver scope properties template) := SortedMap.get?_mapValues ..
  unfold guardArgs
  by_cases isStep : name = stepIdName
  · subst isStep
    rw [get?_withStepId_self, interpolated, Option.map_map]
    simp [stepIdName, Function.comp_def]
  · rw [get?_withStepId isStep, interpolated]
    have apart : name ≠ "stepId" := isStep
    simp only [apart, false_and, if_false]

/-- Trees mean what they say. The evaluation of a tree visits leaves from left to right, each at
most once: those on the way to which no child of a group comes after one that has closed the group,
by failing in a conjunction, by passing in a disjunction or by an error. It calls the guards of
these leaves, with the arguments as they are interpolated, and no others. It fails just where a
leaf that is visited fails, which then is the last one. If none does, the result is the meaning of
the tree, whatever the guards of the other leaves would say. -/
theorem treePasses_decides (kit : Toolkit) (scope : Scope) (properties : Values) (stepId : StepDefId)
    (tree : Option Conditions) (world : World) :
    let evaluation := kit.treePasses scope properties stepId tree world
    let result := fun condition => (kit.conditionPasses scope properties stepId condition world).1
    let answer := kit.answer scope properties stepId
    (∃ visits : List (List Nat × Check),
      visits.Pairwise (fun earlier later => earlier.1 < later.1) ∧
      (∀ place check, (place, check) ∈ visits ↔
        ∃ conditions ∈ tree, conditions.nested.Visited result place check) ∧
      evaluation.2 =
        world.note (visits.flatMap fun visit => kit.callsOf scope properties stepId visit.2.call) ∧
      (∀ failure, evaluation.1 = .error failure ↔
        ∃ visit ∈ visits, answer visit.2 = .error failure) ∧
      (∀ visit ∈ visits, ∀ failure, answer visit.2 = .error failure →
        visits.getLast? = some visit) ∧
      ∀ value : Check → Bool, (∀ visit ∈ visits, answer visit.2 = .ok (value visit.2)) →
        evaluation.1 = .ok (tree.all fun conditions => conditions.nested.holds value)) ∧
    ∀ (args : Args) (name : String),
      (kit.guardArgs scope properties stepId args).get? name =
        (args.get? name).map fun template =>
          let text := Interpolation.rendered (kit.resolver scope properties template)
          if name = "stepId" ∧ stepId ≠ -1 ∧ Text.trim text = "-1" then Text.integerText stepId.toInt
          else text := by
  intro evaluation result answer
  refine ⟨?_, get?_guardArgs⟩
  cases tree with
  | none =>
    have ends : evaluation = (.ok true, world) := rfl
    rw [ends]
    refine ⟨[], .nil, by simp, ?_, by simp, List.forall_mem_nil _, fun value _ => rfl⟩
    simp [World.note]
  | some conditions =>
    have alone : result = kit.verdict scope properties stepId :=
      funext fun condition => verdict_eq condition world
    have judges : kit.Judges scope properties stepId
        (kit.conditionPasses scope properties stepId conditions.nested) _ _ :=
      conditionPasses_judges conditions.nested
    obtain ⟨_, reached, settled⟩ := judges
    have ends : evaluation = _ := reached world
    rw [ends, alone]
    refine ⟨_, visits_sorted conditions.nested, fun place check => ?_, ?_, fun failure => ?_,
      fun visit member failure failed => settled.last member failed, fun value agrees => ?_⟩
    · rw [mem_visits_iff]
      simp
    · rw [List.flatMap_map]
    · rw [settled.error_iff]
      constructor
      · rintro ⟨check, member, failed⟩
        obtain ⟨visit, visited, rfl⟩ := List.mem_map.mp member
        exact ⟨visit, visited, failed⟩
      · rintro ⟨visit, visited, failed⟩
        exact ⟨visit.2, List.mem_map_of_mem visited, failed⟩
    · exact settled.result_eq (List.forall_mem_map.mpr agrees)

end Toolkit

end Caseflow
