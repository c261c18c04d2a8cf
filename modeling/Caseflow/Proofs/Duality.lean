import Caseflow.Proofs.Rollback
import Caseflow.Proofs.Visits
/-! The dual of a condition: conjunctions for disjunctions, and every guard inverted. A child that
leaves a group undecided does so in the dual as well, so as long as no group is without children
the two evaluations go the same way, with the same calls, to opposite answers or to the same
failure. -/
namespace Caseflow

def Combinator.dual : Combinator → Combinator
  | .and => .or
  | .or => .and

/-- The guard with its answer inverted. -/
def Check.inverted (check : Check) : Check :=
  { check with negate := !check.negate }

namespace Condition

mutual

/-- The condition with its combinators exchanged and its guards inverted. -/
def dual : Condition → Condition
  | .leaf check => .leaf check.inverted
  | .group combinator children => .group combinator.dual (dualAll children)

def dualAll : List Condition → List Condition
  | [] => []
  | child :: rest => child.dual :: dualAll rest

end

mutual

/-- Every group in the condition has children. -/
def isFilled : Condition → Bool
  | .leaf _ => true
  | .group _ children => !children.isEmpty && allFilled children

def allFilled : List Condition → Bool
  | [] => true
  | child :: rest => child.isFilled && allFilled rest

end

theorem isFilled_of_mem {children : List Condition} (filled : allFilled children = true)
    {child : Condition} (member : child ∈ children) : child.isFilled = true := by
  induction children with
  | nil => cases member
  | cons head rest ih =>
    obtain ⟨first, others⟩ := (Bool.and_eq_true ..).mp filled
    rcases List.mem_cons.mp member with rfl | later
    · exact first
    · exact ih others later

end Condition

def Conditions.dual (tree : Conditions) : Conditions where
  combinator := tree.combinator.dual
  children := Condition.dualAll tree.children

/-- The answer inverted, after the same run. -/
def Run.inverted {σ : Type} (computation : Run σ Bool) : Run σ Bool := fun state =>
  ((computation state).1.map (!·), (computation state).2)

/-- What leaves a group undecided leaves its dual undecided when it is inverted. -/
theorem Combinator.goesOn_dual (combinator : Combinator) (result : Except Failure Bool) :
    combinator.dual.goesOn (result.map (!·)) = combinator.goesOn result := by
  cases combinator <;> cases result <;> simp [dual, goesOn, Except.map]

namespace Toolkit

open Condition

variable {kit : Toolkit} {scope : Scope} {properties : Values} {stepId : StepDefId}

theorem answer_inverted (check : Check) :
    kit.answer scope properties stepId check.inverted =
      (kit.answer scope properties stepId check).map (!·) := by
  unfold answer
  show (kit.consult scope properties stepId check.call).map (· != !check.negate) = _
  cases kit.consult scope properties stepId check.call with
  | error failure => rfl
  | ok passed => cases passed <;> cases check.negate <;> rfl

theorem checkPasses_inverted (check : Check) :
    kit.checkPasses scope properties stepId check.inverted =
      (kit.checkPasses scope properties stepId check).inverted := by
  funext world
  rw [Run.inverted, checkPasses_eq, checkPasses_eq, answer_inverted]
  rfl

theorem childrenPass_dual {combinator : Combinator} {children : List Condition}
    (each : ∀ child ∈ children, kit.conditionPasses scope properties stepId child.dual =
      (kit.conditionPasses scope properties stepId child).inverted) :
    kit.childrenPass scope properties stepId combinator.dual (dualAll children) =
      (kit.childrenPass scope properties stepId combinator children).inverted := by
  induction children with
  | nil =>
    rw [dualAll, childrenPass, childrenPass]
    cases combinator <;> rfl
  | cons child rest ih =>
    have others := ih fun other member => each other (List.mem_cons_of_mem _ member)
    funext world
    cases reached : kit.conditionPasses scope properties stepId child world with
    | mk result after =>
      have opposite : kit.conditionPasses scope properties stepId child.dual world =
          (result.map (!·), after) := by
        rw [each child (List.mem_cons_self ..), Run.inverted, reached]
      rw [dualAll, childrenPass_cons _ _ opposite, Combinator.goesOn_dual, Run.inverted,
        childrenPass_cons _ _ reached, others]
      split <;> rfl

theorem conditionPasses_dual (condition : Condition) (filled : condition.isFilled = true) :
    kit.conditionPasses scope properties stepId condition.dual =
      (kit.conditionPasses scope properties stepId condition).inverted := by
  induction condition using Condition.induction with
  | leaf check =>
    rw [dual, conditionPasses, conditionPasses]
    exact checkPasses_inverted check
  | group combinator children ih =>
    cases children with
    | nil => cases filled
    | cons child rest =>
      rw [dual, dualAll, conditionPasses, conditionPasses]
      · exact childrenPass_dual fun other member => ih other member (isFilled_of_mem filled member)
      · simp
      · simp

/-- De Morgan's law. In a tree none of whose groups is without children, exchanging the combinators
and inverting every guard inverts the answer: the same guards are called in the same order, and the
two evaluations come to opposite answers or to the same failure. -/
theorem treePasses_dual {tree : Conditions} (filled : tree.nested.isFilled = true) (kit : Toolkit)
    (scope : Scope) (properties : Values) (stepId : StepDefId) (world : World) :
    kit.treePasses scope properties stepId (some tree.dual) world =
      ((kit.treePasses scope properties stepId (some tree) world).1.map (!·),
        (kit.treePasses scope properties stepId (some tree) world).2) :=
  congrFun (conditionPasses_dual tree.nested filled) world

/-- The law stops at groups without children: such a tree passes, and so does its dual. -/
example (kit : Toolkit) (scope : Scope) (combinator : Combinator) (world : World) :
    kit.treePasses scope ∅ 0 (some ⟨combinator, []⟩) world = (.ok true, world) ∧
      kit.treePasses scope ∅ 0 (some (Conditions.dual ⟨combinator, []⟩)) world = (.ok true, world) :=
  ⟨rfl, rfl⟩

end Toolkit

/-! ### A tree of reservations -/

/-- The approver calls, the step is closed or the impossible happens, and all is well. -/
def reservations : Conditions where
  children :=
    [.leaf { call := { type := "caller", args := SortedMap.ofList [("caller", "${approver}")] } },
      .group .or
        [.leaf { call := { type := "status",
                           args := SortedMap.ofList [("status", "Closed"), ("stepId", "-1")] } },
          .leaf { call := { type := "always" }, negate := true }],
      .leaf { call := { type := "always" } }]

/-- The approver calls at the open step 7. -/
def approving : Scope where
  caller := some "ana"
  entry := ⟨1, "order", .activated, ⟨0, 0⟩⟩
  blueprint := { name := "order" }
  currentSteps := [{ id := 1, entryId := 1, defId := 7, status := "Open", startDate := ⟨0, 0⟩ }]
  bindings := SortedMap.ofList [("approver", .str "ana")]

/-- The tree fails at its second child, and its dual passes after the same three calls. -/
theorem reservations_dual :
    let kit : Toolkit := { extensions := Builtin.extensions }
    let tree := kit.treePasses approving ∅ 7 (some reservations) {}
    let dual := kit.treePasses approving ∅ 7 (some reservations.dual) {}
    reservations.nested.isFilled = true ∧ tree.1 = .ok false ∧ dual.1 = .ok true ∧
      tree.2.journal.length = 3 ∧ dual.2.journal = tree.2.journal := by
  intro kit tree dual
  have filled : reservations.nested.isFilled = true := by decide
  have failed : tree.1 = .ok false := ok_of_eval (by decide +kernel)
  have called : tree.2.journal.length = 3 := by decide +kernel
  have law : dual = (tree.1.map (!·), tree.2) :=
    Toolkit.treePasses_dual filled kit approving ∅ 7 {}
  refine ⟨filled, failed, ?_, called, by rw [law]⟩
  rw [law, failed]
  rfl

end Caseflow
