import Caseflow.SortedMap
/-! References to extensions, and condition trees over references to guards. -/
namespace Caseflow

/-- The number of a step definition. -/
abbrev StepDefId := Int32

/-- The number of an action. -/
abbrev ActionId := Int32

/-- The number of a split or a join. -/
abbrev NodeId := Int32

/-- The text arguments of an extension, by name. Their values may hold references that are
interpolated before use. -/
abbrev Args := SortedMap String String

/-- A reference to an extension by the name of its type (`FunctionDescriptor` and
`ValidatorDescriptor`). -/
structure Call where
  type : String
  args : Args := ∅
  label : Option String := none
  deriving DecidableEq, Inhabited

/-- A reference to a guard (`ConditionDescriptor`), whose answer may be inverted. -/
structure Check where
  call : Call
  negate : Bool := false
  deriving DecidableEq, Inhabited

/-- How the children of a tree decide: all must pass, or one must. -/
inductive Combinator where
  | and
  | or
  deriving DecidableEq, Repr, Inhabited

/-- A condition (`ConditionNode`): a guard, or a combination of conditions. -/
inductive Condition where
  | leaf (check : Check)
  | group (combinator : Combinator) (children : List Condition)
  deriving Inhabited

namespace Condition

mutual

def decideEq : (left right : Condition) → Decidable (left = right)
  | .leaf left, .leaf right =>
    if same : left = right then .isTrue (same ▸ rfl)
    else .isFalse fun equal => same (Condition.leaf.inj equal)
  | .group combinator left, .group combinator' right =>
    if same : combinator = combinator' then
      match decideEqAll left right with
      | .isTrue children => .isTrue (same ▸ children ▸ rfl)
      | .isFalse differ => .isFalse fun equal => differ (Condition.group.inj equal).2
    else .isFalse fun equal => same (Condition.group.inj equal).1
  | .leaf _, .group _ _ => .isFalse nofun
  | .group _ _, .leaf _ => .isFalse nofun

def decideEqAll : (left right : List Condition) → Decidable (left = right)
  | [], [] => .isTrue rfl
  | head :: rest, head' :: rest' =>
    match decideEq head head' with
    | .isTrue heads =>
      match decideEqAll rest rest' with
      | .isTrue rests => .isTrue (heads ▸ rests ▸ rfl)
      | .isFalse differ => .isFalse fun equal => differ (List.cons.inj equal).2
    | .isFalse differ => .isFalse fun equal => differ (List.cons.inj equal).1
  | [], _ :: _ => .isFalse nofun
  | _ :: _, [] => .isFalse nofun

end

instance : DecidableEq Condition := decideEq

mutual

/-- How deep the groups of the condition stand inside one another. -/
def depth : Condition → Nat
  | .leaf _ => 0
  | .group _ children => depthOfAll children + 1

def depthOfAll : List Condition → Nat
  | [] => 0
  | child :: rest => max child.depth (depthOfAll rest)

end

end Condition

/-- A tree of conditions (`ConditionsDescriptor`). Without children it passes, whatever its
combinator. -/
structure Conditions where
  combinator : Combinator := .and
  children : List Condition := []
  deriving DecidableEq, Inhabited

namespace Conditions

/-- The tree as a condition inside another tree. -/
def nested (tree : Conditions) : Condition :=
  .group tree.combinator tree.children

def isEmpty (tree : Conditions) : Bool :=
  tree.children.isEmpty

end Conditions

end Caseflow
