import Caseflow.Proofs.Substitution
/-! What the reserved names in a text can be made to say. A reserved name stands for a part of the
scope and never for a variable, whether the part is there or not. Names are looked up in the scope
first and then among the properties, so the name of a part that is absent stands for the property
of that name, and this is the only way in which a property comes into a text that has none but
reserved names. -/
namespace Caseflow

namespace Scope

variable {scope other : Scope} {name : String}

/-- The parts that the reserved names stand for are the same. The variables may differ. -/
structure SameParts (scope other : Scope) : Prop where
  caller : other.caller = scope.caller
  entry : other.entry = scope.entry
  currentSteps : other.currentSteps = scope.currentSteps
  actionId : other.actionId = scope.actionId
  createdStep : other.createdStep = scope.createdStep

/-- The name is that of a part that a scope may be without, and the scope is without it. -/
def Lacks (scope : Scope) (name : String) : Prop :=
  name = "actionId" ∧ scope.actionId = none ∨ name = "caller" ∧ scope.caller = none ∨
    name = "createdStep" ∧ scope.createdStep = none

theorem lookup?_reserved (reserved : name ∈ reservedNames) :
    scope.lookup? name = scope.reserved? name :=
  if_pos reserved

theorem SameParts.reserved? (same : scope.SameParts other) (name : String) :
    other.reserved? name = scope.reserved? name := by
  simp only [Scope.reserved?, same.caller, same.entry, same.currentSteps, same.actionId,
    same.createdStep]

/-- Only the action, the caller and the created step may be absent. -/
theorem reserved?_eq_none_iff (reserved : name ∈ reservedNames) :
    scope.reserved? name = none ↔ scope.Lacks name := by
  simp only [reservedNames, List.mem_cons, List.not_mem_nil, or_false] at reserved
  rcases reserved with rfl | rfl | rfl | rfl | rfl | rfl | rfl <;> simp [reserved?, Lacks]

theorem Lacks.reserved (lacks : scope.Lacks name) : name ∈ reservedNames := by
  rcases lacks with ⟨rfl, -⟩ | ⟨rfl, -⟩ | ⟨rfl, -⟩ <;> decide

end Scope

namespace Interpolation

open Template (IsSole)

variable {scope other : Scope} {properties others : Values} {name text : String}

theorem root?_reserved (reserved : name ∈ Scope.reservedNames) :
    root? scope properties name = (scope.reserved? name).or (properties.get? name) := by
  rw [root?, Scope.lookup?_reserved reserved]

theorem root?_lacking (lacks : scope.Lacks name) :
    root? scope properties name = properties.get? name := by
  rw [root?_reserved lacks.reserved, (Scope.reserved?_eq_none_iff lacks.reserved).mpr lacks,
    Option.none_or]

/-- A reserved name has the same value in two scopes with the same parts, unless the part is absent
and the properties of its name differ. -/
theorem root?_sameParts (reserved : name ∈ Scope.reservedNames) (same : scope.SameParts other)
    (absent : scope.Lacks name → others.get? name = properties.get? name) :
    root? other others name = root? scope properties name := by
  rw [root?_reserved reserved, root?_reserved reserved, same.reserved?]
  cases part : scope.reserved? name with
  | some value => rfl
  | none => rw [absent ((Scope.reserved?_eq_none_iff reserved).mp part)]

theorem path_reserved (reserved : name ∈ Scope.reservedNames) : path name.toList = [name] := by
  simp only [Scope.reservedNames, List.mem_cons, List.not_mem_nil, or_false] at reserved
  rcases reserved with rfl | rfl | rfl | rfl | rfl | rfl | rfl <;> rfl

theorem reference?_reserved (reserved : name ∈ Scope.reservedNames) :
    reference? scope properties name.toList = root? scope properties name := by
  simp only [reference?, path_reserved reserved, Json.descend?, Option.bind_fun_some]

/-- A text that has only reserved names in it comes to the same in any two scopes with the same
parts, whatever their variables are, as long as the properties agree on those of its names whose
parts are absent. All other properties have no influence. A name whose part is absent stands for
the property. -/
theorem reserved_names_kept
    (reserved : ∀ name, Names text name → name ∈ Scope.reservedNames) (same : scope.SameParts other)
    (absent : ∀ name, Names text name → scope.Lacks name → others.get? name = properties.get? name) :
    resolve other others text = resolve scope properties text ∧
      ∀ name, scope.Lacks name → IsSole name.toList text.toList →
        resolve scope properties text = properties.get? name := by
  refine ⟨resolve_agree fun root read => ?_, fun name lacks sole => ?_⟩
  · have named := mem_roots_iff.mp read
    exact root?_sameParts (reserved root named) same (absent root named)
  · rw [resolve_sole sole, reference?_reserved lacks.reserved, root?_lacking lacks]

/-- The scope of a call by somebody, outside of any action. -/
def callBy (caller : Option String) : Scope :=
  { (default : Scope) with caller }

/-- Values with which somebody may pretend to be the caller. -/
def forgedCaller : Values :=
  (∅ : Values).insert "caller" (.str "mallory")

/-- The properties of an entry that say what is being done as long as no action is. -/
def idle : Values :=
  (∅ : Values).insert "actionId" (.str "nothing")

/-- A caller who is known is not overruled, neither by a variable nor by a property, where the
action, which is absent, is a property. -/
theorem known_caller_kept :
    resolve { callBy (some "alice") with bindings := forgedCaller }
        (idle.insert "caller" (.str "mallory")) "$\x7bcaller\x7d does $\x7bactionId\x7d" =
      resolve (callBy (some "alice")) idle "$\x7bcaller\x7d does $\x7bactionId\x7d" ∧
    resolve (callBy (some "alice")) idle "$\x7bcaller\x7d does $\x7bactionId\x7d" =
      some (.str "alice does nothing") := by
  have only : roots "$\x7bcaller\x7d does $\x7bactionId\x7d" = ["caller", "actionId"] := by
    decide +kernel
  have either {name : String} (named : Names "$\x7bcaller\x7d does $\x7bactionId\x7d" name) :
      name = "caller" ∨ name = "actionId" := by
    simpa [only] using mem_roots_iff.mpr named
  have same : (callBy (some "alice")).SameParts
      { callBy (some "alice") with bindings := forgedCaller } :=
    ⟨rfl, rfl, rfl, rfl, rfl⟩
  refine ⟨(reserved_names_kept (fun name named => ?_) same fun name named lacks => ?_).1, rfl⟩
  · rcases either named with rfl | rfl <;> decide
  · rcases either named with rfl | rfl
    · simp [Scope.Lacks, callBy] at lacks
    · exact SortedMap.get?_insert_of_ne _ (by decide) _

/-- A caller who is not known is made up by a property. -/
theorem unknown_caller_forged :
    (∀ name, Names "$\x7bcaller\x7d" name → name ∈ Scope.reservedNames) ∧
      resolve (callBy none) ∅ "$\x7bcaller\x7d" = none ∧
      resolve (callBy none) forgedCaller "$\x7bcaller\x7d" = some (.str "mallory") ∧
      ¬ ∀ others, resolve (callBy none) others "$\x7bcaller\x7d" =
        resolve (callBy none) ∅ "$\x7bcaller\x7d" := by
  have only : roots "$\x7bcaller\x7d" = ["caller"] := by decide +kernel
  have without : resolve (callBy none) ∅ "$\x7bcaller\x7d" = none := rfl
  have given : resolve (callBy none) forgedCaller "$\x7bcaller\x7d" = some (.str "mallory") := rfl
  refine ⟨fun name named => ?_, without, given, fun same => ?_⟩
  · obtain rfl : name = "caller" := by simpa [only] using mem_roots_iff.mpr named
    decide
  · have equal := same forgedCaller
    rw [given, without] at equal
    cases equal

end Interpolation

end Caseflow
