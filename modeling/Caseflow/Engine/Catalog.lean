import Caseflow.Blueprint.Validation
import Caseflow.Failure
/-! The catalog of blueprints an engine runs, by name. Only accepted blueprints get into it, each
under its own name, and a later one replaces an earlier one of its name. -/
namespace Caseflow

/-- The catalog (`DescriptorRegistry`). It holds accepted blueprints, each under its own name. -/
structure Catalog where
  blueprints : SortedMap String Blueprint := ∅
  accepted : ∀ pair ∈ blueprints.pairs, pair.2.name = pair.1 ∧ pair.2.defect? = none := by nofun

namespace Catalog

instance : Inhabited Catalog := ⟨{}⟩

/-- Adds a blueprint under its name, unless it has a defect. -/
def register (catalog : Catalog) (blueprint : Blueprint) : Except Failure Catalog :=
  match sound : blueprint.defect? with
  | some defect => .error (.defective defect)
  | none =>
    .ok {
      blueprints := catalog.blueprints.insert blueprint.name blueprint
      accepted := fun pair member =>
        match mem_putPair member with
        | .inl same => same ▸ ⟨rfl, sound⟩
        | .inr held => catalog.accepted pair held }

def get (catalog : Catalog) (name : String) : Except Failure Blueprint :=
  match catalog.blueprints.get? name with
  | some blueprint => .ok blueprint
  | none => .error (.workflowNotFound name)

/-- Takes the blueprint of a name out. -/
def without (catalog : Catalog) (name : String) : Catalog where
  blueprints := catalog.blueprints.erase name
  accepted := fun pair member => catalog.accepted pair (List.mem_filter.mp member).1

/-- Takes a blueprint out, and answers it. -/
def remove (catalog : Catalog) (name : String) : Except Failure (Blueprint × Catalog) :=
  (catalog.get name).map fun blueprint => (blueprint, catalog.without name)

def contains (catalog : Catalog) (name : String) : Bool :=
  catalog.blueprints.contains name

/-- The names in ascending order. -/
def names (catalog : Catalog) : List String :=
  catalog.blueprints.keys

def size (catalog : Catalog) : Nat :=
  catalog.blueprints.size

/-- What is found under a name is an accepted blueprint of that name. -/
theorem get_sound {catalog : Catalog} {name : String} {blueprint : Blueprint}
    (found : catalog.get name = .ok blueprint) :
    blueprint.name = name ∧ blueprint.validate = .ok () := by
  unfold get at found
  split at found
  · rename_i held looked
    cases found
    obtain ⟨named, sound⟩ := catalog.accepted _ (mem_of_findPair? looked)
    exact ⟨named, by simp [Blueprint.validate, sound]⟩
  · cases found

/-- A name that nothing is found under is unknown. -/
theorem get_fails {catalog : Catalog} {name : String} {failure : Failure}
    (failed : catalog.get name = .error failure) : failure = .workflowNotFound name := by
  unfold get at failed
  split at failed
  · cases failed
  · cases failed
    rfl

end Catalog

end Caseflow
