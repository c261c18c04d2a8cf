import Mathlib.Logic.Relation
import Caseflow.Blueprint.Codec
/-! How the documents of blueprints and queries are laid out, and which edits of them change nothing
of what they say: a record may leave out a field that holds its default, and it may hold members
that are not its fields. -/
namespace Caseflow

open Json (Document Members)

namespace Json

/-! ### What documents are made of -/

/-- The records and the choices in the documents of blueprints and queries. -/
inductive Kind where
  | call
  | check
  | condition
  | tree
  | register
  | outcome
  | conditional
  | action
  | step
  | split
  | join
  | blueprint
  | stepTest
  | query

/-- What stands in one place of a document. In a leaf there is no record. -/
inductive Part where
  | leaf
  | one (kind : Kind)
  | many (kind : Kind)
  | commonActions

/-- A field of a record, with the default that it may be left out for, if there is one. -/
structure Field where
  name : String
  part : Part
  fallback : Option Json

namespace Field

def required (name : String) (part : Part) : Field :=
  ⟨name, part, none⟩

def defaulted (name : String) (part : Part) (fallback : Json) : Field :=
  ⟨name, part, some fallback⟩

def optional (name : String) (part : Part) : Field :=
  ⟨name, part, some .null⟩

/-- A field for a list, which may be left out where the list is empty. -/
def list (name : String) (part : Part) : Field :=
  defaulted name part (.arr [])

/-- A field for a map, which may be left out where the map is empty. -/
def map (name : String) (part : Part) : Field :=
  defaulted name part (.obj [])

end Field

/-- A record has fields; a choice is one of several variants, under the tag of the variant. -/
inductive Shape where
  | record (fields : List Field)
  | choice (variants : List (String × Part))

open Json.Field

namespace Kind

def callFields : List Field :=
  [required "type_name" .leaf, map "args" .leaf, optional "name" .leaf]

def checkFields : List Field :=
  defaulted "negate" .leaf (.bool false) :: callFields

def treeFields : List Field :=
  [required "combinator" .leaf, list "conditions" (.many .condition)]

def registerFields : List Field :=
  [required "variable_name" .leaf, required "type_name" .leaf, map "args" .leaf]

def outcomeFields : List Field :=
  [required "target" .leaf, defaulted "status" .leaf (.str ""),
    defaulted "old_status" .leaf (.str ""), optional "owner" .leaf, optional "due_date" .leaf,
    list "pre_functions" (.many .call), list "post_functions" (.many .call),
    list "validators" (.many .call), optional "display_name" .leaf]

def conditionalFields : List Field :=
  [required "conditions" (.one .tree), required "result" (.one .outcome)]

def actionFields : List Field :=
  [required "id" .leaf, defaulted "name" .leaf (.str ""),
    defaulted "auto_execute" .leaf (.bool false), defaulted "finish" .leaf (.bool false),
    optional "restriction" (.one .tree), list "validators" (.many .call),
    list "pre_functions" (.many .call), list "post_functions" (.many .call),
    list "conditional_results" (.many .conditional),
    optional "unconditional_result" (.one .outcome), map "metadata" .leaf]

def stepFields : List Field :=
  [required "id" .leaf, defaulted "name" .leaf (.str ""), list "actions" (.many .action),
    list "common_actions" .leaf, list "pre_functions" (.many .call),
    list "post_functions" (.many .call), map "metadata" .leaf]

def splitFields : List Field :=
  [required "id" .leaf, list "results" (.many .outcome)]

def joinFields : List Field :=
  [required "id" .leaf, defaulted "conditions" (.one .tree) (Conditions.toJson {}),
    optional "result" (.one .outcome)]

def blueprintFields : List Field :=
  [required "name" .leaf, list "initial_actions" (.many .action),
    list "global_actions" (.many .action), map "common_actions" .commonActions,
    list "steps" (.many .step), list "splits" (.many .split), list "joins" (.many .join),
    optional "global_conditions" (.one .tree), list "registers" (.many .register),
    map "metadata" .leaf]

def stepTestFields : List Field :=
  [required "context" .leaf, required "condition" .leaf]

def shape : Kind → Shape
  | .call => .record callFields
  | .check => .record checkFields
  | .condition => .choice [("Leaf", .one .check), ("Nested", .one .tree)]
  | .tree => .record treeFields
  | .register => .record registerFields
  | .outcome => .record outcomeFields
  | .conditional => .record conditionalFields
  | .action => .record actionFields
  | .step => .record stepFields
  | .split => .record splitFields
  | .join => .record joinFields
  | .blueprint => .record blueprintFields
  | .stepTest => .record stepTestFields
  | .query => .choice [("Step", .one .stepTest), ("WorkflowName", .leaf), ("EntryState", .leaf),
      ("And", .many .query), ("Or", .many .query), ("Not", .one .query)]

/-- No record has two fields of one name. -/
theorem names_once {kind : Kind} {fields : List Field} (record : kind.shape = .record fields) :
    (fields.map Field.name).Nodup := by
  cases kind <;> cases record <;> decide

end Kind

/-- One edit that leaves the meaning of a document as it is. What is added to a record may have a
name that is written with escapes, so that not all names in it are plain any more. -/
inductive Edit : Part → Document → Document → Prop where
  /-- A member that is no field is added to a record. -/
  | add {kind : Kind} {fields : List Field} (record : kind.shape = .record fields) {name : String}
      (unknown : ∀ field ∈ fields, field.name ≠ name) (added : Document) {plain plain' : Bool}
      {front back : Members} :
      Edit (.one kind) (.obj plain (front ++ back)) (.obj plain' (front ++ (name, added) :: back))
  /-- A field that holds its default is left out of a record. -/
  | leaveOut {kind : Kind} {fields : List Field} (record : kind.shape = .record fields)
      {field : Field} (known : field ∈ fields) {value : Json}
      (default : field.fallback = some value) {plain : Bool} {front back : Members} :
      Edit (.one kind) (.obj plain (front ++ (field.name, value.document) :: back))
        (.obj plain (front ++ back))
  | inField {kind : Kind} {fields : List Field} (record : kind.shape = .record fields)
      {field : Field} (known : field ∈ fields) {part edited : Document}
      (inside : Edit field.part part edited) {plain : Bool} {front back : Members} :
      Edit (.one kind) (.obj plain (front ++ (field.name, part) :: back))
        (.obj plain (front ++ (field.name, edited) :: back))
  | inVariant {kind : Kind} {variants : List (String × Part)}
      (choice : kind.shape = .choice variants) {tag : String} {place : Part}
      (known : (tag, place) ∈ variants) {part edited : Document} (inside : Edit place part edited)
      {plain : Bool} :
      Edit (.one kind) (.obj plain [(tag, part)]) (.obj plain [(tag, edited)])
  | inItem {kind : Kind} {item edited : Document} (inside : Edit (.one kind) item edited)
      {front back : List Document} :
      Edit (.many kind) (.arr (front ++ item :: back)) (.arr (front ++ edited :: back))
  | inCommonAction {name : String} {part edited : Document}
      (inside : Edit (.one .action) part edited) {plain : Bool} {front back : Members} :
      Edit .commonActions (.obj plain (front ++ (name, part) :: back))
        (.obj plain (front ++ (name, edited) :: back))

/-- Any number of edits. -/
def Edited (place : Part) : Document → Document → Prop :=
  Relation.ReflTransGen (Edit place)

end Json

end Caseflow
