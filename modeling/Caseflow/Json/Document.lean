import Caseflow.Json.Value
/-! Documents: JSON as it stands in a text, before anyone asks for its values. A text can hold what
no value is, such as a number out of range. That is a fault only where the value is asked for, so it
is kept as a part that nothing can be read from and that may still be passed over. -/
namespace Caseflow.Json

/-- A part of a document. An object tells whether all its names are plain, that is written without
an escape; its members stand in the order, and as often, as the text gives them. -/
inductive Document where
  | null
  | bool (value : Bool)
  | int (value : Int)
  | float (value : Binary64)
  | str (value : String)
  | arr (items : List Document)
  | obj (plain : Bool) (members : List (String × Document))
  | unfit
  deriving Repr, Inhabited

namespace Document

mutual

/-- The value of the document, if every part of it has one. -/
def value? : Document → Option Json
  | .null => some .null
  | .bool value => some (.bool value)
  | .int value => some (.int value)
  | .float value => some (.float value)
  | .str value => some (.str value)
  | .arr items => (itemValues? items).map .arr
  | .obj _ members => (memberValues? members).map .obj
  | .unfit => none

def itemValues? : List Document → Option (List Json)
  | [] => some []
  | item :: rest => item.value?.bind fun value => (itemValues? rest).map (value :: ·)

def memberValues? : List (String × Document) → Option (List (String × Json))
  | [] => some []
  | (name, member) :: rest =>
    member.value?.bind fun value => (memberValues? rest).map ((name, value) :: ·)

end

mutual

/-- How many arrays and objects stand inside one another. -/
def depth : Document → Nat
  | .arr items => depthOfItems items + 1
  | .obj _ members => depthOfMembers members + 1
  | _ => 0

def depthOfItems : List Document → Nat
  | [] => 0
  | item :: rest => max item.depth (depthOfItems rest)

def depthOfMembers : List (String × Document) → Nat
  | [] => 0
  | (_, member) :: rest => max member.depth (depthOfMembers rest)

end

end Document

mutual

/-- The document that a value is. -/
def document : Json → Document
  | .null => .null
  | .bool value => .bool value
  | .int value => .int value
  | .float value => .float value
  | .str value => .str value
  | .arr items => .arr (documentsOfItems items)
  | .obj members => .obj true (documentsOfMembers members)

def documentsOfItems : List Json → List Document
  | [] => []
  | item :: rest => item.document :: documentsOfItems rest

def documentsOfMembers : List (String × Json) → List (String × Document)
  | [] => []
  | (name, value) :: rest => (name, value.document) :: documentsOfMembers rest

end

/-- The documents of items are those of each item. -/
theorem documentsOfItems_eq_map (items : List Json) :
    documentsOfItems items = items.map document := by
  induction items with
  | nil => rfl
  | cons item rest inner => simp [documentsOfItems, inner]

/-- The members of a document are those of the value, one by one. -/
theorem documentsOfMembers_eq_map (members : List (String × Json)) :
    documentsOfMembers members = members.map fun member => (member.1, member.2.document) := by
  induction members with
  | nil => rfl
  | cons member rest inner => simp [documentsOfMembers, inner]

end Caseflow.Json
