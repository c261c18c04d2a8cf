import Caseflow.SortedMap
import Caseflow.Decimal.Binary64
/-! JSON values. Whole numbers and binary floating-point numbers are different values: `1` is an
identifier where `1.0` is not. A text may name a member of an object twice and in any order; the
tidy form has each member once, the last one given, in ascending order of the names. -/
namespace Caseflow

/-- A JSON value. The members of an object stand in the order given. -/
inductive Json where
  | null
  | bool (value : Bool)
  | int (value : Int)
  | float (value : Binary64)
  | str (value : String)
  | arr (items : List Json)
  | obj (members : List (String × Json))
  deriving Repr, BEq, Inhabited

namespace Json

mutual

/-- The tidy form of the value and of every value inside it. -/
def tidy : Json → Json
  | .null => .null
  | .bool value => .bool value
  | .int value => .int value
  | .float value => .float value
  | .str value => .str value
  | .arr items => .arr (tidyItems items)
  | .obj members => .obj (tidyMembers members [])

def tidyItems : List Json → List Json
  | [] => []
  | item :: rest => item.tidy :: tidyItems rest

/-- Puts the tidy members, in turn, into the ascending list `placed`. -/
def tidyMembers : List (String × Json) → List (String × Json) → List (String × Json)
  | [], placed => placed
  | (name, value) :: rest, placed => tidyMembers rest (putPair name value.tidy placed)

end

/-- The object with these members. -/
def ofMap (map : SortedMap String Json) : Json :=
  .obj map.pairs

/-- The object with these texts as members. -/
def ofTexts (map : SortedMap String String) : Json :=
  .obj (map.pairs.map fun pair => (pair.1, .str pair.2))

/-- A member that is left out where there is no value. -/
def present (name : String) : Option Json → List (String × Json)
  | some value => [(name, value)]
  | none => []

/-- The text, or null. -/
def ofText? : Option String → Json
  | some text => .str text
  | none => .null

end Json

end Caseflow
