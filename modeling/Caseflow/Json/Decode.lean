import Caseflow.Json.Document
import Caseflow.Text.Numeral
/-! Reading typed data out of documents. A document of named members may leave out a member that
has a default, may leave out or null an optional one, and may hold members nobody asks for, whatever
stands in them; but no member that is asked for may stand in it twice. A map, in contrast, keeps the
last of equal keys. -/
namespace Caseflow.Json

/-- The members of a document. -/
abbrev Members := List (String × Document)

namespace Document

def asBool? : Document → Option Bool
  | .bool value => some value
  | _ => none

def asText? : Document → Option String
  | .str value => some value
  | _ => none

/-- A whole number of 32 bits. -/
def asInt32? : Document → Option Int32
  | .int value => Text.int32OfInt? value
  | _ => none

/-- A whole number from 0 to below `2 ^ 64`. -/
def asNat? : Document → Option Nat
  | .int value => if 0 ≤ value ∧ value < 18446744073709551616 then some value.toNat else none
  | _ => none

/-- Every item of an array, read by `read`. -/
def asList? {α : Type} (read : Document → Option α) : Document → Option (List α)
  | .arr items => items.mapM read
  | _ => none

def asMembers? : Document → Option Members
  | .obj _ members => some members
  | _ => none

/-- The members, where every name stands for itself. -/
def asPlainMembers? : Document → Option Members
  | .obj true members => some members
  | _ => none

/-- A map from names to texts. -/
def asTexts? : Document → Option (SortedMap String String)
  | .obj _ members =>
    (members.mapM fun (member : String × Document) =>
      member.2.asText?.map fun text => (member.1, text)).map SortedMap.ofList
  | _ => none

/-- The single member of an object. -/
def asTagged? : Document → Option (String × Document)
  | .obj _ [member] => some member
  | _ => none

end Document

namespace Members

/-- The parts given under a name. -/
def named (members : Members) (name : String) : List Document :=
  (members.filter fun member => member.1 = name).map (·.2)

/-- A member that must be there. -/
def required {α : Type} (members : Members) (name : String) (read : Document → Option α) :
    Option α :=
  match members.named name with
  | [part] => read part
  | _ => none

/-- A member that stands for `fallback` where it is left out. -/
def defaulted {α : Type} (members : Members) (name : String) (read : Document → Option α)
    (fallback : α) : Option α :=
  match members.named name with
  | [] => some fallback
  | [part] => read part
  | _ => none

/-- A member that may be left out or null. -/
def optional {α : Type} (members : Members) (name : String) (read : Document → Option α) :
    Option (Option α) :=
  match members.named name with
  | [] => some none
  | [.null] => some none
  | [part] => (read part).map some
  | _ => none

end Members

end Caseflow.Json
