import Caseflow.Scope
import Caseflow.Template
import Caseflow.Text.Split
import Caseflow.Json.Writer
/-! Interpolation of templates. A reference names a variable of the scope or a property of the
entry, and may go on, after dots, into the members of objects and the items of arrays. What is put
in is never looked at for references again. -/
namespace Caseflow

/-- Turns a template into a value (`VariableResolver`); a reference to nothing has none. -/
abbrev Resolver := Scope → Values → String → Option Json

namespace Json

/-- The member of an object or the item of an array. -/
def child? (name : String) : Json → Option Json
  | .obj members => findPair? name members
  | .arr items => (Text.position? name).bind fun position => items[position]?
  | _ => none

/-- Follows a path into a value. -/
def descend? (value : Json) : List String → Option Json
  | [] => some value
  | name :: rest => (value.child? name).bind fun inner => inner.descend? rest

end Json

namespace Interpolation

/-- The value of a root name: from the scope, else from the properties. -/
def root? (scope : Scope) (properties : Values) (name : String) : Option Json :=
  (scope.lookup? name).or (properties.get? name)

/-- The names along a reference, the root first. -/
def path (reference : List Char) : List String :=
  (Text.splitAtEach '.' (Text.trimmed reference)).map String.ofList

/-- The value of a reference (`resolve`). -/
def reference? (scope : Scope) (properties : Values) (reference : List Char) : Option Json :=
  match path reference with
  | [] => none
  | root :: rest => (root? scope properties root).bind fun value => value.descend? rest

/-- The text of a value that may be absent (`render`); nothing and null are empty. -/
def rendered (value : Option Json) : String :=
  (value.map Json.plainText).getD ""

/-- A text without references stands for itself. One that is a reference, blanks around it aside,
has the value of the reference. In any other the references are replaced by their texts
(`translate_variables`). -/
def resolve : Resolver := fun scope properties text =>
  let chars := text.toList
  if !Template.hasOpening chars then some (.str text)
  else
    match Template.sole? chars with
    | some reference => reference? scope properties reference
    | none =>
      some (.str (String.ofList ((Template.parse chars).fill fun reference =>
        (rendered (reference? scope properties reference)).toList)))

end Interpolation

namespace Resolver

/-- The text of an interpolated template (`translate`). -/
def text (resolver : Resolver) (scope : Scope) (properties : Values) (template : String) :
    String :=
  Interpolation.rendered (resolver scope properties template)

/-- Interpolates every argument (`translate_args`). -/
def args (resolver : Resolver) (scope : Scope) (properties : Values) (args : Args) : Args :=
  args.mapValues (resolver.text scope properties)

end Resolver

end Caseflow
