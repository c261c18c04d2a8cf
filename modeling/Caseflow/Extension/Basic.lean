import Caseflow.World.Basic
/-! Extensions: guards, validators, functions and registers, found by the name of their type. Each
name stands for a maker, which looks at the interpolated arguments and may refuse them. A guard, a
validator and a register only look; a function acts, by a program whose every step is open to
view. -/
namespace Caseflow

/-- Decides from the scope, its arguments and the properties (`Condition`). -/
abbrev Guard := Scope → Args → Values → Except Failure Bool

/-- Accepts the inputs, or fails. -/
abbrev Validator := Scope → Args → Values → Except Failure Unit

/-- Computes the value of a variable from the caller, the entry, its arguments and the
properties. -/
abbrev Register := Option String → Entry → Args → Values → Except Failure Json

/-- The program of a function. It looks at the scope and the properties, changes the scope, sets and
removes properties of the entry, and puts requests to the store, going on with the answers. -/
inductive Program where
  | done
  | fail (failure : Failure)
  | look (next : Scope → Values → Program)
  | amend (change : Scope → Scope) (next : Program)
  | putProperty (name : String) (value : Json) (next : Program)
  | dropProperty (name : String) (next : Program)
  | ask (request : StoreRequest) (next : Except StoreError request.Answer → Program)

namespace Program

/-- Sets a variable of the scope. -/
def assign (name : String) (value : Json) (next : Program) : Program :=
  .amend (·.assign name value) next

end Program

/-- The function of an extension (`FunctionProvider`): a program for its arguments. -/
abbrev Function := Args → Program

/-- The extensions by type name (`ExtensionRegistry`), one name space for each kind. -/
structure Extensions where
  guards : SortedMap String (Args → Except Failure Guard) := ∅
  validators : SortedMap String (Args → Except Failure Validator) := ∅
  functions : SortedMap String (Args → Except Failure Function) := ∅
  registers : SortedMap String (Args → Except Failure Register) := ∅
  deriving Inhabited

namespace Extensions

/-! ### Registration -/

/-- Adds what makes a guard of its arguments (`register_condition_factory`). -/
def addGuardMaker (extensions : Extensions) (type : String)
    (make : Args → Except Failure Guard) : Extensions :=
  { extensions with guards := extensions.guards.insert type make }

def addValidatorMaker (extensions : Extensions) (type : String)
    (make : Args → Except Failure Validator) : Extensions :=
  { extensions with validators := extensions.validators.insert type make }

def addFunctionMaker (extensions : Extensions) (type : String)
    (make : Args → Except Failure Function) : Extensions :=
  { extensions with functions := extensions.functions.insert type make }

def addRegisterMaker (extensions : Extensions) (type : String)
    (make : Args → Except Failure Register) : Extensions :=
  { extensions with registers := extensions.registers.insert type make }

/-- Adds a guard that takes any arguments (`register_condition`). -/
def addGuard (extensions : Extensions) (type : String) (guard : Guard) : Extensions :=
  extensions.addGuardMaker type fun _ => .ok guard

def addValidator (extensions : Extensions) (type : String) (validator : Validator) : Extensions :=
  extensions.addValidatorMaker type fun _ => .ok validator

def addFunction (extensions : Extensions) (type : String) (function : Function) : Extensions :=
  extensions.addFunctionMaker type fun _ => .ok function

def addRegister (extensions : Extensions) (type : String) (register : Register) : Extensions :=
  extensions.addRegisterMaker type fun _ => .ok register

/-! ### Resolution -/

/-- Whether a type name is registered (`contains`). -/
def has (extensions : Extensions) (kind : ExtensionKind) (type : String) : Bool :=
  match kind with
  | .condition => extensions.guards.contains type
  | .validator => extensions.validators.contains type
  | .function => extensions.functions.contains type
  | .register => extensions.registers.contains type

/-- What the maker of a type name gives for the arguments (`resolve_condition` and its
siblings). -/
def make {α : Type} (makers : SortedMap String (Args → Except Failure α)) (kind : ExtensionKind)
    (type : String) (args : Args) : Except Failure α :=
  match makers.get? type with
  | some make => make args
  | none => .error (.extensionNotFound kind type)

def guard (extensions : Extensions) : String → Args → Except Failure Guard :=
  make extensions.guards .condition

def validator (extensions : Extensions) : String → Args → Except Failure Validator :=
  make extensions.validators .validator

def function (extensions : Extensions) : String → Args → Except Failure Function :=
  make extensions.functions .function

def register (extensions : Extensions) : String → Args → Except Failure Register :=
  make extensions.registers .register

end Extensions

end Caseflow
