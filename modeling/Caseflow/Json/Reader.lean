import Caseflow.Json.Token
/-! Reading JSON text, strictly: one value, blanks only between tokens and no trailing commas. What
is read keeps the members of an object in the order, and as often, as the text gives them. Values
can be asked for at 127 arrays and objects inside one another; a text may nest deeper only in parts
that are passed over. -/
namespace Caseflow.Json

/-! ### Passing over a part -/

/-- An array or an object that is not closed yet. -/
inductive Bracket where
  | array
  | object
  deriving DecidableEq, Repr

/-- What must come next: a value, the name of a member and its value, or what follows a value. -/
inductive Awaited where
  | value
  | member
  | next
  deriving DecidableEq, Repr

/-- Passes over what is awaited and over the rest of the open brackets, innermost first. Each step
but the last consumes a character; `fuel` bounds the steps. -/
def pass : Nat → Awaited → List Bracket → List Char → Option (List Char)
  | 0, _, _, _ => none
  | fuel + 1, .value, enclosing, text =>
    match skipSpace text with
    | '[' :: rest =>
      match skipSpace rest with
      | ']' :: rest => pass fuel .next enclosing rest
      | rest => pass fuel .value (.array :: enclosing) rest
    | '\x7b' :: rest =>
      match skipSpace rest with
      | '\x7d' :: rest => pass fuel .next enclosing rest
      | rest => pass fuel .member (.object :: enclosing) rest
    | text =>
      match readScalar text with
      | some (_, rest) => pass fuel .next enclosing rest
      | none => none
  | fuel + 1, .member, enclosing, text =>
    match skipSpace text with
    | '"' :: rest =>
      match readString {} rest with
      | some (_, rest) =>
        match skipSpace rest with
        | ':' :: rest => pass fuel .value enclosing rest
        | _ => none
      | none => none
    | _ => none
  | _ + 1, .next, [], text => some text
  | fuel + 1, .next, .array :: enclosing, text =>
    match skipSpace text with
    | ',' :: rest => pass fuel .value (.array :: enclosing) rest
    | ']' :: rest => pass fuel .next enclosing rest
    | _ => none
  | fuel + 1, .next, .object :: enclosing, text =>
    match skipSpace text with
    | ',' :: rest => pass fuel .member (.object :: enclosing) rest
    | '\x7d' :: rest => pass fuel .next enclosing rest
    | _ => none

/-- Passes over a part that no value can be asked of. -/
def passUnfit (fuel : Nat) (awaited : Awaited) (enclosing : List Bracket) (text : List Char) :
    Option (Document × List Char) :=
  (pass fuel awaited enclosing text).map fun rest => (.unfit, rest)

/-! ### Reading a part -/

/-- An object that is read up to some member: whether its names are plain so far, and its members,
last one first. -/
structure OpenObject where
  plain : Bool := true
  reversed : List (String × Document) := []

namespace OpenObject

def push (held : OpenObject) (plain : Bool) (name : String) (part : Document) : OpenObject :=
  ⟨held.plain && plain, (name, part) :: held.reversed⟩

def document (held : OpenObject) : Document :=
  .obj held.plain held.reversed.reverse

end OpenObject

mutual

/-- Reads one part. `fuel` bounds the calls and `nesting` the arrays and objects still allowed. -/
def readPart : Nat → Nat → List Char → Option (Document × List Char)
  | 0, _, _ => none
  | fuel + 1, nesting, text =>
    match skipSpace text with
    | '[' :: rest =>
      match nesting with
      | 0 => passUnfit fuel .value [] ('[' :: rest)
      | nesting + 1 =>
        match skipSpace rest with
        | ']' :: rest => some (.arr [], rest)
        | rest => readItems fuel nesting [] rest
    | '\x7b' :: rest =>
      match nesting with
      | 0 => passUnfit fuel .value [] ('\x7b' :: rest)
      | nesting + 1 =>
        match skipSpace rest with
        | '\x7d' :: rest => some (.obj true [], rest)
        | rest => readMembers fuel nesting {} rest
    | text => readScalar text

/-- Reads the rest of an array from an item on; `done` holds the items before, last one first. -/
def readItems : Nat → Nat → List Document → List Char → Option (Document × List Char)
  | 0, _, _, _ => none
  | fuel + 1, nesting, done, text =>
    match readPart fuel nesting text with
    | none => none
    | some (item, rest) =>
      match skipSpace rest with
      | ',' :: rest => readItems fuel nesting (item :: done) rest
      | ']' :: rest => some (.arr (item :: done).reverse, rest)
      | _ => none

/-- Reads the rest of an object from a member on; `held` is the object before. A name with half a
surrogate pair in it leaves the whole object unfit, since whoever looks for a member looks at all
names. -/
def readMembers : Nat → Nat → OpenObject → List Char → Option (Document × List Char)
  | 0, _, _, _ => none
  | fuel + 1, nesting, held, text =>
    match skipSpace text with
    | '"' :: rest =>
      match readString {} rest with
      | none => none
      | some (quoted, after) =>
        match quoted.text? with
        | none => passUnfit fuel .member [.object] ('"' :: rest)
        | some name =>
          match skipSpace after with
          | ':' :: rest =>
            match readPart fuel nesting rest with
            | none => none
            | some (part, rest) =>
              match skipSpace rest with
              | ',' :: rest => readMembers fuel nesting (held.push quoted.plain name part) rest
              | '\x7d' :: rest => some ((held.push quoted.plain name part).document, rest)
              | _ => none
          | _ => none
    | _ => none

end

/-- Reads a text that is one document; each call but the first consumes a character. -/
def Document.ofText? (text : String) : Option Document :=
  let chars := text.toList
  match readPart (2 * chars.length + 3) 127 chars with
  | some (document, rest) => if (skipSpace rest).isEmpty then some document else none
  | none => none

/-- Reads a text that is one value, with a value in each of its parts. -/
def read? (text : String) : Option Json :=
  (Document.ofText? text).bind Document.value?

end Caseflow.Json
