import Caseflow.Text.Blank
/-! Templates: text with references between `${` and the next `}`. A reference holds whatever stands
between the two, and an opening that is never closed is plain text. -/
namespace Caseflow

/-- A text taken apart: literals, each followed by a reference, and the literal after the last
one. -/
structure Template where
  segments : List (List Char × List Char)
  tail : List Char
  deriving DecidableEq, Repr, Inhabited

namespace Template

/-- Puts a literal and a reference in front. -/
def precede (before reference : List Char) (template : Template) : Template :=
  { template with segments := (before, reference) :: template.segments }

mutual

/-- Takes a text apart; `done` holds the literal so far, last character first. -/
def parseLiteral (done : List Char) : List Char → Template
  | [] => ⟨[], done.reverse⟩
  | '$' :: '\x7b' :: rest => parseReference done [] rest
  | c :: rest => parseLiteral (c :: done) rest

/-- Goes on inside a reference; `before` is the literal in front of it and `done` the reference so
far, both last character first. -/
def parseReference (before done : List Char) : List Char → Template
  | [] => ⟨[], before.reverse ++ '$' :: '\x7b' :: done.reverse⟩
  | '\x7d' :: rest => (parseLiteral [] rest).precede before.reverse done.reverse
  | c :: rest => parseReference before (c :: done) rest

end

/-- Takes a text apart. -/
def parse (text : List Char) : Template :=
  parseLiteral [] text

/-- The text with every reference replaced by its value. -/
def fill (value : List Char → List Char) (template : Template) : List Char :=
  template.segments.flatMap (fun segment => segment.1 ++ value segment.2) ++ template.tail

theorem fill_precede (value : List Char → List Char) (before reference : List Char)
    (template : Template) :
    (template.precede before reference).fill value =
      before ++ value reference ++ template.fill value := by
  simp [fill, precede]

/-- A reference as it is written. -/
def written (reference : List Char) : List Char :=
  '$' :: '\x7b' :: reference ++ ['\x7d']

/-- Whether `${` stands anywhere in the text. -/
def hasOpening : List Char → Bool
  | [] => false
  | '$' :: '\x7b' :: _ => true
  | _ :: rest => hasOpening rest

/-- The reference that the text is, blanks around it aside, if it is one and holds no opening. -/
def sole? (text : List Char) : Option (List Char) :=
  match parse (Text.trimmed text) with
  | ⟨[([], reference)], []⟩ => if hasOpening reference then none else some reference
  | _ => none

end Template

end Caseflow
