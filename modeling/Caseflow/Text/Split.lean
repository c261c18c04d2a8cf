/-! Splitting text at a separator. -/
namespace Caseflow.Text

/-- The parts of a text between the separators, at least one. -/
def splitAtEach (separator : Char) : List Char → List (List Char)
  | [] => [[]]
  | c :: rest =>
    if c = separator then [] :: splitAtEach separator rest
    else
      match splitAtEach separator rest with
      | part :: parts => (c :: part) :: parts
      | [] => [[c]]

end Caseflow.Text
