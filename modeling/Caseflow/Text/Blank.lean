/-! Blank characters: the Unicode property `White_Space`, and the text between the blanks at both
ends. -/
namespace Caseflow.Text

/-- The characters with the Unicode property `White_Space`. -/
def isBlank (c : Char) : Bool :=
  let point := c.toNat
  (0x9 ≤ point && point ≤ 0xD) || point == 0x20 || point == 0x85 || point == 0xA0 ||
    point == 0x1680 || (0x2000 ≤ point && point ≤ 0x200A) || point == 0x2028 ||
    point == 0x2029 || point == 0x202F || point == 0x205F || point == 0x3000

/-- The characters from the first to the last one that is not blank. -/
def trimmed (text : List Char) : List Char :=
  ((text.dropWhile isBlank).reverse.dropWhile isBlank).reverse

/-- The text without the blanks at its ends. -/
def trim (text : String) : String :=
  String.ofList (trimmed text.toList)

/-- Whether the text has nothing but blanks. -/
def isAllBlank (text : String) : Bool :=
  text.toList.all isBlank

end Caseflow.Text
