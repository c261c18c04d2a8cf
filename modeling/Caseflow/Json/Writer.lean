import Caseflow.Json.Value
import Caseflow.Decimal.Shortest
/-! The compact text of a JSON value: no blanks, and escapes only where a string needs them. -/
namespace Caseflow.Json

/-- The last hexadecimal digit of a number, in lower case. -/
def lowHexDigit (value : Nat) : Char :=
  Nat.digitChar (value % 16)

/-- How a character stands in a string. A quote, a backslash and the control characters are
escaped, all others stand for themselves. -/
def writeChar (c : Char) : List Char :=
  if c = '"' then ['\\', '"']
  else if c = '\\' then ['\\', '\\']
  else if c = '\x08' then ['\\', 'b']
  else if c = '\x0c' then ['\\', 'f']
  else if c = '\n' then ['\\', 'n']
  else if c = '\r' then ['\\', 'r']
  else if c = '\t' then ['\\', 't']
  else if c.toNat < 0x20 then
    ['\\', 'u', '0', '0', lowHexDigit (c.toNat / 16), lowHexDigit c.toNat]
  else [c]

/-- The characters between the quotes. -/
def writeChars (text : List Char) : List Char :=
  text.flatMap writeChar

def writeText (text : String) : String :=
  "\"" ++ String.ofList (writeChars text.toList) ++ "\""

mutual

/-- The compact text of the value. -/
def compact : Json → String
  | .null => "null"
  | .bool value => if value then "true" else "false"
  | .int value => Text.integerText value
  | .float value => String.ofList value.text
  | .str value => writeText value
  | .arr items => "[" ++ compactItems items ++ "]"
  | .obj members => "\x7b" ++ compactMembers members ++ "\x7d"

/-- The items with commas between them. -/
def compactItems : List Json → String
  | [] => ""
  | [item] => item.compact
  | item :: rest => item.compact ++ "," ++ compactItems rest

/-- The members with commas between them. -/
def compactMembers : List (String × Json) → String
  | [] => ""
  | [(name, value)] => writeText name ++ ":" ++ value.compact
  | (name, value) :: rest => writeText name ++ ":" ++ value.compact ++ "," ++ compactMembers rest

end

/-- The text of a value where text is wanted: a string is bare, null is empty, and any other value
is its compact text. -/
def plainText : Json → String
  | .null => ""
  | .str text => text
  | value => value.compact

/-- The text that a value is compared by (`value_matches`): a string is bare, any other value is
its compact text. -/
def comparisonText : Json → String
  | .str text => text
  | value => value.compact

end Caseflow.Json
