/-! Decimal numerals: digits with an optional sign, read within the range of a machine integer.
A numeral has at least one digit and nothing but digits after its sign. -/
namespace Caseflow.Text

/-- The value of an ASCII digit. -/
def digit? (c : Char) : Option Nat :=
  if '0' ≤ c ∧ c ≤ '9' then some (c.toNat - '0'.toNat) else none

/-- The value of a run of digits that follows digits worth `value`. -/
def continueNumeral? (value : Nat) : List Char → Option Nat
  | [] => some value
  | c :: rest => (digit? c).bind fun digit => continueNumeral? (10 * value + digit) rest

/-- The value of one or more digits. -/
def digits? : List Char → Option Nat
  | [] => none
  | text => continueNumeral? 0 text

/-- A numeral that may carry a plus sign. -/
def natural? : List Char → Option Nat
  | '+' :: rest => digits? rest
  | text => digits? text

/-- A numeral that may carry a plus or a minus sign. -/
def integer? : List Char → Option Int
  | '-' :: rest => (digits? rest).map fun value => -(value : Int)
  | '+' :: rest => (digits? rest).map Int.ofNat
  | text => (digits? text).map Int.ofNat

/-- The integers of 32 bits. -/
def int32OfInt? (value : Int) : Option Int32 :=
  if -2147483648 ≤ value ∧ value ≤ 2147483647 then some (Int32.ofInt value) else none

/-- A signed numeral within 32 bits. -/
def int32? (text : String) : Option Int32 :=
  (integer? text.toList).bind int32OfInt?

/-- The integers of 64 bits. -/
def withinInt64? (value : Int) : Option Int :=
  if -9223372036854775808 ≤ value ∧ value ≤ 9223372036854775807 then some value else none

/-- A signed numeral within 64 bits. -/
def int64? (text : String) : Option Int :=
  (integer? text.toList).bind withinInt64?

/-- A position in a list, a numeral below `2 ^ 64`. -/
def position? (text : String) : Option Nat :=
  (natural? text.toList).filter (· < 18446744073709551616)

/-- The decimal numeral of a natural number, without leading zeros. -/
def numeral (value : Nat) : List Char :=
  Nat.toDigits 10 value

/-- The decimal numeral of an integer, with a minus sign if it is negative. -/
def integerText (value : Int) : String :=
  String.ofList (if value < 0 then '-' :: numeral value.natAbs else numeral value.natAbs)

end Caseflow.Text
