import Caseflow.Json.Document
import Caseflow.Text.Numeral
/-! The tokens of a JSON text: blanks, strings, numbers and words. A token must be well formed, but
it need not have a value: a string may hold half of a surrogate pair, and a number may be out of
range. -/
namespace Caseflow.Json

/-- The characters that may stand between tokens. -/
def isSpace (c : Char) : Bool :=
  c == ' ' || c == '\n' || c == '\t' || c == '\r'

def skipSpace (text : List Char) : List Char :=
  text.dropWhile isSpace

/-! ### Strings -/

/-- The value of a hexadecimal digit, in either case. -/
def hexDigit? (c : Char) : Option Nat :=
  if '0' ≤ c ∧ c ≤ '9' then some (c.toNat - '0'.toNat)
  else if 'a' ≤ c ∧ c ≤ 'f' then some (c.toNat - 'a'.toNat + 10)
  else if 'A' ≤ c ∧ c ≤ 'F' then some (c.toNat - 'A'.toNat + 10)
  else none

/-- The code unit written by four hexadecimal digits. -/
def codeUnit? (a b c d : Char) : Option Nat := do
  let a ← hexDigit? a
  let b ← hexDigit? b
  let c ← hexDigit? c
  let d ← hexDigit? d
  return ((a * 16 + b) * 16 + c) * 16 + d

def isHighSurrogate (codeUnit : Nat) : Bool :=
  0xD800 ≤ codeUnit && codeUnit < 0xDC00

def isLowSurrogate (codeUnit : Nat) : Bool :=
  0xDC00 ≤ codeUnit && codeUnit < 0xE000

/-- The character that a high and a low surrogate stand for together. -/
def surrogatePair (high low : Nat) : Char :=
  Char.ofNat (0x10000 + (high - 0xD800) * 0x400 + (low - 0xDC00))

/-- The character of an escape of one letter. -/
def escaped? (c : Char) : Option Char :=
  if c = '"' then some '"'
  else if c = '\\' then some '\\'
  else if c = '/' then some '/'
  else if c = 'b' then some '\x08'
  else if c = 'f' then some '\x0c'
  else if c = 'n' then some '\n'
  else if c = 'r' then some '\r'
  else if c = 't' then some '\t'
  else none

/-- A string as written: the characters it stands for, last one first, unless half a surrogate pair
stands in it alone; a first half that waits for the second; and whether it is free of escapes. -/
structure Quoted where
  reversed : Option (List Char) := some []
  high : Option Nat := none
  plain : Bool := true

namespace Quoted

/-- The string with one more character. -/
def push (quoted : Quoted) (c : Char) : Quoted :=
  match quoted.high with
  | none => { quoted with reversed := quoted.reversed.map (c :: ·) }
  | some _ => ⟨none, none, quoted.plain⟩

/-- The string with one more character, written as an escape. -/
def pushEscaped (quoted : Quoted) (c : Char) : Quoted :=
  { quoted.push c with plain := false }

/-- The string with one more code unit, written as an escape. -/
def pushUnit (quoted : Quoted) (unit : Nat) : Quoted :=
  match quoted.high with
  | none =>
    if isHighSurrogate unit then { quoted with high := some unit, plain := false }
    else if isLowSurrogate unit then ⟨none, none, false⟩
    else quoted.pushEscaped (Char.ofNat unit)
  | some high =>
    if isLowSurrogate unit then { quoted with high := none }.pushEscaped (surrogatePair high unit)
    else ⟨none, none, false⟩

/-- The text that the string stands for. -/
def text? (quoted : Quoted) : Option String :=
  match quoted.high with
  | none => quoted.reversed.map fun reversed => String.ofList reversed.reverse
  | some _ => none

def document (quoted : Quoted) : Document :=
  match quoted.text? with
  | some text => .str text
  | none => .unfit

end Quoted

/-- Reads a string up to its closing quote; `held` is the string before. -/
def readString (held : Quoted) : List Char → Option (Quoted × List Char)
  | [] => none
  | '"' :: rest => some (held, rest)
  | '\\' :: 'u' :: a :: b :: c :: d :: rest =>
    match codeUnit? a b c d with
    | some unit => readString (held.pushUnit unit) rest
    | none => none
  | '\\' :: c :: rest =>
    match escaped? c with
    | some c => readString (held.pushEscaped c) rest
    | none => none
  | c :: rest => if c.toNat < 0x20 || c == '\\' then none else readString (held.push c) rest

/-! ### Numbers -/

/-- The digits at the front, and the rest. -/
def spanDigits (text : List Char) : List Nat × List Char :=
  ((text.takeWhile Char.isDigit).filterMap Text.digit?, text.dropWhile Char.isDigit)

/-- A number as written. Without a fraction there are no fraction digits. -/
structure Numeral where
  negative : Bool
  whole : List Nat
  fraction : List Nat
  exponent : Option Int

/-- An exponent part after its letter: a sign or none, and digits. -/
def readExponent (text : List Char) : Option (Int × List Char) :=
  let signed : Bool × List Char := match text with
    | '-' :: rest => (true, rest)
    | '+' :: rest => (false, rest)
    | rest => (false, rest)
  let (digits, rest) := spanDigits signed.2
  if digits.isEmpty then none
  else
    let value : Nat := digits.foldl (fun value digit => 10 * value + digit) 0
    some (if signed.1 then -(value : Int) else value, rest)

/-- A number after its sign: no needless leading zero, and a digit on each side of a point. -/
def readNumeral (negative : Bool) (text : List Char) : Option (Numeral × List Char) := do
  let (whole, rest) := spanDigits text
  match whole with
  | [] => none
  | 0 :: _ :: _ => none
  | _ =>
    let (fraction, rest) ← (match rest with
      | '.' :: rest =>
        let (digits, rest) := spanDigits rest
        if digits.isEmpty then none else some (digits, rest)
      | rest => some ([], rest))
    let (exponent, rest) ← (match rest with
      | 'e' :: rest => (readExponent rest).map fun (power, rest) => (some power, rest)
      | 'E' :: rest => (readExponent rest).map fun (power, rest) => (some power, rest)
      | rest => some (none, rest))
    return ({ negative, whole, fraction, exponent }, rest)

/-- A significand below `2 ^ 64`, how many digits were added to it, and how many were left out. Once
a digit does not fit, it and all later digits are left out. -/
structure Significand where
  value : Nat
  taken : Nat
  dropped : Nat

def Significand.push (held : Significand) (digit : Nat) : Significand :=
  let value := 10 * held.value + digit
  if 0 < held.dropped || 18446744073709551615 < value then
    { held with dropped := held.dropped + 1 }
  else { held with value := value, taken := held.taken + 1 }

def Significand.pushAll (held : Significand) (digits : List Nat) : Significand :=
  digits.foldl Significand.push held

/-- The number written. Without a fraction, an exponent or too many digits it is whole, but a
negative zero or a whole number below the 64-bit range is a floating-point number, and a number
beyond all of these is none. -/
def Numeral.document (numeral : Numeral) : Document :=
  let whole := Significand.pushAll ⟨0, 0, 0⟩ numeral.whole
  let tooLow := numeral.negative && (whole.value == 0 || 9223372036854775808 < whole.value)
  if numeral.fraction.isEmpty && numeral.exponent.isNone && whole.dropped == 0 && !tooLow then
    .int (if numeral.negative then -(whole.value : Int) else whole.value)
  else
    let all := Significand.pushAll ⟨whole.value, 0, 0⟩ numeral.fraction
    let power : Int := (whole.dropped : Int) - all.taken + numeral.exponent.getD 0
    match Binary64.ofDecimal? numeral.negative all.value power with
    | some value => .float value
    | none => .unfit

/-! ### Parts without parts -/

/-- Reads a text that must stand at the front. -/
def readWord (word : List Char) (text : List Char) : Option (List Char) :=
  if word.isPrefixOf text then some (text.drop word.length) else none

/-- Reads what is neither an array nor an object. -/
def readScalar : List Char → Option (Document × List Char)
  | 'n' :: rest => (readWord ['u', 'l', 'l'] rest).map fun rest => (.null, rest)
  | 't' :: rest => (readWord ['r', 'u', 'e'] rest).map fun rest => (.bool true, rest)
  | 'f' :: rest => (readWord ['a', 'l', 's', 'e'] rest).map fun rest => (.bool false, rest)
  | '"' :: rest => (readString {} rest).map fun (quoted, rest) => (quoted.document, rest)
  | '-' :: rest => (readNumeral true rest).map fun (numeral, rest) => (numeral.document, rest)
  | rest => (readNumeral false rest).map fun (numeral, rest) => (numeral.document, rest)

end Caseflow.Json
