import Caseflow.Calendar.Instant
import Caseflow.Text.Numeral
/-! The text of an instant: date, time of day and offset, as in `2024-01-01T00:00:00Z`. Written
instants are in universal time; read ones may have an offset. -/
namespace Caseflow.Instant

/-! ### Writing -/

/-- The numeral with zeros before it up to the width. -/
def padded (width value : Nat) : List Char :=
  let digits := Text.numeral value
  List.replicate (width - digits.length) '0' ++ digits

/-- Four digits; outside the years 0 to 9999 a sign and at least four digits. -/
def yearText (year : Int) : List Char :=
  if 0 ≤ year ∧ year ≤ 9999 then padded 4 year.natAbs
  else (if year < 0 then '-' else '+') :: padded 4 year.natAbs

/-- The fraction of a second in as few groups of three digits as hold it exactly. -/
def fractionText (nanos : Nat) : List Char :=
  if nanos = 0 then []
  else if nanos % 1000000 = 0 then '.' :: padded 3 (nanos / 1000000)
  else if nanos % 1000 = 0 then '.' :: padded 6 (nanos / 1000)
  else '.' :: padded 9 nanos

/-- The text of the instant in universal time. A leap second is second 60. -/
def text (instant : Instant) : String :=
  let date := CalendarDate.ofDays (instant.seconds / 86400)
  let second := (instant.seconds % 86400).toNat
  let leap := if instant.isLeap then 1 else 0
  String.ofList <|
    yearText date.year ++ '-' :: padded 2 date.month ++ '-' :: padded 2 date.day ++
    'T' :: padded 2 (second / 3600) ++ ':' :: padded 2 (second / 60 % 60) ++
    ':' :: padded 2 (second % 60 + leap) ++
    fractionText (instant.nanos - leap * nanosPerSecond) ++ ['Z']

/-! ### Reading -/

/-- A number of exactly `width` digits at the front. -/
def readDigits (width : Nat) (text : List Char) : Option (Nat × List Char) :=
  let front := text.take width
  if front.length = width then (Text.digits? front).map fun value => (value, text.drop width)
  else none

/-- A character that must stand at the front. -/
def expect (allowed : Char → Bool) : List Char → Option (List Char)
  | c :: rest => if allowed c then some rest else none
  | [] => none

/-- A year of exactly four digits, or, where signs are allowed, of four digits or more after a
sign. -/
def readYear (signs : Bool) (text : List Char) : Option (Int × List Char) :=
  match text with
  | '+' :: rest => if signs then (readLong rest).map fun (year, rest) => ((year : Int), rest) else none
  | '-' :: rest => if signs then (readLong rest).map fun (year, rest) => (-(year : Int), rest) else none
  | _ => (readDigits 4 text).map fun (year, rest) => ((year : Int), rest)
where
  readLong (text : List Char) : Option (Nat × List Char) :=
    let digits := text.takeWhile Char.isDigit
    if 4 ≤ digits.length then (Text.digits? digits).map fun year => (year, text.drop digits.length)
    else none

/-- A fraction of a second in nanoseconds, zero where there is none; digits past the ninth are
dropped. -/
def readFraction : List Char → Option (Nat × List Char)
  | '.' :: rest =>
    let digits := rest.takeWhile Char.isDigit
    if digits.isEmpty then none
    else
      (Text.digits? ((digits ++ List.replicate 9 '0').take 9)).map fun nanos =>
        (nanos, rest.drop digits.length)
  | text => some (0, text)

/-- An offset from universal time in seconds, up to the end of the text. -/
def readOffset : List Char → Option Int
  | ['Z'] => some 0
  | ['z'] => some 0
  | sign :: rest => do
    let negative ← (if sign = '+' then some false
      else if sign = '-' ∨ sign = '\u2212' then some true else none)
    let (hours, rest) ← readDigits 2 rest
    let rest ← expect (· == ':') rest
    let (minutes, rest) ← readDigits 2 rest
    if rest.isEmpty ∧ hours ≤ 23 ∧ minutes ≤ 59 then
      let offset : Int := (hours * 3600 + minutes * 60 : Nat)
      return if negative then -offset else offset
    else none
  | [] => none

/-- Reads a date, a time of day that may end in second 60, and an offset. -/
def read? (signs : Bool) (text : List Char) : Option Instant := do
  let (year, rest) ← readYear signs text
  let rest ← expect (· == '-') rest
  let (month, rest) ← readDigits 2 rest
  let rest ← expect (· == '-') rest
  let (day, rest) ← readDigits 2 rest
  let rest ← expect (fun c => c == 'T' || c == 't' || c == ' ') rest
  let (hour, rest) ← readDigits 2 rest
  let rest ← expect (· == ':') rest
  let (minute, rest) ← readDigits 2 rest
  let rest ← expect (· == ':') rest
  let (second, rest) ← readDigits 2 rest
  let (nanos, rest) ← readFraction rest
  let offset ← readOffset rest
  let date : CalendarDate := ⟨year, month, day⟩
  if date.isValid ∧ hour ≤ 23 ∧ minute ≤ 59 ∧ second ≤ 60 then
    let leap := second / 60
    withinCalendar?
      ⟨date.toDays * 86400 + (hour * 3600 + minute * 60 + (second - leap) : Nat) - offset,
        nanos + leap * nanosPerSecond⟩
  else none

/-- The instant a free text names: a year of four digits and nothing around the date. -/
def ofFreeText? (text : List Char) : Option Instant :=
  read? false text

/-- The instant a document names; years outside 0 to 9999 carry a sign. -/
def ofText? (text : String) : Option Instant :=
  read? true text.toList

end Caseflow.Instant
