/-! Instants of universal time, to the nanosecond, and the days of the proleptic Gregorian
calendar in the years that it covers here. -/
namespace Caseflow

/-- Seconds since the start of 1970 and nanoseconds within the second. From `10 ^ 9` nanoseconds on,
the instant lies in a leap second that follows the second. -/
structure Instant where
  seconds : Int
  nanos : Nat
  deriving DecidableEq, Repr, Inhabited

namespace Instant

def nanosPerSecond : Nat := 1000000000

def isLeap (instant : Instant) : Bool :=
  nanosPerSecond ≤ instant.nanos

end Instant

/-- A day of the calendar. -/
structure CalendarDate where
  year : Int
  month : Nat
  day : Nat
  deriving DecidableEq, Repr

namespace CalendarDate

def isLeapYear (year : Int) : Bool :=
  year % 4 == 0 && (year % 100 != 0 || year % 400 == 0)

def daysInMonth (year : Int) (month : Nat) : Nat :=
  if month = 2 then (if isLeapYear year then 29 else 28)
  else if month = 4 ∨ month = 6 ∨ month = 9 ∨ month = 11 then 30
  else 31

/-- The first year of the calendar. -/
def firstYear : Int := -262143

/-- The last year of the calendar. -/
def lastYear : Int := 262142

/-- The months run from 1 to 12 and the days from 1 to the last of the month, in the years of the
calendar. -/
def isValid (date : CalendarDate) : Bool :=
  firstYear ≤ date.year && date.year ≤ lastYear && 1 ≤ date.month && date.month ≤ 12 &&
    1 ≤ date.day && date.day ≤ daysInMonth date.year date.month

/-- Days since the first of January 1970. Years are counted from March, so that the leap day comes
last, in eras of 400 years, which have 146097 days. -/
def toDays (date : CalendarDate) : Int :=
  let year : Int := if date.month ≤ 2 then date.year - 1 else date.year
  let era := year / 400
  let yearOfEra := year - era * 400
  let dayOfYear : Int := ((153 * ((date.month + 9) % 12) + 2) / 5 + date.day : Nat) - 1
  let dayOfEra := yearOfEra * 365 + yearOfEra / 4 - yearOfEra / 100 + dayOfYear
  era * 146097 + dayOfEra - 719468

/-- The date of a day counted from the first of January 1970. -/
def ofDays (days : Int) : CalendarDate :=
  let shifted := days + 719468
  let era := shifted / 146097
  let dayOfEra := shifted - era * 146097
  let yearOfEra := (dayOfEra - dayOfEra / 1460 + dayOfEra / 36524 - dayOfEra / 146096) / 365
  let dayOfYear := dayOfEra - (365 * yearOfEra + yearOfEra / 4 - yearOfEra / 100)
  let fromMarch := (5 * dayOfYear + 2) / 153
  let day := dayOfYear - (153 * fromMarch + 2) / 5 + 1
  let month := if fromMarch < 10 then fromMarch + 3 else fromMarch - 9
  let year := yearOfEra + era * 400
  ⟨if month ≤ 2 then year + 1 else year, month.toNat, day.toNat⟩

end CalendarDate

namespace Instant

/-- The first second of the calendar. -/
def firstSecond : Int :=
  CalendarDate.toDays ⟨CalendarDate.firstYear, 1, 1⟩ * 86400

/-- The last second of the calendar. -/
def lastSecond : Int :=
  CalendarDate.toDays ⟨CalendarDate.lastYear, 12, 31⟩ * 86400 + 86399

/-- The instant, if its second lies within the calendar. A leap second has the day of the second
that it follows. -/
def withinCalendar? (instant : Instant) : Option Instant :=
  if firstSecond ≤ instant.seconds ∧ instant.seconds ≤ lastSecond then some instant else none

/-- The instant this many milliseconds later, unless it lies beyond the calendar. A leap second is
left as if it were the second before it, unless the sum still lies inside it. -/
def addMillis? (instant : Instant) (millis : Nat) : Option Instant :=
  let whole := millis / 1000
  let part := millis % 1000 * 1000000
  if instant.isLeap && whole == 0 && instant.nanos + part < 2 * nanosPerSecond then
    withinCalendar? ⟨instant.seconds, instant.nanos + part⟩
  else
    let nanos := (if instant.isLeap then instant.nanos - nanosPerSecond else instant.nanos) + part
    withinCalendar?
      ⟨instant.seconds + whole + (nanos / nanosPerSecond : Nat), nanos % nanosPerSecond⟩

end Instant

end Caseflow
