import Caseflow.Calendar.Timestamp
import Caseflow.Json.Value
import Caseflow.Text.Blank
/-! Due dates: a date, or a positive number of milliseconds from now. Anything else is none. -/
namespace Caseflow.DueDate

/-- The instant this many milliseconds from now; none for zero and for negative numbers. -/
def ofOffset? (now : Instant) (millis : Int) : Option Instant :=
  if 0 < millis then now.addMillis? millis.toNat else none

/-- A text, blanks around it aside, is a number of milliseconds if it is a numeral of 64 bits, and
else a date. -/
def ofText? (now : Instant) (text : String) : Option Instant :=
  let trimmed := Text.trim text
  match Text.int64? trimmed with
  | some millis => ofOffset? now millis
  | none => Instant.ofFreeText? trimmed.toList

/-- The due date that an interpolated template stands for (`resolve_due_date`). -/
def ofValue? (now : Instant) : Json → Option Instant
  | .int value => (Text.withinInt64? value).bind (ofOffset? now)
  | .str text => ofText? now text
  | _ => none

end Caseflow.DueDate
