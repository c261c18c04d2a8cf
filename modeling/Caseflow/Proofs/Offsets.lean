import Caseflow.Proofs.Arrangements
import Caseflow.Proofs.Numerals
import Caseflow.Proofs.Substitution
/-! Due dates that are given as offsets. An offset is a whole number of milliseconds, written out
in a template, or named there as a number or as a text. All three come to the same: that many
milliseconds from now, exactly, where the number is positive, not too large for 64 bits, and does
not lead beyond the calendar, and else nothing. Whatever a due date comes to, the step is created
as it would be without. -/
namespace Caseflow

namespace Instant

/-! ### Instants as numbers -/

/-- The instant lies in the calendar, and not in a leap second. -/
structure Regular (instant : Instant) : Prop where
  begun : firstSecond ≤ instant.seconds
  ended : instant.seconds ≤ lastSecond
  whole : instant.nanos < nanosPerSecond

/-- The order of instants in time. -/
def Before (earlier later : Instant) : Prop :=
  earlier.seconds < later.seconds ∨
    earlier.seconds = later.seconds ∧ earlier.nanos < later.nanos

/-- Nanoseconds since the start of 1970. -/
def toNanos (instant : Instant) : Int :=
  instant.seconds * nanosPerSecond + instant.nanos

/-- The instant this many nanoseconds after the start of 1970. -/
def ofNanos (nanos : Int) : Instant where
  seconds := nanos / nanosPerSecond
  nanos := (nanos % nanosPerSecond).toNat

/-- The last instant of the calendar. -/
def last : Instant :=
  ⟨lastSecond, nanosPerSecond - 1⟩

theorem toNanos_ofNanos (nanos : Int) : (ofNanos nanos).toNanos = nanos := by
  simp only [toNanos, ofNanos, nanosPerSecond]
  omega

theorem before_of_toNanos {earlier later : Instant} (whole : later.nanos < nanosPerSecond)
    (less : earlier.toNanos < later.toNanos) : earlier.Before later := by
  simp only [toNanos, nanosPerSecond] at less whole
  unfold Before
  omega

theorem ofNanos_whole (nanos : Int) : (ofNanos nanos).nanos < nanosPerSecond := by
  simp only [ofNanos, nanosPerSecond]
  omega

/-- Adding milliseconds is exact up to the last instant of the calendar, and none beyond. -/
theorem addMillis?_eq {now : Instant} (regular : now.Regular) (millis : Nat) :
    now.addMillis? millis =
      if now.toNanos + millis * 1000000 ≤ last.toNanos then
        some (ofNanos (now.toNanos + millis * 1000000))
      else none := by
  obtain ⟨begun, -, whole⟩ := regular
  have plain : now.isLeap = false := by simpa [isLeap] using whole
  have sum : ofNanos (now.toNanos + millis * 1000000) =
      ⟨now.seconds + (millis / 1000 : Nat) +
          ((now.nanos + millis % 1000 * 1000000) / nanosPerSecond : Nat),
        (now.nanos + millis % 1000 * 1000000) % nanosPerSecond⟩ := by
    simp only [ofNanos, toNanos, nanosPerSecond, Instant.mk.injEq]
    omega
  have reach : firstSecond ≤ (ofNanos (now.toNanos + millis * 1000000)).seconds ∧
        (ofNanos (now.toNanos + millis * 1000000)).seconds ≤ lastSecond ↔
      now.toNanos + millis * 1000000 ≤ last.toNanos := by
    simp only [ofNanos, toNanos, last, nanosPerSecond]
    omega
  have kept : withinCalendar? (ofNanos (now.toNanos + millis * 1000000)) =
      if now.toNanos + millis * 1000000 ≤ last.toNanos then
        some (ofNanos (now.toNanos + millis * 1000000))
      else none := by
    simp only [withinCalendar?, reach]
  rw [← kept, sum]
  simp only [addMillis?, plain, Bool.false_and, Bool.false_eq_true, ↓reduceIte]

end Instant

/-! ### Numerals are no dates -/

namespace Instant

theorem readYear_of_digits {text : List Char} (digits : ∀ c ∈ text, c.isDigit = true) :
    readYear false text = (readDigits 4 text).map fun (year, rest) => ((year : Int), rest) := by
  unfold readYear
  split
  · exact absurd (digits '+' (List.mem_cons_self ..)) (by decide)
  · exact absurd (digits '-' (List.mem_cons_self ..)) (by decide)
  · rfl

/-- No date is read where there is no hyphen after the year. -/
theorem read?_of_no_hyphen {signs : Bool} {text : List Char}
    (unmarked : ∀ year rest, readYear signs text = some (year, rest) →
      expect (· == '-') rest = none) : read? signs text = none := by
  unfold read?
  cases read : readYear signs text with
  | none => rfl
  | some found =>
    show (expect (· == '-') found.2).bind _ = none
    rw [unmarked found.1 found.2 read]
    rfl

/-- After a year there is a hyphen, which is no digit. -/
theorem ofFreeText?_of_digits {text : List Char} (digits : ∀ c ∈ text, c.isDigit = true) :
    ofFreeText? text = none := by
  have hyphen : expect (· == '-') (text.drop 4) = none := by
    cases rest : text.drop 4 with
    | nil => rfl
    | cons c more =>
      have isDigit := digits c (List.mem_of_mem_drop (rest ▸ List.mem_cons_self ..))
      have other : (c == '-') = false := by
        rw [beq_eq_false_iff_ne]
        rintro rfl
        cases isDigit
      simp only [expect, other, Bool.false_eq_true, ↓reduceIte]
  refine read?_of_no_hyphen fun year rest read => ?_
  rw [readYear_of_digits digits, readDigits] at read
  split at read
  · obtain ⟨⟨_, _⟩, found, same⟩ := Option.map_eq_some_iff.mp read
    obtain ⟨_, -, split⟩ := Option.map_eq_some_iff.mp found
    cases split
    cases same
    exact hyphen
  · cases read

theorem ofFreeText?_integerText (value : Int) : ofFreeText? (Text.integerText value).toList = none := by
  unfold Text.integerText
  rw [String.toList_ofList]
  split
  · rfl
  · exact ofFreeText?_of_digits fun c member => Text.isDigit_of_mem_numeral member

end Instant

/-! ### Offsets -/

namespace DueDate

open Template (IsSole)
open Interpolation (resolve reference?)

variable {now : Instant} {scope : Scope} {properties : Values} {n : Int} {template : String}

/-- What an offset of so many milliseconds comes to. -/
def after? (now : Instant) (n : Int) : Option Instant :=
  if 0 < n ∧ n ≤ 9223372036854775807 ∧ now.toNanos + n * 1000000 ≤ Instant.last.toNanos then
    some (Instant.ofNanos (now.toNanos + n * 1000000))
  else none

/-- The template gives the offset: it is the numeral, or a reference to the number, or a reference
to a text that is the numeral, blanks around it aside. -/
inductive Gives (scope : Scope) (properties : Values) (n : Int) : String → Prop where
  | written : Gives scope properties n (Text.integerText n)
  | number {template : String} {reference : List Char} (sole : IsSole reference template.toList)
      (value : reference? scope properties reference = some (.int n)) :
      Gives scope properties n template
  | quoted {template text : String} {reference : List Char} (sole : IsSole reference template.toList)
      (value : reference? scope properties reference = some (.str text))
      (numeral : Text.trim text = Text.integerText n) : Gives scope properties n template

/-- The value is neither a whole number nor a text. -/
def Timeless : Option Json → Prop
  | some (.int _) | some (.str _) => False
  | _ => True

theorem before_of_after? {instant : Instant} (found : after? now n = some instant) :
    now.Before instant := by
  obtain ⟨⟨positive, -, -⟩, same⟩ := Option.ite_none_right_eq_some.mp found
  cases same
  refine Instant.before_of_toNanos (Instant.ofNanos_whole _) ?_
  rw [Instant.toNanos_ofNanos]
  omega

/-- A number within 64 bits is added where it is positive. -/
theorem bind_ofOffset? (regular : now.Regular) (n : Int) :
    (Text.withinInt64? n).bind (ofOffset? now) = after? now n := by
  unfold Text.withinInt64? after?
  by_cases within : -9223372036854775808 ≤ n ∧ n ≤ 9223372036854775807
  · rw [if_pos within, Option.bind_some, ofOffset?]
    by_cases positive : 0 < n
    · have same : (n.toNat : Int) = n := Int.toNat_of_nonneg (Int.le_of_lt positive)
      rw [if_pos positive, Instant.addMillis?_eq regular, same]
      simp only [positive, within.2, true_and]
    · rw [if_neg positive, if_neg fun held => positive held.1]
  · rw [if_neg within, Option.bind_none, if_neg (by omega)]

theorem ofValue?_int (regular : now.Regular) (n : Int) : ofValue? now (.int n) = after? now n :=
  bind_ofOffset? regular n

/-- A text that is a numeral is the number, also where that is too large to be one of 64 bits. -/
theorem ofValue?_numeral (regular : now.Regular) {text : String}
    (numeral : Text.trim text = Text.integerText n) : ofValue? now (.str text) = after? now n := by
  have read : Text.int64? (Text.integerText n) = Text.withinInt64? n := by
    rw [Text.int64?, Text.integer?_integerText, Option.bind_some]
  rw [← bind_ofOffset? regular, ofValue?, ofText?, numeral, read]
  -- A number beyond 64 bits is read as a date next, and its digits are none.
  cases Text.withinInt64? n with
  | some millis => rfl
  | none => exact Instant.ofFreeText?_integerText n

/-- All three ways of giving an offset come to the same. -/
theorem resolved_of_gives (regular : now.Regular) (gives : Gives scope properties n template) :
    (resolve scope properties template).bind (ofValue? now) = after? now n := by
  cases gives with
  | written =>
    have plain : ¬ Template.opening <:+: (Text.integerText n).toList := by
      rw [← Template.hasOpening_iff, Template.hasOpening_integerText]
      exact Bool.false_ne_true
    rw [Interpolation.resolve_plain plain, Option.bind_some]
    exact ofValue?_numeral regular (Text.trim_integerText n)
  | number sole value =>
    rw [Interpolation.resolve_sole sole, value, Option.bind_some]
    exact ofValue?_int regular n
  | quoted sole value numeral =>
    rw [Interpolation.resolve_sole sole, value, Option.bind_some]
    exact ofValue?_numeral regular numeral

theorem resolved_of_timeless {reference : List Char} (sole : IsSole reference template.toList)
    (timeless : Timeless (reference? scope properties reference)) :
    (resolve scope properties template).bind (ofValue? now) = none := by
  rw [Interpolation.resolve_sole sole]
  cases value : reference? scope properties reference with
  | none => rfl
  | some json =>
    rw [value] at timeless
    cases json with
    | int | str => exact timeless.elim
    | null | bool | float | arr | obj => rfl

/-! ### Spans -/

/-- A span of time as it can be made: its milliseconds are a number of 64 bits, the least one
excepted. -/
structure Span where
  millis : Int
  least : -9223372036854775807 ≤ millis
  most : millis ≤ 9223372036854775807

/-- The span of so many milliseconds, if it can be made. -/
def Span.ofMillis? (millis : Int) : Option Span :=
  if fits : -9223372036854775807 ≤ millis ∧ millis ≤ 9223372036854775807 then
    some ⟨millis, fits.1, fits.2⟩
  else none

/-- The instant at this offset, by way of a span. Where that cannot be made, there is no outcome at
all. -/
def ofSpan? (now : Instant) (millis : Int) : Option (Option Instant) :=
  if 0 < millis then (Span.ofMillis? millis).map fun span => now.addMillis? span.millis.toNat
  else some none

/-- The due date that a value stands for, by way of spans. -/
def bySpans? (now : Instant) : Json → Option (Option Instant)
  | .int value => ((Text.withinInt64? value).map (ofSpan? now)).getD (some none)
  | .str text =>
    ((Text.int64? (Text.trim text)).map (ofSpan? now)).getD
      (some (Instant.ofFreeText? (Text.trim text).toList))
  | _ => some none

theorem ofSpan?_eq {millis value : Int} (within : Text.withinInt64? value = some millis) :
    ofSpan? now millis = some (ofOffset? now millis) := by
  obtain ⟨fits, rfl⟩ : _ ∧ value = millis := by simpa [Text.withinInt64?] using within
  unfold ofSpan? ofOffset?
  split
  · have made : -9223372036854775807 ≤ value ∧ value ≤ 9223372036854775807 := by omega
    rw [Span.ofMillis?, dif_pos made, Option.map_some]
  · rfl

/-- No span is asked for that cannot be made. -/
theorem bySpans?_eq (now : Instant) (value : Json) : bySpans? now value = some (ofValue? now value) := by
  cases value with
  | int value =>
    simp only [bySpans?, ofValue?]
    cases within : Text.withinInt64? value with
    | none => rfl
    | some millis => exact ofSpan?_eq within
  | str text =>
    simp only [bySpans?, ofValue?, ofText?]
    cases read : Text.int64? (Text.trim text) with
    | none => rfl
    | some millis =>
      obtain ⟨value, -, within⟩ := Option.bind_eq_some_iff.mp read
      exact ofSpan?_eq within
  | null | bool | float | arr | obj => rfl

end DueDate

/-! ### Steps with a due date -/

/-- Where two computations go on alike after the same first part, up to a change of the answer,
they come to the same up to that change. -/
theorem Run.andThen_map_fst {σ α β : Type} {first : Run σ α} {next plain : α → Run σ β}
    {change : β → β} {state : σ}
    (alike : ∀ value after, first state = (.ok value, after) →
      (next value after).1 = (plain value after).1.map change) :
    (andThen first next state).1 = (andThen first plain state).1.map change := by
  unfold andThen
  split
  · rename_i value after reached
    exact alike value after reached
  · rfl

theorem Run.andThen_done_fst {σ α β : Type} (first : Run σ α) (change : α → β) (state : σ) :
    (andThen first (fun value => done (change value)) state).1 = (first state).1.map change := by
  unfold andThen
  cases (first state) with
  | mk result after => cases result <;> rfl

theorem Turn.onWorld_fst {α : Type} (computation : Run World α) (turn : Turn) :
    (onWorld computation turn).1 = (computation turn.world).1 := rfl

namespace World

/-- The store looks at no due date: a step is created with any as it would be without. -/
theorem createStep_due (new : NewStep) (world : World) :
    (createStep new world).1 =
      (createStep { new with dueDate := none } world).1.map fun step =>
        { step with dueDate := new.dueDate } := by
  simp only [createStep, Run.request, World.ask, StoreRequest.method]
  cases world.outages.next .createStep with
  | some outage =>
    cases outage with
    | failure error => rfl
    | absence =>
      simp only [StoreRequest.absence?, serve, Store.answer, Store.createStep]
      cases world.store.record? new.entryId <;> rfl
  | none =>
    simp only [serve, Store.answer, Store.createStep]
    cases world.store.record? new.entryId <;> rfl

theorem dates_of_createStep {new : NewStep} {world after : World} {step : Step}
    (created : createStep new world = (.ok step, after)) :
    step.startDate = new.startDate ∧ step.dueDate = new.dueDate := by
  cases served_of_request created with
  | answered _ store done =>
    obtain ⟨-, same, -⟩ := Store.createStep_eq done
    rw [same]
    exact ⟨rfl, rfl⟩
  | absent _ lost => cases lost

end World

namespace Toolkit

open Run

variable {kit : Toolkit} {turn : Turn} {outcome : Outcome}

/-- The due date that a template gives in a turn. -/
def dueDate? (kit : Toolkit) (turn : Turn) (template : String) : Option Instant :=
  (kit.resolver turn.scope turn.properties template).bind (DueDate.ofValue? turn.world.now)

/-- Closes the step being left, where that is asked for. -/
def closeLeft (kit : Toolkit) (outcome : Outcome) (actionId : ActionId) (leaving : Option Step)
    (closeLeaving : Bool) : Run Turn Unit := do
  if closeLeaving then
    match leaving with
    | some step =>
      let status ← kit.oldStatus outcome
      let _ ← closeStep step actionId status
    | none => pure ()

/-- A step is entered, up to its creation. -/
def place (kit : Toolkit) (outcome : Outcome) (actionId : ActionId) (leaving : Option Step)
    (closeLeaving : Bool) (previous : List StepId) : Run Turn (StepDef × Step) := do
  let defId ← enteredStep actionId leaving outcome.target
  let turn ← Run.read
  let definition ← Run.ofOption (.stepNotFound defId) (turn.scope.blueprint.step? defId)
  kit.closeLeft outcome actionId leaving closeLeaving
  let created ← Turn.onWorld (World.createStep (kit.plannedStep outcome defId previous turn))
  return (definition, created)

/-- The turn shows a step that was placed, and the functions of its definition run. -/
def welcome (kit : Toolkit) (leaving : Option Step) (placed : StepDef × Step) : Run Turn Unit := do
  Turn.amendScope fun scope =>
    { scope with
      createdStep := some placed.2
      currentSteps :=
        if leaving.isNone then scope.currentSteps ++ [placed.2] else scope.currentSteps }
  kit.runFunctions placed.1.preFunctions

/-- A step is entered by placing it first. -/
theorem enterStep_places (kit : Toolkit) (outcome : Outcome) (actionId : ActionId)
    (leaving : Option Step) (closeLeaving : Bool) (previous : List StepId) :
    kit.enterStep outcome actionId leaving closeLeaving previous =
      kit.place outcome actionId leaving closeLeaving previous >>= kit.welcome leaving := by
  unfold enterStep place closeLeft welcome
  simp only [bind_assoc]
  refine bind_congr fun defId => bind_congr fun turn => bind_congr fun definition => ?_
  cases closeLeaving
  · simp only [Bool.false_eq_true, ↓reduceIte]
    rfl
  · cases leaving <;> simp only [↓reduceIte, bind_assoc] <;> rfl

/-- A step is placed with a due date as it would be without. -/
theorem place_due (kit : Toolkit) (outcome : Outcome) (actionId : ActionId) (leaving : Option Step)
    (closeLeaving : Bool) (previous : List StepId) (turn : Turn) :
    (kit.place outcome actionId leaving closeLeaving previous turn).1 =
      (kit.place { outcome with dueDate := none } actionId leaving closeLeaving previous turn).1.map
        fun placed =>
          (placed.1, { placed.2 with dueDate := outcome.dueDate.bind (kit.dueDate? turn) }) := by
  -- Both go on alike up to the creation: only the planned step has the due date in it.
  refine andThen_map_fst fun defId start entered => ?_
  obtain ⟨-, rfl⟩ := leadsTo_of_entered entered
  refine andThen_map_fst fun seen _ reads => ?_
  cases reads
  refine andThen_map_fst fun definition _ _ => ?_
  refine andThen_map_fst fun _ closed _ => ?_
  simp only [bind_eq, pure_eq, andThen_done_fst]
  have without : { kit.plannedStep outcome defId previous start with dueDate := none } =
      kit.plannedStep { outcome with dueDate := none } defId previous start := rfl
  rw [Turn.onWorld_fst, Turn.onWorld_fst, World.createStep_due, without]
  cases (World.createStep (kit.plannedStep { outcome with dueDate := none } defId previous start)
    closed.world).1 <;> rfl

theorem placed_at {actionId : ActionId} {leaving : Option Step} {closeLeaving : Bool}
    {previous : List StepId} {after : Turn} {placed : StepDef × Step}
    (places : kit.place outcome actionId leaving closeLeaving previous turn = (.ok placed, after)) :
    placed.2.startDate = turn.world.now ∧
      placed.2.dueDate = outcome.dueDate.bind (kit.dueDate? turn) := by
  obtain ⟨defId, _, entered, plans⟩ := of_andThen_ok places
  obtain ⟨-, rfl⟩ := leadsTo_of_entered entered
  obtain ⟨_, _, seen, looks⟩ := of_andThen_ok plans
  cases seen
  obtain ⟨definition, _, -, closes⟩ := of_andThen_ok looks
  obtain ⟨-, _, -, creates⟩ := of_andThen_ok closes
  obtain ⟨created, _, asks, answers⟩ := of_andThen_ok creates
  cases answers
  obtain ⟨world, asked, -⟩ := Turn.of_onWorld_ok asks
  exact World.dates_of_createStep asked

/-- An offset comes to the same however a template gives it: to the instant exactly so many
milliseconds from now, where the offset is positive, one of 64 bits, and leads to no instant beyond
the calendar, and else to nothing. It asks for no span of time that cannot be made. What is no
number and no text gives no due date. A step is entered by placing it first; no due date keeps it
from being placed or changes anything else about it, and where an offset gave the due date of a
step placed, that lies after its start. -/
theorem offsets_exact (interpolates : kit.resolver = Interpolation.resolve)
    (regular : turn.world.now.Regular) :
    (∀ n template, DueDate.Gives turn.scope turn.properties n template →
      kit.dueDate? turn template = DueDate.after? turn.world.now n) ∧
    (∀ reference template, Template.IsSole reference template.toList →
      DueDate.Timeless (Interpolation.reference? turn.scope turn.properties reference) →
      kit.dueDate? turn template = none) ∧
    (∀ value, DueDate.bySpans? turn.world.now value = some (DueDate.ofValue? turn.world.now value)) ∧
    ∀ outcome actionId leaving closeLeaving previous,
      kit.enterStep outcome actionId leaving closeLeaving previous =
        (kit.place outcome actionId leaving closeLeaving previous >>= kit.welcome leaving) ∧
      (kit.place outcome actionId leaving closeLeaving previous turn).1 =
        ((kit.place { outcome with dueDate := none } actionId leaving closeLeaving previous turn).1.map
          fun placed =>
            (placed.1, { placed.2 with dueDate := outcome.dueDate.bind (kit.dueDate? turn) })) ∧
      ∀ definition step after,
        kit.place outcome actionId leaving closeLeaving previous turn =
          (.ok (definition, step), after) →
        ∀ n template, outcome.dueDate = some template →
          DueDate.Gives turn.scope turn.properties n template →
          step.dueDate = DueDate.after? turn.world.now n ∧
            ∀ due, step.dueDate = some due → step.startDate.Before due := by
  have exact {n : Int} {template : String}
      (gives : DueDate.Gives turn.scope turn.properties n template) :
      kit.dueDate? turn template = DueDate.after? turn.world.now n := by
    rw [dueDate?, interpolates]
    exact DueDate.resolved_of_gives regular gives
  refine ⟨fun n template => exact, ?_, DueDate.bySpans?_eq _, ?_⟩
  · intro reference template sole timeless
    rw [dueDate?, interpolates]
    exact DueDate.resolved_of_timeless sole timeless
  · intro outcome actionId leaving closeLeaving previous
    refine ⟨enterStep_places _ _ _ _ _ _, place_due _ _ _ _ _ _ _, ?_⟩
    intro definition step after places n template asks gives
    obtain ⟨started, due⟩ := placed_at places
    rw [asks, Option.bind_some, exact gives] at due
    refine ⟨due, fun instant found => ?_⟩
    rw [started]
    exact DueDate.before_of_after? (due.symm.trans found)

/-- A minute, as a text with blanks, names the time that a step waits. -/
def waiting : Turn where
  world :=
    { now := ⟨1704067200, 0⟩
      store := { records := [{ entry := ⟨1, "post", .activated, ⟨0, 0⟩⟩ }] } }
  scope :=
    { (default : Scope) with
      entry := ⟨1, "post", .activated, ⟨0, 0⟩⟩
      blueprint := { name := "post", steps := [{ id := 7, name := "mailed" }] }
      bindings := (∅ : Values).insert "wait" (.str " 60000 ") }
  home := 1

/-- The step is due a minute after its start. -/
theorem waiting_due_in_a_minute :
    let kit : Toolkit := { extensions := Builtin.extensions }
    let outcome : Outcome := { target := .step 7, dueDate := some "$\x7bwait\x7d" }
    waiting.world.now.Regular ∧
      kit.dueDate? waiting "$\x7bwait\x7d" = some ⟨1704067260, 0⟩ ∧
      ∃ definition step after,
        kit.place outcome 10 none false [] waiting = (.ok (definition, step), after) ∧
          step.dueDate = some ⟨1704067260, 0⟩ ∧ step.startDate.Before ⟨1704067260, 0⟩ := by
  intro kit outcome
  have regular : waiting.world.now.Regular := ⟨by decide, by decide, by decide⟩
  have sole : Template.IsSole ['w', 'a', 'i', 't'] "$\x7bwait\x7d".toList :=
    Template.sole?_eq_some_iff.mp (by decide)
  have gives : DueDate.Gives waiting.scope waiting.properties 60000 "$\x7bwait\x7d" :=
    .quoted sole rfl (by decide)
  have minute : DueDate.after? waiting.world.now 60000 = some ⟨1704067260, 0⟩ := by decide
  obtain ⟨offset, -, -, placing⟩ := offsets_exact (rfl : kit.resolver = _) regular
  obtain ⟨-, -, placed⟩ := placing outcome 10 none false []
  obtain ⟨due, later⟩ := placed _ _ _ rfl 60000 _ rfl gives
  rw [minute] at due
  exact ⟨regular, (offset 60000 _ gives).trans minute, _, _, _, rfl, due, later _ due⟩

end Toolkit

end Caseflow
