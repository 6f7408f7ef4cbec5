import Schedule.Fault
import Schedule.Node
import Schedule.Range

/-! # Arguments as ranges

A literal argument means a range of its field. Its numbers are brought into order with the field's
bounds: a wildcard is the range of all values, a single number with a modulus runs on to the
greatest value, and a range whose ends are in the wrong order wraps. Compiled weekdays count from
0 and so do compiled months.
-/

namespace Schedule

/-- The literal has a modulus other than zero. -/
def Literal.steps (l : Literal) : Bool :=
  match l.modulus with
  | some modulus => modulus != 0
  | none => false

/-- The numbers that an argument covers, before its field's bounds are checked. -/
structure Span where
  low : Int
  high : Int
  split : Bool := false
  deriving DecidableEq, Repr

namespace Span

/-- The days of the week from `low` to `high`. A range that ends before it begins wraps; a single
day with a modulus runs on to the end of the week. -/
def ofWeek (low high : Int) (steps : Bool) : Span :=
  if high < low then ⟨low, high, true⟩
  else if steps ∧ high = low then ⟨low, Field.daysOfWeek.greatest, false⟩
  else ⟨low, high, false⟩

/-- The numbers from `low` to `high`. Negative numbers count back from the end and come after the
others, so only a range out of order in that sense wraps. -/
def ofRange (low high : Int) : Span :=
  ⟨low, high, high < low ∧ ¬ (0 ≤ low ∧ high < 0)⟩

/-- The numbers from one number on: that one only, or all up to the field's greatest if the
argument has a modulus. -/
def ofNumber (field : Field) (value : Int) (steps : Bool) : Span :=
  ⟨value, if steps then field.greatest else value, false⟩

/-- The numbers that a literal covers in a field other than dates. -/
def ofLiteral (field : Field) (l : Literal) : Except Fault Span :=
  match l.operand with
  | .wildcard => .ok ⟨field.first, field.greatest, false⟩
  | .dates _ _ => .error .misplacedDate
  | .days low high =>
    if field = .daysOfWeek then .ok (ofWeek low high l.steps) else .error .misplacedWeekday
  | .number value => .ok (ofNumber field value l.steps)
  | .range low high =>
    if field = .daysOfWeek then .ok (ofWeek low high l.steps) else .ok (ofRange low high)

/-- Checks both ends against the bounds of the field. -/
def check (field : Field) (span : Span) : Except Fault Unit :=
  if span.low < field.least ∨ span.high < field.least then .error (.belowLeast field)
  else if field.greatest < span.low ∨ field.greatest < span.high then
    .error (.aboveGreatest field)
  else if field = .daysOfMonth ∧ (span.low = 0 ∨ span.high = 0) then .error .dayZero
  else .ok ()

/-- The span with its ends counted as compiled ranges count them. -/
def toRange (field : Field) (span : Span) (modulus : Option Int) : Range :=
  let back := if field = .daysOfWeek then 1 else 0
  ⟨.number (span.low - back), .number (span.high - back), span.split, modulus⟩

end Span

/-- The first day of the year. -/
def firstDate : MonthDay := ⟨1, 1⟩

/-- The last day of the year. -/
def lastDate : MonthDay := ⟨12, 31⟩

/-- Checks that a modulus is not negative. -/
def checkModulus (l : Literal) : Except Fault Unit :=
  match l.modulus with
  | some modulus => if modulus < 0 then .error .negativeModulus else .ok ()
  | none => .ok ()

/-- The days from one date to another, months counting from 0. -/
def dateRange (low high : MonthDay) (modulus : Option Int) : Range :=
  ⟨.date low.monthBack, .date high.monthBack, high.before low, modulus⟩

/-- The range that a literal means among dates. -/
def normalizeDate (l : Literal) : Except Fault Range := do
  let (low, high) ←
    match l.operand with
    | .wildcard => .ok (firstDate, lastDate)
    | .dates low high => .ok (low, high)
    | _ => .error .expectedDate
  checkModulus l
  .ok (dateRange low high l.modulus)

/-- The range that a literal means in a field of numbers. -/
def normalizeNumber (field : Field) (l : Literal) : Except Fault Range := do
  let span ← Span.ofLiteral field l
  span.check field
  checkModulus l
  .ok (span.toRange field l.modulus)

/-- The range that a literal means in a field. -/
def normalize (field : Field) (l : Literal) : Except Fault Range :=
  if field = .dates then normalizeDate l else normalizeNumber field l

end Schedule
