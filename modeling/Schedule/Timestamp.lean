import Schedule.Numeral
import Schedule.Token

/-! # Dates and moments

A configuration may name a day, `2024-02-29`, or a moment, `2024-02-29 23:59:59.5 +01:00`, where a
value is expected. Neither is of use for any setting, but a message may have to show it. A moment
may say by how much its clock is ahead of universal time; without that it cannot be compared with
one that does.
-/

namespace Schedule

/-- A day of the calendar. -/
structure Date where
  year : Nat
  month : Nat
  day : Nat
  deriving DecidableEq, Repr

/-- A day, a time of the day, and perhaps how many minutes the clock is ahead of universal time. -/
structure Moment where
  date : Date
  hour : Nat
  minute : Nat
  second : Nat
  microsecond : Nat := 0
  ahead : Option Int := none
  deriving DecidableEq, Repr

/-- A day or a moment. -/
inductive Timestamp where
  | date (date : Date)
  | moment (moment : Moment)
  deriving DecidableEq, Repr

/-- Why something in the form of a timestamp is none. -/
inductive TimestampFault where
  | farAhead (minutes : Int)
  | year | month | day | hour | minute | second
  deriving DecidableEq, Repr

namespace Date

/-- A year with a 29 February. -/
def isLeap (year : Nat) : Bool :=
  year % 4 == 0 && (year % 100 != 0 || year % 400 == 0)

/-- How many days a month has. -/
def daysIn (year month : Nat) : Nat :=
  if month = 2 then if isLeap year then 29 else 28
  else if [4, 6, 9, 11].contains month then 30
  else 31

/-- How many days lie in a year before a month. -/
def daysBefore (year : Nat) : (month : Nat) → Nat
  | 0 | 1 => 0
  | month + 1 => daysBefore year month + daysIn year month

/-- How many days lie between the first of the calendar and this one. -/
def number (date : Date) : Nat :=
  let past := date.year - 1
  365 * past + past / 4 - past / 100 + past / 400 + daysBefore date.year date.month +
    (date.day - 1)

/-- The date if there is such a day. -/
def check (date : Date) : Except TimestampFault Date :=
  if date.year = 0 then .error .year
  else if date.month = 0 ∨ 12 < date.month then .error .month
  else if date.day = 0 ∨ daysIn date.year date.month < date.day then .error .day
  else .ok date

end Date

/-- A number with zeros before it up to a width. -/
def paddedNumber (width n : Nat) : String :=
  let digits := Nat.toDigits 10 n
  String.ofList (List.replicate (width - digits.length) '0' ++ digits)

/-- The date as it is written. -/
def Date.text (date : Date) : String :=
  paddedNumber 4 date.year ++ "-" ++ paddedNumber 2 date.month ++ "-" ++ paddedNumber 2 date.day

/-- A span of minutes as messages show it: whole days, of which only the seconds left over are
never negative. -/
def describeSpan (minutes : Int) : String :=
  let days := minutes / 1440
  let seconds := minutes % 1440 * 60
  let parts := (if days = 0 then [] else ["days=" ++ toString days]) ++
    (if seconds = 0 then [] else ["seconds=" ++ toString seconds])
  "datetime.timedelta(" ++ (if parts.isEmpty then "0" else ", ".intercalate parts) ++ ")"

/-- The text shown for a fault of a timestamp. -/
def TimestampFault.message : TimestampFault → String
  | farAhead minutes =>
    "offset must be a timedelta strictly between -timedelta(hours=24) and timedelta(hours=24), " ++
      "not " ++ describeSpan minutes ++ "."
  | year => "year 0 is out of range"
  | month => "month must be in 1..12"
  | day => "day is out of range for month"
  | hour => "hour must be in 0..23"
  | minute => "minute must be in 0..59"
  | second => "second must be in 0..59"

namespace Moment

/-- The moment if its clock can show it. The clock must be less than a day ahead or behind. -/
def check (moment : Moment) : Except TimestampFault Moment := do
  match moment.ahead with
  | some minutes =>
    if minutes.natAbs < 1440 then pure () else .error (.farAhead minutes)
  | none => pure ()
  let _ ← moment.date.check
  if 23 < moment.hour then .error .hour
  else if 59 < moment.minute then .error .minute
  else if 59 < moment.second then .error .second
  else .ok moment

/-- The microseconds that the moment's own clock has counted. -/
def count (moment : Moment) : Nat :=
  let minutes := (moment.date.number * 24 + moment.hour) * 60 + moment.minute
  (minutes * 60 + moment.second) * 1000000 + moment.microsecond

/-- Whether two moments are the same. Moments of clocks that are both related to universal time
are compared there; a clock that is not has moments of its own. -/
def same (a b : Moment) : Bool :=
  match a.ahead, b.ahead with
  | none, none => a.count == b.count
  | some m, some n => a.count - m * 60000000 == b.count - n * 60000000
  | _, _ => false

/-- How far a clock is ahead, as it is written. -/
def aheadText (minutes : Int) : String :=
  (if minutes < 0 then "-" else "+") ++ paddedNumber 2 (minutes.natAbs / 60) ++ ":" ++
    paddedNumber 2 (minutes.natAbs % 60)

/-- The moment as it is written. -/
def text (moment : Moment) : String :=
  moment.date.text ++ " " ++ paddedNumber 2 moment.hour ++ ":" ++ paddedNumber 2 moment.minute ++
    ":" ++ paddedNumber 2 moment.second ++
    (if moment.microsecond = 0 then "" else "." ++ paddedNumber 6 moment.microsecond) ++
    (moment.ahead.map aheadText).getD ""

/-- The clock of a moment as messages show it. -/
def describeClock (minutes : Int) : String :=
  if minutes = 0 then "datetime.timezone.utc"
  else "datetime.timezone(" ++ describeSpan minutes ++ ")"

/-- The numbers of a moment that messages show. Seconds are left out if nothing is left of them. -/
def shownNumbers (moment : Moment) : List Nat :=
  [moment.date.year, moment.date.month, moment.date.day, moment.hour, moment.minute] ++
    (if moment.microsecond ≠ 0 then [moment.second, moment.microsecond]
      else if moment.second ≠ 0 then [moment.second] else [])

end Moment

namespace Timestamp

/-- A timestamp as it is written. -/
def text : Timestamp → String
  | date day => day.text
  | moment m => m.text

/-- A timestamp as messages show it. -/
def describe : Timestamp → String
  | date day =>
    "datetime.date(" ++ ", ".intercalate ([day.year, day.month, day.day].map toString) ++ ")"
  | moment m =>
    "datetime.datetime(" ++ ", ".intercalate (m.shownNumbers.map toString ++
      (m.ahead.map fun minutes => "tzinfo=" ++ Moment.describeClock minutes).toList) ++ ")"

/-- Whether two timestamps are the same. A day is no moment. -/
def same : Timestamp → Timestamp → Bool
  | date a, date b => a == b
  | moment a, moment b => a.same b
  | _, _ => false

/-- A number of at least `least` digits, of which at most `most` are read, and what follows. -/
def digits? (least most : Nat) (cs : List Char) : Option (Nat × List Char) :=
  let digits := (cs.take most).takeWhile isDigit
  if digits.length < least then none
  else some (Numeral.value digits, cs.drop digits.length)

/-- What follows a mark. -/
def after? (mark : Char) : List Char → Option (List Char)
  | c :: rest => if c = mark then some rest else none
  | [] => none

/-- How far a clock is ahead: `Z`, or a sign, hours, and perhaps minutes. -/
def clock? : List Char → Option Int
  | ['Z'] => some 0
  | sign :: rest =>
    if sign = '+' ∨ sign = '-' then do
      let (hours, rest) ← digits? 1 2 rest
      let (minutes, rest) ← match rest with
        | [] => some (0, [])
        | rest => (after? ':' rest).bind (digits? 2 2)
      let size : Int := 60 * hours + minutes
      if rest.isEmpty then some (if sign = '-' then -size else size) else none
    else none
  | [] => none

/-- The microseconds that the digits after a point stand for, of which six count. -/
def microseconds (digits : List Char) : Nat :=
  Numeral.value (digits.take 6 ++ List.replicate (6 - digits.length) '0')

/-- The time of a day, and perhaps its clock, which make a moment of that day. -/
def moment? (day : Date) (cs : List Char) : Option Moment := do
  let (hour, rest) ← digits? 1 2 cs
  let (minute, rest) ← (after? ':' rest).bind (digits? 2 2)
  let (second, rest) ← (after? ':' rest).bind (digits? 2 2)
  let fraction := match rest with
    | '.' :: rest => rest.takeWhile isDigit
    | _ => []
  let rest := match rest with
    | '.' :: rest => rest.drop fraction.length
    | rest => rest
  let ahead ← if rest.isEmpty then some none
    else (clock? (rest.dropWhile (· = ' '))).map some
  some ⟨day, hour, minute, second, microseconds fraction, ahead⟩

/-- What stands between a day and the time of the day: the letter `T` or spaces. -/
def afterDay? : List Char → Option (List Char)
  | 'T' :: rest | 't' :: rest => some rest
  | ' ' :: rest => some (rest.dropWhile (· = ' '))
  | _ => none

/-- The timestamp that characters denote, if they have the form of one. Without a time month and
day have two digits. -/
def read? (cs : List Char) : Option (Except TimestampFault Timestamp) := do
  let (year, rest) ← digits? 4 4 cs
  let (month, rest) ← (after? '-' rest).bind (digits? 1 2)
  let (day, rest) ← (after? '-' rest).bind (digits? 1 2)
  if rest.isEmpty then
    if cs.length = 10 then some ((Date.check ⟨year, month, day⟩).map date) else none
  else
    let moment ← (afterDay? rest).bind (moment? ⟨year, month, day⟩)
    some (moment.check.map .moment)

end Timestamp

end Schedule
