import Schedule.Text.Fold

/-! # Fields

A schedule constrains six fields of a point in time. Each has the bounds its numbers must keep to
and the names by which an expression may call it.
-/

namespace Schedule

/-- The fields of a point in time that a rule can constrain, finest first. -/
inductive Field where
  | seconds | minutes | hours | daysOfWeek | daysOfMonth | dates
  deriving DecidableEq, Repr, Inhabited

namespace Field

/-- The fields in their canonical order. -/
def all : List Field := [seconds, minutes, hours, daysOfWeek, daysOfMonth, dates]

/-- The fields that divide the day, finest first. -/
def times : List Field := [seconds, minutes, hours]

/-- The name by which tables and messages call a field. -/
def name : Field → String
  | seconds => "seconds"
  | minutes => "minutes"
  | hours => "hours"
  | daysOfWeek => "days_of_week"
  | daysOfMonth => "days_of_month"
  | dates => "dates"

/-- The least number an argument may name. Days of the month may count back from its end. -/
def least : Field → Int
  | seconds | minutes | hours => 0
  | daysOfWeek | dates => 1
  | daysOfMonth => -31

/-- The greatest number an argument may name. -/
def greatest : Field → Int
  | seconds | minutes => 59
  | hours => 23
  | daysOfWeek => 7
  | daysOfMonth | dates => 31

/-- Where the range of all values begins. It differs from `least` for days of the month only. -/
def first : Field → Int
  | daysOfMonth => 1
  | field => field.least

/-- The names by which an expression may call a field, in lower case. -/
def aliases : Field → List String
  | seconds => ["s", "sec", "second", "seconds", "secondofminute", "secondsofminute"]
  | minutes => ["m", "min", "minute", "minutes", "minuteofhour", "minutesofhour"]
  | hours => ["h", "hour", "hours", "hourofday", "hoursofday"]
  | daysOfWeek => ["day", "days", "dow", "dayofweek", "daysofweek"]
  | daysOfMonth => ["dom", "dayofmonth", "daysofmonth"]
  | dates => ["date", "dates"]

/-- The field that an expression's name calls, in any letter case. -/
def ofName? (name : String) : Option Field :=
  all.find? fun field => field.aliases.contains (Text.fold name)

/-- The field with the given canonical name. -/
def ofCanonicalName? (name : String) : Option Field :=
  all.find? fun field => field.name == name

/-- Every field is listed. -/
theorem mem_all (field : Field) : field ∈ all := by
  cases field <;> decide

/-- The bounds are in order, and the range of all values lies within them. -/
theorem bounds_ordered (field : Field) :
    field.least ≤ field.first ∧ field.first ≤ field.greatest := by
  cases field <;> decide

/-- Different fields have different canonical names. -/
theorem name_injective {a b : Field} (same : a.name = b.name) : a = b := by
  revert same
  cases a <;> cases b <;> decide

end Field

/-- Whether an expression of this name opens a group, in any letter case. -/
def isGroupName (name : String) : Bool :=
  Text.fold name == "group"

end Schedule
