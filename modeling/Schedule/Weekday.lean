import Schedule.Text.Fold
import Schedule.Text.Quoted

/-! # Days of the week

A weekday is written as one of its keywords, in any letter case, and counts from Monday = 1 to
Sunday = 7 in what a reader of schedules sees.
-/

namespace Schedule

/-- A day of the week. -/
inductive Weekday where
  | monday | tuesday | wednesday | thursday | friday | saturday | sunday
  deriving DecidableEq, Repr

namespace Weekday

/-- The seven days in order, the week beginning on Monday. -/
def all : List Weekday := [monday, tuesday, wednesday, thursday, friday, saturday, sunday]

/-- The day's place in the week, Monday being 1 and Sunday 7. -/
def ordinal : Weekday → Int
  | monday => 1
  | tuesday => 2
  | wednesday => 3
  | thursday => 4
  | friday => 5
  | saturday => 6
  | sunday => 7

/-- The spellings of a day, shortest first. -/
def keywords : Weekday → List String
  | monday => ["mo", "mon", "monday"]
  | tuesday => ["tu", "tue", "tues", "tuesday"]
  | wednesday => ["we", "wed", "wednesday"]
  | thursday => ["th", "thu", "thur", "thurs", "thursday"]
  | friday => ["fr", "fri", "friday"]
  | saturday => ["sa", "sat", "saturday"]
  | sunday => ["su", "sun", "sunday"]

/-- The day that `word` spells, in any letter case. -/
def ofWord? (word : String) : Option Weekday :=
  all.find? fun day => day.keywords.contains (Text.fold word)

/-- A word that was asked for its weekday and spells none. -/
structure Unknown where
  word : String
  deriving DecidableEq, Repr

/-- The text shown for a word that is no weekday. -/
def Unknown.message (fault : Unknown) : String :=
  Text.quote fault.word ++ " is not a day of the week"

/-- The day that `word` spells, or the complaint that it spells none. -/
def ofWord (word : String) : Except Unknown Weekday :=
  match ofWord? word with
  | some day => .ok day
  | none => .error ⟨word⟩

/-- Ordinals run from 1 to 7. -/
theorem ordinal_bounds (day : Weekday) : 1 ≤ day.ordinal ∧ day.ordinal ≤ 7 := by
  cases day <;> decide

end Weekday

end Schedule
