/-! # Dates without a year

A schedule names dates by month and day. Every February counts 29 days, so that the leap day can
be scheduled; a date is otherwise kept as written, and only `daysInMonth` says which exist.
-/

namespace Schedule

/-- A month and a day in it. Whether months count from 1 or from 0 is up to where it stands. -/
structure MonthDay where
  month : Int
  day : Int
  deriving DecidableEq, Repr

namespace MonthDay

/-- Whether `a` comes strictly before `b` in the year: by month, then by day. -/
def before (a b : MonthDay) : Bool :=
  a.month < b.month || (a.month == b.month && a.day < b.day)

/-- A date is written `month/day`. -/
def text (date : MonthDay) : String :=
  toString date.month ++ "/" ++ toString date.day

/-- The same day with its month counted from one less. -/
def monthBack (date : MonthDay) : MonthDay :=
  ⟨date.month - 1, date.day⟩

end MonthDay

/-- A month number that names no month. -/
structure InvalidMonth where
  month : Int
  deriving DecidableEq, Repr

/-- The text shown for a number that names no month. -/
def InvalidMonth.message (fault : InvalidMonth) : String :=
  "Invalid month: " ++ toString fault.month

/-- How many days the month has, counting months from 1 and February as 29 days. -/
def daysInMonth (month : Int) : Except InvalidMonth Int :=
  if month < 1 ∨ 12 < month then .error ⟨month⟩
  else if month = 2 then .ok 29
  else if month = 4 ∨ month = 6 ∨ month = 9 ∨ month = 11 then .ok 30
  else .ok 31

/-- Exactly the numbers 1 to 12 name a month. -/
theorem daysInMonth_isOk_iff (month : Int) :
    (∃ days, daysInMonth month = .ok days) ↔ 1 ≤ month ∧ month ≤ 12 := by
  unfold daysInMonth
  constructor
  · rintro ⟨days, found⟩
    split at found
    · simp at found
    · omega
  · intro inYear
    rw [if_neg (by omega)]
    split
    · exact ⟨_, rfl⟩
    · split <;> exact ⟨_, rfl⟩

end Schedule
