import Schedule.Field
import Schedule.Range

/-! # Rule groups

A compiled schedule is a list of rule groups, each an alternative of its own. A group holds, for
every field, the ranges that are allowed and the ranges that are taken away again, in the order in
which they were added. A field with neither is unconstrained.
-/

namespace Schedule

/-- One value for each field. -/
structure PerField (α : Type) where
  seconds : α
  minutes : α
  hours : α
  daysOfWeek : α
  daysOfMonth : α
  dates : α
  deriving DecidableEq, Repr

namespace PerField

variable {α : Type}

/-- The same value for every field. -/
def replicate (value : α) : PerField α := ⟨value, value, value, value, value, value⟩

/-- The value of a field. -/
def get (values : PerField α) : Field → α
  | .seconds => values.seconds
  | .minutes => values.minutes
  | .hours => values.hours
  | .daysOfWeek => values.daysOfWeek
  | .daysOfMonth => values.daysOfMonth
  | .dates => values.dates

/-- The values with that of one field replaced. -/
def set (values : PerField α) (field : Field) (value : α) : PerField α :=
  match field with
  | .seconds => { values with seconds := value }
  | .minutes => { values with minutes := value }
  | .hours => { values with hours := value }
  | .daysOfWeek => { values with daysOfWeek := value }
  | .daysOfMonth => { values with daysOfMonth := value }
  | .dates => { values with dates := value }

@[simp] theorem get_replicate (value : α) (field : Field) :
    (replicate value).get field = value := by
  cases field <;> rfl

@[simp] theorem get_set (values : PerField α) (field other : Field) (value : α) :
    (values.set field value).get other = if field = other then value else values.get other := by
  cases field <;> cases other <;> rfl

/-- Values that agree on every field are equal. -/
theorem ext_get {a b : PerField α} (same : ∀ field, a.get field = b.get field) : a = b := by
  cases a
  cases b
  simp only [PerField.mk.injEq]
  exact ⟨same .seconds, same .minutes, same .hours, same .daysOfWeek, same .daysOfMonth,
    same .dates⟩

end PerField

/-- One alternative of a compiled schedule. A side stores a list under each field that it constrains
and none under the others. `hasDates` is set when the schedule speaks of dates here, even of all
dates, for which there is no range. -/
structure RuleGroup where
  includes : PerField (Option (List Range)) := .replicate none
  excludes : PerField (Option (List Range)) := .replicate none
  hasDates : Bool := false
  deriving DecidableEq, Repr

namespace RuleGroup

/-- The group that constrains nothing. -/
def empty : RuleGroup := {}

/-- The list stored under a field, if there is one: that of the ranges taken away if `exclude`, else
that of the ranges allowed. -/
def stored? (group : RuleGroup) (field : Field) (exclude : Bool) : Option (List Range) :=
  if exclude then group.excludes.get field else group.includes.get field

/-- The ranges of a field, none if no list is stored. -/
def ranges (group : RuleGroup) (field : Field) (exclude : Bool) : List Range :=
  (group.stored? field exclude).getD []

/-! The lists of a group by name: for each field the ranges allowed and those taken away. -/

def seconds (group : RuleGroup) : List Range := group.ranges .seconds false
def secondsExclude (group : RuleGroup) : List Range := group.ranges .seconds true
def minutes (group : RuleGroup) : List Range := group.ranges .minutes false
def minutesExclude (group : RuleGroup) : List Range := group.ranges .minutes true
def hours (group : RuleGroup) : List Range := group.ranges .hours false
def hoursExclude (group : RuleGroup) : List Range := group.ranges .hours true
def daysOfWeek (group : RuleGroup) : List Range := group.ranges .daysOfWeek false
def daysOfWeekExclude (group : RuleGroup) : List Range := group.ranges .daysOfWeek true
def daysOfMonth (group : RuleGroup) : List Range := group.ranges .daysOfMonth false
def daysOfMonthExclude (group : RuleGroup) : List Range := group.ranges .daysOfMonth true
def dates (group : RuleGroup) : List Range := group.ranges .dates false
def datesExclude (group : RuleGroup) : List Range := group.ranges .dates true

/-- Adds a range at the end of a field's list, starting one if there is none. -/
def add (group : RuleGroup) (field : Field) (range : Range) (exclude : Bool := false) :
    RuleGroup :=
  let ranges := group.ranges field exclude ++ [range]
  if exclude then { group with excludes := group.excludes.set field (some ranges) }
  else { group with includes := group.includes.set field (some ranges) }

/-- One of the sides stores a list under the field. -/
def has (group : RuleGroup) (field : Field) : Bool :=
  (group.includes.get field).isSome || (group.excludes.get field).isSome

/-- The constrained fields, in canonical order. -/
def fields (group : RuleGroup) : List Field :=
  Field.all.filter group.has

/-- Adding a range appends it to its own list and leaves the others alone. -/
theorem stored?_add (group : RuleGroup) (field other : Field) (range : Range)
    (exclude side : Bool) :
    (group.add field range exclude).stored? other side =
      if field = other ∧ exclude = side then some (group.ranges other side ++ [range])
      else group.stored? other side := by
  by_cases same : field = other
  · subst same
    cases exclude <;> cases side <;> simp [add, stored?]
  · cases exclude <;> cases side <;> simp [add, stored?, same]

theorem ranges_add (group : RuleGroup) (field other : Field) (range : Range)
    (exclude side : Bool) :
    (group.add field range exclude).ranges other side =
      if field = other ∧ exclude = side then group.ranges other side ++ [range]
      else group.ranges other side := by
  rw [ranges, stored?_add]
  split <;> rfl

@[simp] theorem hasDates_add (group : RuleGroup) (field : Field) (range : Range)
    (exclude : Bool) : (group.add field range exclude).hasDates = group.hasDates := by
  cases exclude <;> rfl

theorem has_iff (group : RuleGroup) (field : Field) :
    group.has field = true ↔ ∃ exclude ranges, group.stored? field exclude = some ranges := by
  simp [has, stored?, Option.isSome_iff_exists]

end RuleGroup

end Schedule
