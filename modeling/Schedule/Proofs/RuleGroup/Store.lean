import Schedule.Proofs.RuleGroup.Entries
import Schedule.RuleGroup.Table

/-! # A group holds what was put into it

A group is filled range by range: each goes to one of the two lists of a field, in any order of the
fields. In between it can be asked for a field, and it can be said whether the group speaks of
dates. After every step all the ways to look at the group agree with what was done so far: its lists
of ranges, its answers, its list of fields, and its table.
-/

namespace Schedule.RuleGroup

/-- What can be done with a group. -/
inductive Step where
  | add (field : Field) (range : Range) (exclude : Bool)
  | has (field : Field)
  | setHasDates (value : Bool)
  deriving DecidableEq, Repr

/-- What a step answers, if it asks for anything, and the group after it. -/
def perform (group : RuleGroup) : Step → Option Bool × RuleGroup
  | .add field range exclude => (none, group.add field range exclude)
  | .has field => (some (group.has field), group)
  | .setHasDates value => (none, { group with hasDates := value })

/-- What each of some steps answers, and the group after it. -/
def stages (group : RuleGroup) : List Step → List (Option Bool × RuleGroup)
  | [] => []
  | step :: steps => group.perform step :: (group.perform step).2.stages steps

/-- The range that a step adds to a list. -/
def Step.range? (field : Field) (exclude : Bool) : Step → Option Range
  | .add other range side => if other = field ∧ side = exclude then some range else none
  | _ => none

/-- The ranges that some steps add to a list, in the order of the steps. -/
def added (field : Field) (exclude : Bool) (steps : List Step) : List Range :=
  steps.filterMap (Step.range? field exclude)

/-- The value that a step assigns to `hasDates`. -/
def Step.dates? : Step → Option Bool
  | .setHasDates value => some value
  | _ => none

/-- The value that some steps assign last; a group speaks of no dates at first. -/
def lastDates (steps : List Step) : Bool :=
  (steps.filterMap Step.dates?).getLastD false

variable {group : RuleGroup} {field : Field} {exclude : Bool} {step : Step} {steps : List Step}

/-! ### What was added -/

theorem added_append (field : Field) (exclude : Bool) (steps steps' : List Step) :
    added field exclude (steps ++ steps') =
      added field exclude steps ++ added field exclude steps' :=
  List.filterMap_append

theorem added_ne_nil_iff :
    added field exclude steps ≠ [] ↔ ∃ range, .add field range exclude ∈ steps := by
  constructor
  · intro filled
    obtain ⟨range, member⟩ := List.exists_mem_of_ne_nil _ filled
    obtain ⟨step, listed, adds⟩ := List.mem_filterMap.mp member
    cases step with
    | add other range' side =>
      rw [Step.range?] at adds
      split at adds
      · next same =>
        obtain ⟨rfl, rfl⟩ := same
        exact ⟨range', listed⟩
      · contradiction
    | _ => contradiction
  · rintro ⟨range, listed⟩
    have member : range ∈ added field exclude steps :=
      List.mem_filterMap.mpr ⟨_, listed, if_pos ⟨rfl, rfl⟩⟩
    exact List.ne_nil_of_mem member

/-! ### One step -/

/-- A step appends to the list of its range, if it has one, and leaves the other lists alone. -/
theorem ranges_perform (group : RuleGroup) (step : Step) (field : Field) (exclude : Bool) :
    (group.perform step).2.ranges field exclude =
      group.ranges field exclude ++ added field exclude [step] := by
  cases step with
  | add other range side =>
    rw [perform, ranges_add]
    by_cases same : other = field ∧ side = exclude
    · simp [added, Step.range?, same]
    · simp [added, Step.range?, if_neg same]
  | has other => simp [perform, added, Step.range?]
  | setHasDates value => simp [perform, added, Step.range?]

theorem hasDates_perform (group : RuleGroup) (step : Step) :
    (group.perform step).2.hasDates = step.dates?.getD group.hasDates := by
  cases step with
  | add => exact hasDates_add ..
  | has => rfl
  | setHasDates => rfl

theorem filled_perform (filled : group.Filled) (step : Step) : (group.perform step).2.Filled := by
  cases step with
  | add field range exclude => exact filled_insert filled ⟨field, range, exclude⟩
  | has => exact filled
  | setHasDates => exact filled

/-! ### Many steps -/

/-- The lists of a group are those that some steps added, and no list is stored empty. -/
structure Holds (steps : List Step) (group : RuleGroup) : Prop where
  ranges (field : Field) (exclude : Bool) : group.ranges field exclude = added field exclude steps
  filled : group.Filled
  hasDates : group.hasDates = lastDates steps

theorem holds_empty : Holds [] empty :=
  ⟨ranges_empty, filled_empty, rfl⟩

theorem Holds.perform (holds : Holds steps group) (step : Step) :
    Holds (steps ++ [step]) (group.perform step).2 where
  ranges field exclude := by rw [ranges_perform, holds.ranges, added_append]
  filled := filled_perform holds.filled step
  hasDates := by
    rw [hasDates_perform, holds.hasDates, lastDates, lastDates, List.filterMap_append]
    cases assigned : step.dates? <;> simp [assigned, List.getLastD_eq_getLast?]

theorem Holds.has_iff (holds : Holds steps group) :
    group.has field = true ↔ ∃ range exclude, .add field range exclude ∈ steps := by
  rw [holds.filled.has_iff]
  simp only [holds.ranges, added_ne_nil_iff]
  exact exists_comm

/-- Each of some steps finds the group as those before it left it. -/
theorem Holds.stages {past : List Step} (holds : Holds past group) (steps : List Step) {n : Nat}
    (inside : n < steps.length) :
    ∃ before, Holds (past ++ steps.take n) before ∧
      (group.stages steps)[n]? = some (before.perform steps[n]) := by
  induction steps generalizing past group n with
  | nil => contradiction
  | cons step steps ih =>
    cases n with
    | zero => exact ⟨group, by simpa using holds, rfl⟩
    | succ n =>
      obtain ⟨before, left, stage⟩ := ih (holds.perform step) (Nat.lt_of_succ_lt_succ inside)
      refine ⟨before, ?_, stage⟩
      rw [List.take_succ_cons]
      simpa using left

/-! ### What is read -/

/-- The row that a table shows for a field after some steps. -/
def rowOf (steps : List Step) (field : Field) : List String :=
  [field.name, Range.listText (added field false steps), Range.listText (added field true steps)]

/-- All that can be read from a group tells what some steps did: each of its lists has the ranges
that were added to it, in order, whether it is read by field and side or by name; it has the fields
to which a range was added, each of them once and in their canonical order; and its table has a row
for each of these, and a last one for all dates if it was said last that the group speaks of dates
and none were added. -/
structure Reads (steps : List Step) (group : RuleGroup) : Prop where
  ranges (field : Field) (exclude : Bool) : group.ranges field exclude = added field exclude steps
  named : [(group.seconds, group.secondsExclude), (group.minutes, group.minutesExclude),
      (group.hours, group.hoursExclude), (group.daysOfWeek, group.daysOfWeekExclude),
      (group.daysOfMonth, group.daysOfMonthExclude), (group.dates, group.datesExclude)] =
    Field.all.map fun field => (added field false steps, added field true steps)
  has (field : Field) :
    group.has field = true ↔ ∃ range exclude, .add field range exclude ∈ steps
  fields (field : Field) :
    field ∈ group.fields ↔ ∃ range exclude, .add field range exclude ∈ steps
  once : group.fields.Nodup
  canonical : group.fields.Sublist Field.all
  rows (number : Int) : (group.table number).rows = group.fields.map (rowOf steps) ++
    if lastDates steps ∧ added .dates false steps = [] ∧ added .dates true steps = []
      then [["dates", "any", ""]] else []

theorem mem_fields_iff : field ∈ group.fields ↔ group.has field = true := by
  rw [fields, List.mem_filter]
  exact and_iff_right (Field.mem_all field)

theorem Holds.reads (holds : Holds steps group) : Reads steps group where
  ranges := holds.ranges
  named := by
    simp only [Field.all, List.map_cons, List.map_nil, ← holds.ranges]
    rfl
  has _ := holds.has_iff
  fields _ := mem_fields_iff.trans holds.has_iff
  once := List.Nodup.sublist List.filter_sublist (by decide)
  canonical := List.filter_sublist
  rows number := by
    have row : group.row = rowOf steps := by
      funext field
      rw [RuleGroup.row, rowOf, holds.ranges, holds.ranges]
    have unnamed : group.has .dates = false ↔
        added .dates false steps = [] ∧ added .dates true steps = [] := by
      rw [← Bool.not_eq_true, holds.filled.has_iff, not_exists, Bool.forall_bool]
      simp only [holds.ranges, not_not]
    simp only [table, rows, row, holds.hasDates, Bool.and_eq_true, Bool.not_eq_true', unnamed]
    rfl

/-- Whatever is done with a group that was empty, after every step it reads as what was done, and a
step that asks for a field is told whether a range was added to it before. -/
theorem stages_read (steps : List Step) {n : Nat} (inside : n < steps.length) :
    ∃ answer group, (stages empty steps)[n]? = some (answer, group) ∧
      Reads (steps.take (n + 1)) group ∧
      ∀ field, steps[n] = .has field → ∃ told, answer = some told ∧
        (told = true ↔ ∃ range exclude, .add field range exclude ∈ steps.take n) := by
  obtain ⟨before, holds, stage⟩ := holds_empty.stages steps inside
  have after := (holds.perform steps[n]).reads
  rw [List.nil_append, List.take_append_getElem inside] at after
  refine ⟨_, _, stage, after, fun field asks => ⟨before.has field, ?_, holds.has_iff⟩⟩
  rw [asks]

/-- A group that is filled out of order, and asked for a field of which only ranges that are taken
away were added. -/
theorem stages_read_taken_away :
    let steps : List Step := [.setHasDates true, .add .hours (.single 9) false,
      .add .seconds (.single 5) true, .add .hours (.single 7) false, .has .seconds,
      .add .dates ⟨.date ⟨11, 25⟩, .date ⟨11, 25⟩, false, none⟩ true]
    4 < steps.length ∧
      ∃ answer group, (stages empty steps)[4]? = some (answer, group) ∧
        Reads (steps.take 5) group ∧ answer = some true ∧
        group.fields = [.seconds, .hours] ∧
        group.rows = [["seconds", "", "5"], ["hours", "9, 7", ""], ["dates", "any", ""]] := by
  intro steps
  have inside : 4 < steps.length := by decide
  obtain ⟨answer, group, stage, reads, told⟩ := stages_read steps inside
  have same : some (answer, group) = (stages empty steps)[4]? := stage.symm
  cases same
  exact ⟨inside, _, _, rfl, reads, by decide, by decide, by decide +kernel⟩

end Schedule.RuleGroup
