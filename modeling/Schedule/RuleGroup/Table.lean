import Schedule.RuleGroup
import Schedule.Table

/-! # Tables of rules and fields

A rule group is shown as a table with a row for each field that it constrains; the fields
themselves are shown as a table of their bounds and names.
-/

namespace Schedule

/-- The ranges of one cell. -/
def Range.listText (ranges : List Range) : String :=
  ", ".intercalate (ranges.map Range.text)

namespace RuleGroup

/-- The row of one field: its name, what is allowed and what is taken away. -/
def row (group : RuleGroup) (field : Field) : List String :=
  [field.name, Range.listText (group.ranges field false),
    Range.listText (group.ranges field true)]

/-- The rows of a group: one for each constrained field, and a last one if the group speaks of
dates without naming any. -/
def rows (group : RuleGroup) : List (List String) :=
  group.fields.map group.row ++
    if group.hasDates && !group.has .dates then [[Field.dates.name, "any", ""]] else []

/-- The table of a group under its number. -/
def table (group : RuleGroup) (number : Int) : Table :=
  ⟨"Group " ++ toString number, ["Field", "Include", "Exclude"], group.rows⟩

end RuleGroup

namespace Field

/-- The row of a field in the list of all fields. -/
def row (field : Field) : List String :=
  [field.name, toString field.least, toString field.greatest, ", ".intercalate field.aliases]

/-- The list of all fields with their bounds and names. -/
def table : Table :=
  ⟨"Fields", ["Field", "Min", "Max", "Names"], all.map row⟩

end Field

end Schedule
