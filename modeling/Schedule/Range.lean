import Schedule.Calendar

/-! # Ranges

A compiled rule is a list of ranges. A range runs from its low to its high bound, both included;
a split one wraps past the end of its domain and is read as the part from the low bound to the
end and the part from the start to the high bound. A modulus `n` selects every `n`-th value,
counted from the low bound.
-/

namespace Schedule

/-- An end of a range: a number or a date. -/
inductive Bound where
  | number (value : Int)
  | date (value : MonthDay)
  deriving DecidableEq, Repr

/-- A bound as it is written. -/
def Bound.text : Bound → String
  | .number value => toString value
  | .date value => value.text

/-- The values from `low` to `high`. -/
structure Range where
  low : Bound
  high : Bound
  split : Bool := false
  modulus : Option Int := none
  deriving DecidableEq, Repr

namespace Range

/-- The range of one number. -/
def single (value : Int) : Range := ⟨.number value, .number value, false, none⟩

/-- A range as tables show it: one bound if both are equal, else both with a dash between, then
whether it is split, then its modulus. -/
def text (range : Range) : String :=
  (if range.low = range.high then range.low.text
    else range.low.text ++ "-" ++ range.high.text) ++
  (if range.split then " (split)" else "") ++
  match range.modulus with
  | some modulus => " %" ++ toString modulus
  | none => ""

end Range

end Schedule
