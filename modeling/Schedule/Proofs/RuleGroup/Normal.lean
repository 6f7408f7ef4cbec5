import Schedule.Proofs.Outcome
import Schedule.RuleGroup.Normal

/-! # What normalization accepts

Which literals have a range in a field, and which range that is: a literal is accepted if both ends
of what it covers are numbers that the field allows and its modulus is not negative.
-/

namespace Schedule

/-- An argument may name the number in this field. There is no day 0 of a month. -/
structure Field.Allows (field : Field) (value : Int) : Prop where
  least : field.least ≤ value
  greatest : value ≤ field.greatest
  day : field = .daysOfMonth → value ≠ 0

/-- What a modulus counts in steps of is not negative. -/
def Literal.Steppable (l : Literal) : Prop :=
  ∀ modulus ∈ l.modulus, 0 ≤ modulus

variable {field : Field} {l : Literal} {range : Range}

theorem Span.check_eq_ok_iff (field : Field) (span : Span) :
    span.check field = .ok () ↔ field.Allows span.low ∧ field.Allows span.high := by
  unfold Span.check
  constructor
  · intro success
    split_ifs at success with low high zero
    have days (day : field = .daysOfMonth) : span.low ≠ 0 ∧ span.high ≠ 0 := by tauto
    exact ⟨⟨by omega, by omega, fun day => (days day).1⟩,
      ⟨by omega, by omega, fun day => (days day).2⟩⟩
  · rintro ⟨low, high⟩
    have notZero : ¬ (field = .daysOfMonth ∧ (span.low = 0 ∨ span.high = 0)) := by
      rintro ⟨day, zero | zero⟩
      · exact low.day day zero
      · exact high.day day zero
    have := low.least
    have := low.greatest
    have := high.least
    have := high.greatest
    rw [if_neg (by omega), if_neg (by omega), if_neg notZero]

theorem checkModulus_eq_ok_iff (l : Literal) : checkModulus l = .ok () ↔ l.Steppable := by
  unfold checkModulus Literal.Steppable
  cases l.modulus with
  | none => simp
  | some modulus => by_cases negative : modulus < 0 <;> simp [negative]; omega

/-- A literal has a range in a field of numbers if the field allows the ends of what it covers. -/
theorem normalizeNumber_eq_ok_iff :
    normalizeNumber field l = .ok range ↔ ∃ span, Span.ofLiteral field l = .ok span ∧
      field.Allows span.low ∧ field.Allows span.high ∧ l.Steppable ∧
      span.toRange field l.modulus = range := by
  simp only [normalizeNumber, bind_eq_ok_iff, Except.ok.injEq]
  constructor
  · rintro ⟨span, covers, ⟨⟩, checked, ⟨⟩, stepped, same⟩
    obtain ⟨low, high⟩ := (Span.check_eq_ok_iff ..).mp checked
    exact ⟨span, covers, low, high, (checkModulus_eq_ok_iff l).mp stepped, same⟩
  · rintro ⟨span, covers, low, high, stepped, same⟩
    exact ⟨span, covers, (), (Span.check_eq_ok_iff ..).mpr ⟨low, high⟩, (),
      (checkModulus_eq_ok_iff l).mpr stepped, same⟩

/-- A literal has a range among dates if it is made of dates or stands for all of them. -/
theorem normalizeDate_eq_ok_iff :
    normalizeDate l = .ok range ↔ ∃ low high,
      (l.operand = .dates low high ∨ l.operand = .wildcard ∧ low = firstDate ∧ high = lastDate) ∧
      l.Steppable ∧ dateRange low high l.modulus = range := by
  -- what follows the choice of the dates does not depend on how they were chosen
  have finish (low high : MonthDay) :
      ((do checkModulus l; .ok (dateRange low high l.modulus)) : Except Fault Range) = .ok range ↔
        l.Steppable ∧ dateRange low high l.modulus = range := by
    rw [bind_eq_ok_iff, ← checkModulus_eq_ok_iff]
    constructor
    · rintro ⟨⟨⟩, checked, ⟨⟩⟩
      exact ⟨checked, rfl⟩
    · rintro ⟨checked, rfl⟩
      exact ⟨(), checked, rfl⟩
  constructor
  · intro success
    unfold normalizeDate at success
    split at success
    · next wildcard => exact ⟨_, _, .inr ⟨wildcard, rfl, rfl⟩, (finish ..).mp success⟩
    · next low high dates => exact ⟨low, high, .inl dates, (finish ..).mp success⟩
    · contradiction
  · rintro ⟨low, high, dates | ⟨wildcard, rfl, rfl⟩, accepted⟩
    · unfold normalizeDate
      rw [dates]
      exact (finish ..).mpr accepted
    · unfold normalizeDate
      rw [wildcard]
      exact (finish ..).mpr accepted

/-- The modulus of a literal is that of its range. -/
theorem modulus_of_normalize (success : normalize field l = .ok range) :
    range.modulus = l.modulus ∧ l.Steppable := by
  unfold normalize at success
  split at success
  · obtain ⟨_, _, _, stepped, rfl⟩ := normalizeDate_eq_ok_iff.mp success
    exact ⟨rfl, stepped⟩
  · obtain ⟨_, _, _, _, stepped, rfl⟩ := normalizeNumber_eq_ok_iff.mp success
    exact ⟨rfl, stepped⟩

end Schedule
