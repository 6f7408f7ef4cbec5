import Mathlib.Data.Prod.Lex
import Schedule.Proofs.Compilation
import Schedule.Proofs.RuleGroup.Normal

/-! # Which ranges wrap

A range should be marked as split exactly if it wraps past the end of its domain, which is to say
if its low bound comes after its high bound. Days counted back from the end of the month come after
all others, so the order that counts is not that of the numbers. The mark and the order agree but
for one kind of range: one that begins with a day counted back and ends with one counted on, such as
the last five days of a month and the first three of the next, wraps and is not marked.
-/

namespace Schedule

/-- The number counts days back from the end of a month. -/
def Field.CountsBack (field : Field) (value : Int) : Prop :=
  field = .daysOfMonth ∧ value < 0

instance (field : Field) (value : Int) : Decidable (field.CountsBack value) :=
  inferInstanceAs (Decidable (_ ∧ _))

/-- The place of a bound in the order of its field: numbers by size, but those that count back after
the others; dates by month and then by day. -/
def Bound.rank (field : Field) : Bound → ℤ ×ₗ ℤ
  | .number value => toLex (if field.CountsBack value then 1 else 0, value)
  | .date value => toLex (value.month, value.day)

/-- The range begins with a day counted back and ends with one that is not. -/
def Range.IntoNextMonth (field : Field) (range : Range) : Prop :=
  ∃ low high, range.low = .number low ∧ range.high = .number high ∧ field.CountsBack low ∧ 0 < high

/-- The range is marked as split exactly if its low bound comes after its high bound. -/
def Range.MarkedRight (field : Field) (range : Range) : Prop :=
  (range.split = true ↔ range.high.rank field < range.low.rank field) ∧
    (range.split = false ↔ range.low.rank field ≤ range.high.rank field)

variable {field : Field} {l : Literal} {range : Range}

namespace Range

/-- As the order is total, it is enough to know when a range is marked. -/
theorem markedRight_of_iff
    (marked : range.split = true ↔ range.high.rank field < range.low.rank field) :
    range.MarkedRight field := by
  refine ⟨marked, ?_⟩
  rw [← Bool.not_eq_true, marked, not_lt]

/-- Into the next month runs no range but one of numbers, whose ends decide it. -/
theorem intoNextMonth_iff (low high : Int) (split : Bool) (modulus : Option Int) :
    (Range.mk (.number low) (.number high) split modulus).IntoNextMonth field ↔
      field.CountsBack low ∧ 0 < high := by
  constructor
  · rintro ⟨_, _, ⟨⟩, ⟨⟩, into⟩
    exact into
  · rintro ⟨back, positive⟩
    exact ⟨low, high, rfl, rfl, back, positive⟩

end Range

theorem Bound.rank_lt_iff (field : Field) (a b : Int) :
    (Bound.number a).rank field < (Bound.number b).rank field ↔
      (¬ field.CountsBack a ∧ field.CountsBack b) ∨
        ((field.CountsBack a ↔ field.CountsBack b) ∧ a < b) := by
  rw [rank, rank, Prod.Lex.toLex_lt_toLex]
  by_cases first : field.CountsBack a <;> by_cases second : field.CountsBack b <;>
    simp [first, second]

namespace Span

variable {span : Span}

/-- Weekdays are split exactly if they end before they begin, even if one day runs on. -/
theorem split_ofWeek (low high : Int) (steps : Bool) (allowed : low ≤ Field.daysOfWeek.greatest) :
    (ofWeek low high steps).split = true ↔
      (ofWeek low high steps).high < (ofWeek low high steps).low := by
  unfold ofWeek
  split
  · next wraps => simpa using wraps
  · next ordered =>
    split
    · simpa using allowed
    · simpa using ordered

theorem low_ofWeek (low high : Int) (steps : Bool) : (ofWeek low high steps).low = low := by
  unfold ofWeek
  split
  · rfl
  · split <;> rfl

/-- A span is split exactly if it ends before it begins, unless it runs on into the days that count
back from the end of the month. -/
theorem split_iff (covers : ofLiteral field l = .ok span) (low : field.Allows span.low)
    (high : field.Allows span.high) :
    span.split = true ↔ span.high < span.low ∧ ¬ (0 ≤ span.low ∧ field.CountsBack span.high) := by
  have week {first last : Int} (same : ofWeek first last l.steps = span)
      (isWeek : field = .daysOfWeek) :
      span.split = true ↔ span.high < span.low ∧ ¬ (0 ≤ span.low ∧ field.CountsBack span.high) := by
    subst same isWeek
    have allowed := low.greatest
    rw [low_ofWeek] at allowed
    simp [split_ofWeek first last l.steps allowed, Field.CountsBack]
  unfold ofLiteral at covers
  split at covers
  · cases covers
    simp only [Bool.false_eq_true, false_iff, not_and]
    exact fun wraps => absurd wraps (not_lt.mpr (Field.bounds_ordered field).2)
  · contradiction
  · split at covers
    · next isWeek => exact week (Except.ok.inj covers) isWeek
    · contradiction
  · next value _ =>
    cases covers
    have least : value ≤ (ofNumber field value l.steps).high := by
      unfold ofNumber
      split
      · exact low.greatest
      · exact le_refl _
    simp only [ofNumber, Bool.false_eq_true, false_iff, not_and] at least ⊢
    exact fun wraps => absurd wraps (not_lt.mpr least)
  · split at covers
    · next isWeek => exact week (Except.ok.inj covers) isWeek
    · next first last _ _ =>
      cases covers
      have least := high.least
      simp only [ofRange, decide_eq_true_eq, Field.CountsBack] at least ⊢
      -- only days of the month may be negative
      have negative : last < 0 → field = .daysOfMonth := by
        intro negative
        cases field <;> simp only [Field.least] at least <;> first | rfl | omega
      tauto

/-- The range of a span is marked right, or runs into the next month and is not marked. -/
theorem markedRight (covers : ofLiteral field l = .ok span) (low : field.Allows span.low)
    (high : field.Allows span.high) (modulus : Option Int) :
    (¬ (span.toRange field modulus).IntoNextMonth field →
        (span.toRange field modulus).MarkedRight field) ∧
      ((span.toRange field modulus).IntoNextMonth field →
        (span.toRange field modulus).split = false ∧
          (span.toRange field modulus).high.rank field <
            (span.toRange field modulus).low.rank field) := by
  have split := split_iff covers low high
  have lowDay := low.day
  have highDay := high.day
  unfold toRange
  simp only [Range.intoNextMonth_iff]
  by_cases month : field = .daysOfMonth
  · subst month
    simp only [reduceCtorEq, if_false, Int.sub_zero, Field.CountsBack, true_and, true_implies]
      at split lowDay highDay ⊢
    constructor
    · intro within
      apply Range.markedRight_of_iff
      rw [Bound.rank_lt_iff, split]
      simp only [Field.CountsBack, true_and]
      omega
    · rintro ⟨back, positive⟩
      rw [Bound.rank_lt_iff, ← Bool.not_eq_true, split]
      simp only [Field.CountsBack, true_and]
      omega
  · simp only [Field.CountsBack, month, false_and, and_false, not_false_eq_true, and_true,
      true_implies, false_implies] at split ⊢
    apply Range.markedRight_of_iff
    rw [Bound.rank_lt_iff, split]
    simp only [Field.CountsBack, month, false_and, and_false, iff_self, true_and, false_or]
    split_ifs <;> omega

end Span

/-- Ranges of dates are marked right: a later month, or a later day of the same month, comes
later. -/
theorem dateRange_markedRight (low high : MonthDay) (modulus : Option Int) :
    (dateRange low high modulus).MarkedRight field := by
  apply Range.markedRight_of_iff
  simp only [dateRange, MonthDay.before, MonthDay.monthBack, Bound.rank, Prod.Lex.toLex_lt_toLex,
    Bool.or_eq_true, Bool.and_eq_true, decide_eq_true_eq, beq_iff_eq]
  omega

/-- Normalization marks the ranges that wrap, but for those into the next month. -/
theorem markedRight_of_normalize (success : normalize field l = .ok range) :
    (¬ range.IntoNextMonth field → range.MarkedRight field) ∧
      (range.IntoNextMonth field →
        range.split = false ∧ range.high.rank field < range.low.rank field) := by
  unfold normalize at success
  split at success
  · obtain ⟨low, high, _, _, rfl⟩ := normalizeDate_eq_ok_iff.mp success
    refine ⟨fun _ => dateRange_markedRight low high l.modulus, ?_⟩
    rintro ⟨_, _, ⟨⟩, _⟩
  · obtain ⟨span, covers, low, high, _, rfl⟩ := normalizeNumber_eq_ok_iff.mp success
    exact Span.markedRight covers low high l.modulus

/-- A single number does not wrap. -/
theorem single_markedRight (field : Field) (value : Int) :
    (Range.single value).MarkedRight field := by
  simp [Range.MarkedRight, Range.single]

theorem single_not_intoNextMonth (field : Field) (value : Int) :
    ¬ (Range.single value).IntoNextMonth field := by
  rw [Range.single, Range.intoNextMonth_iff]
  rintro ⟨⟨_, negative⟩, positive⟩
  omega

/-- In everything that compiles, a range is marked as split exactly if it wraps, unless it runs
into the next month. Those that do are never marked, although they wrap. -/
theorem split_iff_wraps {config : Config} {text : String} {groups : List RuleGroup}
    (success : compile config text = .ok groups) {group : RuleGroup} (member : group ∈ groups)
    {exclude : Bool} (inside : range ∈ group.ranges field exclude) :
    (¬ range.IntoNextMonth field → range.MarkedRight field) ∧
      (range.IntoNextMonth field →
        range.split = false ∧ range.high.rank field < range.low.rank field) := by
  rcases normalize_of_compile success member inside with rfl | ⟨l, normal⟩
  · exact ⟨fun _ => single_markedRight field 0,
      fun into => absurd into (single_not_intoNextMonth field 0)⟩
  · exact markedRight_of_normalize normal

/-- The group of a schedule that only speaks of some days of the month. -/
def RuleGroup.ofDays (range : Range) : RuleGroup :=
  { includes := { seconds := some [.single 0], minutes := some [.single 0],
                  hours := some [.single 0], daysOfWeek := none, daysOfMonth := some [range],
                  dates := none } }

/-- From the 5th to the 1st, a range wraps and is marked. -/
theorem fifth_to_first_marked :
    let range : Range := ⟨.number 5, .number 1, true, none⟩
    compile {} "dom(5-1)" = .ok [.ofDays range] ∧ range.MarkedRight .daysOfMonth := by
  intro range
  have success : compile {} "dom(5-1)" = .ok [.ofDays range] := by decide +kernel
  have within : ¬ range.IntoNextMonth .daysOfMonth := by
    rw [Range.intoNextMonth_iff]
    decide
  have inside : range ∈ (RuleGroup.ofDays range).ranges .daysOfMonth false := List.mem_cons_self
  exact ⟨success, (split_iff_wraps success List.mem_cons_self inside).1 within⟩

/-- From the fifth last day to the 3rd, a range wraps and is not marked. -/
theorem fifth_last_to_third_not_marked :
    let range : Range := ⟨.number (-5), .number 3, false, none⟩
    compile {} "dom(-5-3)" = .ok [.ofDays range] ∧
      range.high.rank .daysOfMonth < range.low.rank .daysOfMonth ∧
      ¬ range.MarkedRight .daysOfMonth := by
  intro range
  have success : compile {} "dom(-5-3)" = .ok [.ofDays range] := by decide +kernel
  have wraps : range.high.rank .daysOfMonth < range.low.rank .daysOfMonth := by
    rw [Bound.rank_lt_iff]
    decide
  exact ⟨success, wraps, fun marked => Bool.false_ne_true (marked.1.mpr wraps)⟩

end Schedule
