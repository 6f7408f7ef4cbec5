import Schedule.Proofs.RuleGroup.Wrap

/-! # Literals and their ranges

Which literals a field takes and the range that each of them denotes there, said without the order
in which it is checked and computed. What counts are the ends as they are written: a single number
with a modulus runs on to the greatest value of its field, but that value is never what is checked,
and weekdays and months are counted from 0 only in the range.
-/

namespace Schedule

/-- The field takes the operand as an argument, if the modulus is right. Every field takes the
wildcard. Numbers have to lie between the bounds of their field, both ends of a range alike; names
of weekdays belong to the weekdays, and dates belong to the dates, which take nothing else. -/
inductive Operand.FitsIn (field : Field) : Operand → Prop where
  | wildcard : FitsIn field .wildcard
  | number {value : Int} (numbers : field ≠ .dates) (allowed : field.Allows value) :
      FitsIn field (.number value)
  | range {low high : Int} (numbers : field ≠ .dates) (least : field.Allows low)
      (greatest : field.Allows high) : FitsIn field (.range low high)
  | days {low high : Int} (week : field = .daysOfWeek) (least : field.Allows low)
      (greatest : field.Allows high) : FitsIn field (.days low high)
  | dates {low high : MonthDay} (dates : field = .dates) : FitsIn field (.dates low high)

/-- The first and the last number that an operand names in a field of numbers. -/
inductive Operand.Ends (field : Field) : Operand → Int → Int → Prop where
  | wildcard : Ends field .wildcard field.first field.greatest
  | number (value : Int) : Ends field (.number value) value value
  | range (low high : Int) : Ends field (.range low high) low high
  | days (week : field = .daysOfWeek) (low high : Int) : Ends field (.days low high) low high

/-- The first and the last day that an operand names among dates. -/
inductive Operand.Dates : Operand → MonthDay → MonthDay → Prop where
  | wildcard : Dates .wildcard ⟨1, 1⟩ ⟨12, 31⟩
  | dates (low high : MonthDay) : Dates (.dates low high) low high

/-- The operand is a single number. -/
def Operand.isNumber : Operand → Bool
  | .number _ => true
  | _ => false

/-- A literal with these ends runs on to the greatest value of the field: it has a modulus other
than zero and is a single number or a single day of the week. -/
def Literal.RunsOn (field : Field) (l : Literal) (low high : Int) : Prop :=
  (l.modulus ≠ none ∧ l.modulus ≠ some 0) ∧
    (l.operand.isNumber = true ∨ field = .daysOfWeek ∧ low = high)

instance (field : Field) (l : Literal) (low high : Int) : Decidable (l.RunsOn field low high) :=
  inferInstanceAs (Decidable (_ ∧ _))

/-- Where a literal with these ends stops. -/
def Literal.last (field : Field) (l : Literal) (low high : Int) : Int :=
  if l.RunsOn field low high then field.greatest else high

/-- How far the numbers of a compiled range are behind the written ones. -/
def Field.back (field : Field) : Int :=
  if field = .daysOfWeek then 1 else 0

/-- The range of a literal with these ends. It is split if its last value comes before its first,
unless the last one counts back from the end of the month and the first one does not. -/
def Literal.between (field : Field) (l : Literal) (low high : Int) : Range where
  low := .number (low - field.back)
  high := .number (l.last field low high - field.back)
  split := l.last field low high < low ∧ ¬ (0 ≤ low ∧ field.CountsBack (l.last field low high))
  modulus := l.modulus

/-- The range of a literal with these dates as its ends. -/
def Literal.betweenDates (l : Literal) (low high : MonthDay) : Range where
  low := .date ⟨low.month - 1, low.day⟩
  high := .date ⟨high.month - 1, high.day⟩
  split := high.before low
  modulus := l.modulus

/-- The range is that of the literal's ends, which are dates among dates and numbers elsewhere. -/
inductive Literal.Denotes (field : Field) (l : Literal) : Range → Prop where
  | numbers {low high : Int} (numbers : field ≠ .dates) (ends : l.operand.Ends field low high) :
      Denotes field l (l.between field low high)
  | dates {low high : MonthDay} (dates : field = .dates) (ends : l.operand.Dates low high) :
      Denotes field l (l.betweenDates low high)

variable {field : Field} {l : Literal} {low high : Int} {range : Range}

theorem Literal.steps_iff (l : Literal) :
    l.steps = true ↔ l.modulus ≠ none ∧ l.modulus ≠ some 0 := by
  unfold Literal.steps
  cases l.modulus <;> simp

/-! ### Numbers -/

theorem Field.allows_first (field : Field) : field.Allows field.first := by
  refine ⟨field.bounds_ordered.1, field.bounds_ordered.2, ?_⟩
  rintro rfl
  decide

theorem Field.allows_greatest (field : Field) : field.Allows field.greatest := by
  refine ⟨field.bounds_ordered.1.trans field.bounds_ordered.2, le_refl _, ?_⟩
  rintro rfl
  decide

/-- A literal that runs on has one end only, so it is enough to check the ends that are written. -/
theorem allows_last_iff (ends : l.operand.Ends field low high) (least : field.Allows low) :
    field.Allows (l.last field low high) ↔ field.Allows high := by
  unfold Literal.last
  split
  · next runsOn =>
    have same : low = high := by
      rcases runsOn.2 with number | ⟨_, same⟩
      · cases operand : l.operand <;> rw [operand] at ends number <;> cases ends <;>
          first | rfl | contradiction
      · exact same
    exact iff_of_true field.allows_greatest (same ▸ least)
  · rfl

theorem Span.high_ofWeek (low high : Int) (steps : Bool) :
    (ofWeek low high steps).high =
      if steps = true ∧ low = high then Field.daysOfWeek.greatest else high := by
  unfold ofWeek
  by_cases same : low = high
  · subst same
    cases steps <;> simp
  · split
    · simp [same]
    · simp [same, eq_comm (a := high)]

theorem Literal.last_eq (field : Field) (l : Literal) (low high : Int) :
    l.last field low high =
      if l.steps = true ∧ (l.operand.isNumber = true ∨ field = .daysOfWeek ∧ low = high) then
        field.greatest
      else high :=
  if_congr (and_congr_left' l.steps_iff.symm) rfl rfl

/-- What a literal covers begins and stops where its ends say. -/
theorem exists_span_of_ends (ends : l.operand.Ends field low high) :
    ∃ span, Span.ofLiteral field l = .ok span ∧ span.low = low ∧
      span.high = l.last field low high := by
  rw [Literal.last_eq]
  unfold Span.ofLiteral
  cases operand : l.operand <;> rw [operand] at ends <;> cases ends
  case number => exact ⟨_, rfl, rfl, by simp [Span.ofNumber, Operand.isNumber]⟩
  case range =>
    by_cases week : field = .daysOfWeek
    · subst week
      exact ⟨_, rfl, Span.low_ofWeek .., by simp [Span.high_ofWeek, Operand.isNumber]⟩
    · exact ⟨_, if_neg week, rfl, by simp [Span.ofRange, Operand.isNumber, week]⟩
  case days week =>
    subst week
    exact ⟨_, rfl, Span.low_ofWeek .., by simp [Span.high_ofWeek, Operand.isNumber]⟩
  case wildcard =>
    -- a week has more than one day
    have notOneDay : ¬ (field = .daysOfWeek ∧ field.first = field.greatest) := by
      rintro ⟨rfl, same⟩
      contradiction
    exact ⟨_, rfl, rfl, by simp [Operand.isNumber, notOneDay]⟩

/-- A literal covers numbers only if its operand has ends. -/
theorem exists_ends_of_span {span : Span} (covers : Span.ofLiteral field l = .ok span) :
    ∃ low high, l.operand.Ends field low high := by
  unfold Span.ofLiteral at covers
  split at covers
  · next wildcard => exact ⟨field.first, field.greatest, wildcard ▸ .wildcard⟩
  · contradiction
  · next low high days =>
    split at covers
    · next week => exact ⟨low, high, days ▸ .days week low high⟩
    · contradiction
  · next value number => exact ⟨value, value, number ▸ .number value⟩
  · next low high range => exact ⟨low, high, range ▸ .range low high⟩

/-- In a field of numbers fit exactly the operands with ends that the field allows. -/
theorem fitsIn_iff_ends (numbers : field ≠ .dates) (operand : Operand) :
    operand.FitsIn field ↔
      ∃ low high, operand.Ends field low high ∧ field.Allows low ∧ field.Allows high := by
  constructor
  · intro fits
    cases fits with
    | wildcard => exact ⟨_, _, .wildcard, field.allows_first, field.allows_greatest⟩
    | number _ allowed => exact ⟨_, _, .number _, allowed, allowed⟩
    | range _ least greatest => exact ⟨_, _, .range .., least, greatest⟩
    | days week least greatest => exact ⟨_, _, .days week .., least, greatest⟩
    | dates dates => contradiction
  · rintro ⟨low, high, ends, least, greatest⟩
    cases ends with
    | wildcard => exact .wildcard
    | number => exact .number numbers least
    | range => exact .range numbers least greatest
    | days week => exact .days week least greatest

theorem span_of_ends {span : Span} (covers : Span.ofLiteral field l = .ok span)
    (ends : l.operand.Ends field low high) :
    span.low = low ∧ span.high = l.last field low high := by
  obtain ⟨_, covers', same⟩ := exists_span_of_ends ends
  rw [covers, Except.ok.injEq] at covers'
  exact covers' ▸ same

/-- What a literal covers makes the range of its ends. -/
theorem toRange_of_ends {span : Span} (covers : Span.ofLiteral field l = .ok span)
    (least : field.Allows span.low) (greatest : field.Allows span.high)
    (ends : l.operand.Ends field low high) :
    span.toRange field l.modulus = l.between field low high := by
  obtain ⟨begins, stops⟩ := span_of_ends covers ends
  have split : span.split =
      decide (span.high < span.low ∧ ¬ (0 ≤ span.low ∧ field.CountsBack span.high)) := by
    rw [Bool.eq_iff_iff, decide_eq_true_eq]
    exact Span.split_iff covers least greatest
  rw [Span.toRange, Literal.between, Field.back, split, begins, stops]

/-- In a field of numbers, a literal has the range that it denotes if its operand fits. -/
theorem normalizeNumber_iff_denotes (numbers : field ≠ .dates) :
    normalizeNumber field l = .ok range ↔
      l.Steppable ∧ l.operand.FitsIn field ∧ l.Denotes field range := by
  rw [normalizeNumber_eq_ok_iff, fitsIn_iff_ends numbers]
  constructor
  · rintro ⟨span, covers, least, greatest, stepped, rfl⟩
    obtain ⟨low, high, ends⟩ := exists_ends_of_span covers
    obtain ⟨begins, stops⟩ := span_of_ends covers ends
    have same := toRange_of_ends covers least greatest ends
    rw [begins] at least
    rw [stops, allows_last_iff ends least] at greatest
    exact ⟨stepped, ⟨low, high, ends, least, greatest⟩, same ▸ .numbers numbers ends⟩
  · rintro ⟨stepped, ⟨low, high, ends, least, greatest⟩, denotes⟩
    obtain ⟨span, covers, begins, stops⟩ := exists_span_of_ends ends
    rw [← allows_last_iff ends least, ← stops] at greatest
    rw [← begins] at least
    refine ⟨span, covers, least, greatest, stepped, ?_⟩
    cases denotes with
    | numbers _ ends' => exact toRange_of_ends covers least greatest ends'
    | dates dates => contradiction

/-! ### Dates -/

/-- Among dates fit exactly the operands whose ends are dates. -/
theorem fitsIn_dates_iff (operand : Operand) :
    operand.FitsIn .dates ↔ ∃ low high, operand.Dates low high := by
  constructor
  · intro fits
    cases fits with
    | wildcard => exact ⟨_, _, .wildcard⟩
    | number numbers => contradiction
    | range numbers => contradiction
    | days week => contradiction
    | dates => exact ⟨_, _, .dates ..⟩
  · rintro ⟨low, high, ends⟩
    cases ends with
    | wildcard => exact .wildcard
    | dates => exact .dates rfl

/-- Among dates, a literal has the range that it denotes if its operand fits. -/
theorem normalizeDate_iff_denotes :
    normalizeDate l = .ok range ↔
      l.Steppable ∧ l.operand.FitsIn .dates ∧ l.Denotes .dates range := by
  have ends_iff (low high : MonthDay) : l.operand.Dates low high ↔
      l.operand = .dates low high ∨ l.operand = .wildcard ∧ low = firstDate ∧ high = lastDate := by
    constructor
    · intro ends
      cases operand : l.operand <;> rw [operand] at ends <;> cases ends <;>
        simp [firstDate, lastDate]
    · rintro (written | ⟨wildcard, rfl, rfl⟩)
      · exact written ▸ .dates low high
      · exact wildcard ▸ .wildcard
  rw [normalizeDate_eq_ok_iff, fitsIn_dates_iff]
  simp only [← ends_iff]
  constructor
  · rintro ⟨low, high, ends, stepped, rfl⟩
    exact ⟨stepped, ⟨low, high, ends⟩, .dates rfl ends⟩
  · rintro ⟨stepped, _, denotes⟩
    cases denotes with
    | numbers numbers => contradiction
    | dates _ ends => exact ⟨_, _, ends, stepped, rfl⟩

/-! ### Every field -/

theorem normalize_iff_denotes (field : Field) (l : Literal) (range : Range) :
    normalize field l = .ok range ↔
      l.Steppable ∧ l.operand.FitsIn field ∧ l.Denotes field range := by
  unfold normalize
  split
  · next dates =>
    subst dates
    exact normalizeDate_iff_denotes
  · next numbers => exact normalizeNumber_iff_denotes numbers

/-- An operand that fits denotes a range, whatever the modulus is. -/
theorem exists_denotes (fits : l.operand.FitsIn field) : ∃ range, l.Denotes field range := by
  by_cases dates : field = .dates
  · subst dates
    obtain ⟨low, high, ends⟩ := (fitsIn_dates_iff _).mp fits
    exact ⟨_, .dates rfl ends⟩
  · obtain ⟨low, high, ends, _⟩ := (fitsIn_iff_ends dates _).mp fits
    exact ⟨_, .numbers dates ends⟩

/-- A field takes a literal exactly if its operand fits there and its modulus is not negative,
whatever the numbers in it are. Then the range is the one that the literal denotes. -/
theorem normalize_takes_and_denotes (field : Field) (l : Literal) :
    ((∃ range, normalize field l = .ok range) ↔ l.Steppable ∧ l.operand.FitsIn field) ∧
      ∀ range, normalize field l = .ok range ↔
        l.Steppable ∧ l.operand.FitsIn field ∧ l.Denotes field range := by
  refine ⟨?_, normalize_iff_denotes field l⟩
  simp only [normalize_iff_denotes]
  constructor
  · rintro ⟨_, stepped, fits, _⟩
    exact ⟨stepped, fits⟩
  · rintro ⟨stepped, fits⟩
    obtain ⟨range, denotes⟩ := exists_denotes fits
    exact ⟨range, stepped, fits, denotes⟩

end Schedule
