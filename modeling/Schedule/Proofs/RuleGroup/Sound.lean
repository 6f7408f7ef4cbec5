import Schedule.Proofs.Compilation
import Schedule.Proofs.RuleGroup.Normal
import Schedule.Proofs.WellFormed

/-! # Compiled groups are sound

What can be relied on in every compiled group: the seconds are constrained, dates are announced, and
every range has bounds from the domain of its field and a modulus that can be counted with. Numbers
are checked when a literal is normalized, dates when it is read; the zeros to which time fields are
pinned are added after all checks.
-/

namespace Schedule

/-- The bound can stand in a compiled range of the field. Weekdays and months count from 0. -/
def Bound.InDomain : Field → Bound → Prop
  | .seconds, number value => 0 ≤ value ∧ value ≤ 59
  | .minutes, number value => 0 ≤ value ∧ value ≤ 59
  | .hours, number value => 0 ≤ value ∧ value ≤ 23
  | .daysOfWeek, number value => 0 ≤ value ∧ value ≤ 6
  | .daysOfMonth, number value => -31 ≤ value ∧ value ≤ 31 ∧ value ≠ 0
  | .dates, date value => 0 ≤ value.month ∧ value.month ≤ 11 ∧
      MonthDay.Exists ⟨value.month + 1, value.day⟩
  | _, _ => False

instance (date : MonthDay) : Decidable date.Exists :=
  match found : daysInMonth date.month with
  | .ok days => decidable_of_iff (1 ≤ date.day ∧ date.day ≤ days) (by simp [MonthDay.Exists, found])
  | .error _ => .isFalse (by simp [MonthDay.Exists, found])

instance : (field : Field) → (bound : Bound) → Decidable (bound.InDomain field)
  | .seconds, .number _ => inferInstanceAs (Decidable (_ ∧ _))
  | .minutes, .number _ => inferInstanceAs (Decidable (_ ∧ _))
  | .hours, .number _ => inferInstanceAs (Decidable (_ ∧ _))
  | .daysOfWeek, .number _ => inferInstanceAs (Decidable (_ ∧ _))
  | .daysOfMonth, .number _ => inferInstanceAs (Decidable (_ ∧ _))
  | .dates, .date _ => inferInstanceAs (Decidable (_ ∧ _))
  | .seconds, .date _ => .isFalse id
  | .minutes, .date _ => .isFalse id
  | .hours, .date _ => .isFalse id
  | .daysOfWeek, .date _ => .isFalse id
  | .daysOfMonth, .date _ => .isFalse id
  | .dates, .number _ => .isFalse id

/-- The range can stand in a compiled group: its bounds are in the domain of its field, its modulus
has at most nine digits and is not negative, and a modulus does not stand idle beside one day of
the week, unless it is the last one. -/
structure Range.Sound (field : Field) (range : Range) : Prop where
  low : range.low.InDomain field
  high : range.high.InDomain field
  modulus : ∀ modulus ∈ range.modulus, 0 ≤ modulus ∧ modulus ≤ 999999999
  oneDay : field = .daysOfWeek → range.low = range.high → range.low ≠ .number 6 →
    ∀ modulus ∈ range.modulus, modulus = 0

instance (field : Field) (range : Range) : Decidable (range.Sound field) :=
  decidable_of_iff
    (range.low.InDomain field ∧ range.high.InDomain field ∧
      (∀ modulus ∈ range.modulus, 0 ≤ modulus ∧ modulus ≤ 999999999) ∧
      (field = .daysOfWeek → range.low = range.high → range.low ≠ .number 6 →
        ∀ modulus ∈ range.modulus, modulus = 0))
    ⟨fun ⟨low, high, modulus, oneDay⟩ => ⟨low, high, modulus, oneDay⟩,
      fun ⟨low, high, modulus, oneDay⟩ => ⟨low, high, modulus, oneDay⟩⟩

namespace RuleGroup

/-- The lists that one side of a group stores, each under its field. -/
def stored (group : RuleGroup) (exclude : Bool) : List (Field × List Range) :=
  Field.all.filterMap fun field =>
    (group.stored? field exclude).map fun ranges => (field, ranges)

theorem mem_stored_iff {group : RuleGroup} {exclude : Bool} {field : Field} {ranges : List Range} :
    (field, ranges) ∈ group.stored exclude ↔ group.stored? field exclude = some ranges := by
  unfold stored
  rw [List.mem_filterMap]
  constructor
  · rintro ⟨other, _, same⟩
    obtain ⟨kept, found, same⟩ := Option.map_eq_some_iff.mp same
    cases same
    exact found
  · intro found
    exact ⟨field, field.mem_all, Option.map_eq_some_iff.mpr ⟨ranges, found, rfl⟩⟩

/-- What holds of every compiled group. -/
structure Sound (group : RuleGroup) : Prop where
  filled : ∀ exclude, ∀ entry ∈ group.stored exclude, entry.2 ≠ []
  seconds : group.has .seconds = true
  dates : group.has .dates = true → group.hasDates = true
  ranges : ∀ exclude, ∀ entry ∈ group.stored exclude, ∀ range ∈ entry.2, range.Sound entry.1

instance (group : RuleGroup) : Decidable group.Sound :=
  decidable_of_iff
    ((∀ exclude, ∀ entry ∈ group.stored exclude, entry.2 ≠ []) ∧ group.has .seconds = true ∧
      (group.has .dates = true → group.hasDates = true) ∧
      ∀ exclude, ∀ entry ∈ group.stored exclude, ∀ range ∈ entry.2, range.Sound entry.1)
    ⟨fun ⟨filled, seconds, dates, ranges⟩ => ⟨filled, seconds, dates, ranges⟩,
      fun ⟨filled, seconds, dates, ranges⟩ => ⟨filled, seconds, dates, ranges⟩⟩

/-- What a group stores are the ranges of its fields. -/
theorem sound_iff (group : RuleGroup) :
    group.Sound ↔ group.Filled ∧ group.has .seconds = true ∧
      (group.has .dates = true → group.hasDates = true) ∧
      ∀ field exclude, ∀ range ∈ group.ranges field exclude, range.Sound field := by
  constructor
  · rintro ⟨filled, seconds, dates, sound⟩
    have isFilled : group.Filled := fun field exclude stored =>
      filled exclude (field, []) (mem_stored_iff.mpr stored) rfl
    refine ⟨isFilled, seconds, dates, fun field exclude range member => ?_⟩
    have stored : (field, group.ranges field exclude) ∈ group.stored exclude :=
      mem_stored_iff.mpr (isFilled.stored?_eq_some_iff.mpr ⟨List.ne_nil_of_mem member, rfl⟩)
    exact sound exclude _ stored range member
  · rintro ⟨isFilled, seconds, dates, sound⟩
    refine ⟨?_, seconds, dates, ?_⟩
    · rintro exclude ⟨field, ranges⟩ listed
      exact (isFilled.stored?_eq_some_iff.mp (mem_stored_iff.mp listed)).1
    · rintro exclude ⟨field, ranges⟩ listed range member
      rw [← ranges_of_stored? (mem_stored_iff.mp listed)] at member
      exact sound field exclude range member

end RuleGroup

variable {field : Field} {l : Literal} {range : Range}

/-- A number that a field allows is in its domain once weekdays count from 0. -/
theorem inDomain_of_allows {value : Int} (numbers : field ≠ .dates) (allowed : field.Allows value) :
    (Bound.number (value - if field = .daysOfWeek then 1 else 0)).InDomain field := by
  have least := allowed.least
  have greatest := allowed.greatest
  have day := allowed.day
  cases field <;>
    simp only [Bound.InDomain, Field.least, Field.greatest, reduceCtorEq, if_true, if_false,
      true_implies] at * <;>
    first | contradiction | omega

/-- A date that exists is in the domain of dates once months count from 0. -/
theorem inDomain_of_exists {date : MonthDay} (valid : date.Exists) :
    (Bound.date date.monthBack).InDomain .dates := by
  obtain ⟨days, found, first, last⟩ := valid
  have inYear := (daysInMonth_isOk_iff date.month).mp ⟨days, found⟩
  have same : date.month - 1 + 1 = date.month := by omega
  simp only [Bound.InDomain, MonthDay.monthBack, same]
  exact ⟨by omega, by omega, days, found, first, last⟩

/-- Among weekdays, a single day but the last one has no modulus other than zero: with one it would
have run on. -/
theorem Span.steps_of_oneDay {span : Span} (covers : ofLiteral .daysOfWeek l = .ok span)
    (same : span.low = span.high) (notLast : span.low ≠ 7) : l.steps = false := by
  have week {low high : Int} (found : ofWeek low high l.steps = span) : l.steps = false := by
    subst found
    unfold ofWeek at same notLast
    split at same
    · next wraps =>
      dsimp only at same
      omega
    · next ordered =>
      rw [if_neg ordered] at notLast
      split at same
      · next runsOn =>
        rw [if_pos runsOn] at notLast
        exact absurd same notLast
      · next fixed =>
        dsimp only at same
        simpa [same] using fixed
  unfold ofLiteral at covers
  split at covers
  · cases covers
    contradiction
  · contradiction
  · exact week (Except.ok.inj covers)
  · cases covers
    simp only [ofNumber, Field.greatest] at same notLast
    split at same
    · exact absurd same notLast
    · next fixed => exact Bool.not_eq_true _ ▸ fixed
  · exact week (Except.ok.inj covers)

theorem modulus_eq_zero_of_steps (idle : l.steps = false) {modulus : Int}
    (member : modulus ∈ l.modulus) : modulus = 0 := by
  rw [Option.mem_def] at member
  simpa [Literal.steps, member] using idle

/-- The range of a well-formed literal is sound. -/
theorem sound_of_normalize (wellFormed : l.WellFormed) (success : normalize field l = .ok range) :
    range.Sound field := by
  have modulus : ∀ modulus ∈ range.modulus, 0 ≤ modulus ∧ modulus ≤ 999999999 := by
    obtain ⟨same, stepped⟩ := modulus_of_normalize success
    rw [same]
    intro modulus member
    have short := wellFormed.modulus modulus member
    have positive := stepped modulus member
    unfold Short at short
    omega
  unfold normalize at success
  split at success
  · next dates =>
    subst dates
    obtain ⟨low, high, covers, _, rfl⟩ := normalizeDate_eq_ok_iff.mp success
    have exist : low.Exists ∧ high.Exists := by
      rcases covers with written | ⟨_, rfl, rfl⟩
      · have := wellFormed.operand
        rwa [written] at this
      · exact ⟨⟨31, rfl, by decide, by decide⟩, ⟨31, rfl, by decide, by decide⟩⟩
    exact ⟨inDomain_of_exists exist.1, inDomain_of_exists exist.2, modulus, by simp⟩
  · next numbers =>
    obtain ⟨span, covers, low, high, _, rfl⟩ := normalizeNumber_eq_ok_iff.mp success
    refine ⟨inDomain_of_allows numbers low, inDomain_of_allows numbers high, modulus, ?_⟩
    rintro rfl same notLast value member
    simp only [Span.toRange, if_true, Bound.number.injEq, ne_eq] at same notLast
    exact modulus_eq_zero_of_steps
      (Span.steps_of_oneDay covers (by omega) (by omega)) member

/-- The zero to which a time field is pinned is sound. -/
theorem single_zero_sound (time : field ∈ Field.times) : (Range.single 0).Sound field := by
  simp only [Field.times, List.mem_cons, List.not_mem_nil, or_false] at time
  rcases time with rfl | rfl | rfl <;>
    exact ⟨by simp [Range.single, Bound.InDomain], by simp [Range.single, Bound.InDomain],
      by simp [Range.single], by simp⟩

/-- The literals that an expression means are well formed if the expression is. -/
theorem Node.Means.wellFormed {node : Node} (meant : node.Means l) (valid : node.WellFormed) :
    l.WellFormed := by
  cases meant with
  | written member =>
    exact (Node.wellFormedAll_iff _).mp valid.2 _ member
  | unwritten => exact ⟨trivial, by simp⟩

theorem Part.wellFormed {nodes part : List Node} (isPart : Part nodes part)
    (valid : Node.WellFormedAll nodes) : Node.WellFormedAll part := by
  rw [Node.wellFormedAll_iff] at valid
  cases isPart with
  | rules =>
    rw [Node.wellFormedAll_iff]
    exact fun node member => valid node (List.mem_filter.mp member).1
  | arguments member => exact (valid _ member).2

/-- A group compiled from well-formed expressions is sound. -/
theorem sound_of_compileGroup {anchor : Token} {nodes : List Node} {group : RuleGroup}
    (valid : Node.WellFormedAll nodes) (success : RuleGroup.compile anchor nodes = .ok group) :
    group.Sound := by
  have filled := RuleGroup.filled_of_compile success
  rw [RuleGroup.sound_iff]
  refine ⟨filled, ?_, ?_, ?_⟩
  · obtain ⟨_, cs, _, rfl⟩ := RuleGroup.compile_eq_ok_iff.mp success
    exact RuleGroup.has_pin_head _ _ _
  · intro has
    obtain ⟨exclude, notEmpty⟩ := filled.has_iff.mp has
    obtain ⟨range, member⟩ := List.exists_mem_of_ne_nil _ notEmpty
    rcases RuleGroup.of_mem_ranges success member with ⟨time, _⟩ | ⟨_, _, _, _, _, _, dates⟩
    · exact absurd time (by decide)
    · exact dates rfl
  · intro field exclude range member
    rcases RuleGroup.of_mem_ranges success member with
      ⟨time, rfl⟩ | ⟨node, inside, l, meant, normal, _⟩
    · exact single_zero_sound time
    · rw [Node.wellFormedAll_iff] at valid
      exact sound_of_normalize (meant.wellFormed (valid node inside)) normal

/-- What compiles has at least one group, and all of its groups are sound. -/
theorem compile_sound {config : Config} {text : String} {groups : List RuleGroup}
    (success : compile config text = .ok groups) :
    groups ≠ [] ∧ ∀ group ∈ groups, group.Sound := by
  obtain ⟨document, read, compiled⟩ := compile_eq_ok_iff.mp success
  refine ⟨(of_compileNodes compiled).1, fun group member => ?_⟩
  obtain ⟨anchor, part, isPart, found⟩ := (of_compileNodes compiled).2 group member
  exact sound_of_compileGroup (isPart.wellFormed (Grammar.wellFormed_of_document read)) found

/-- Nine o'clock on workdays, but not at Christmas. -/
theorem compile_sound_workdays :
    let groups : List RuleGroup :=
      [{ includes := { seconds := some [.single 0], minutes := some [.single 0],
                       hours := some [.single 9],
                       daysOfWeek := some [⟨.number 0, .number 4, false, none⟩],
                       daysOfMonth := none, dates := none },
         excludes := { seconds := none, minutes := none, hours := none, daysOfWeek := none,
                       daysOfMonth := none,
                       dates := some [⟨.date ⟨11, 25⟩, .date ⟨11, 26⟩, false, none⟩] },
         hasDates := true }]
    compile {} "hour(9) day(mon-fri) date(!12/25-12/26)" = .ok groups ∧ groups ≠ [] ∧
      ∀ group ∈ groups, group.Sound := by
  intro groups
  have success : compile {} "hour(9) day(mon-fri) date(!12/25-12/26)" = .ok groups := by
    decide +kernel
  exact ⟨success, compile_sound success⟩

end Schedule
