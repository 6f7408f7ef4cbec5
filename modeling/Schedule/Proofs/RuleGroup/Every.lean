import Schedule.Compilation
import Schedule.Proofs.RuleGroup.Entries

/-! # Every value

An expression without arguments speaks of every value of its field, as one whose only argument is
the wildcard does. In a field of numbers the two are the same. Among dates the wildcard has a range
and the lack of arguments has none: as long as no other expression names dates that are allowed, the
field stays free, but next to one that does, the expression without arguments says nothing.
-/

namespace Schedule

/-- The wildcard as an argument, written at some token. -/
def Literal.wildcard (first : Token) : Literal := ⟨.wildcard, first, false, none⟩

@[simp] theorem Literal.exclude_wildcard (first : Token) : (wildcard first).exclude = false := rfl

/-- The range of all values of a field, weekdays and months counting from 0. -/
def Range.every : Field → Range
  | .seconds | .minutes => ⟨.number 0, .number 59, false, none⟩
  | .hours => ⟨.number 0, .number 23, false, none⟩
  | .daysOfWeek => ⟨.number 0, .number 6, false, none⟩
  | .daysOfMonth => ⟨.number 1, .number 31, false, none⟩
  | .dates => ⟨.date ⟨0, 1⟩, .date ⟨11, 31⟩, false, none⟩

theorem normalize_wildcard (field : Field) (first : Token) :
    normalize field (.wildcard first) = .ok (.every field) := by
  cases field <;> rfl

namespace RuleGroup

/-- The group allows the whole domain of the field, before anything is taken away: it stores nothing
allowed under it, or the range of all values. -/
def AdmitsEvery (group : RuleGroup) (field : Field) : Prop :=
  group.stored? field false = none ∨ Range.every field ∈ group.ranges field false

/-- The group allows a value of the field, before anything is taken away, if `covers` tells which
values a range has. -/
def Admits {α : Type} (covers : Range → α → Prop) (group : RuleGroup) (field : Field) (value : α) :
    Prop :=
  group.stored? field false = none ∨ ∃ range ∈ group.ranges field false, covers range value

instance (group : RuleGroup) (field : Field) : Decidable (group.AdmitsEvery field) :=
  inferInstanceAs (Decidable (_ ∨ _))

variable {group : RuleGroup} {field : Field} {exclude : Bool} {range : Range} {anchor first : Token}
variable {nodes before after : List Node} {node : Node} {name : String} {l : Literal}

theorem AdmitsEvery.admits {α : Type} {covers : Range → α → Prop} {value : α}
    (every : group.AdmitsEvery field) (covered : covers (.every field) value) :
    group.Admits covers field value :=
  every.imp_right fun listed => ⟨_, listed, covered⟩

/-! ### What an expression without arguments adds -/

theorem argumentsFor_bare (first : Token) (numbers : field ≠ .dates) :
    argumentsFor field first [] = [.literal (.wildcard first)] := by
  simp [argumentsFor, numbers, Literal.wildcard]

theorem adds_wildcard_iff {sign : Token} (called : Field.ofName? name = some field) :
    (Node.expression name first [.literal (.wildcard sign)]).Adds field l ↔ l = .wildcard sign := by
  simp [adds_expression_iff called, argumentsFor]

theorem not_adds_bare_dates (called : Field.ofName? name = some .dates) :
    ¬ (Node.expression name first []).Adds .dates l := by
  simp [adds_expression_iff called, argumentsFor]

/-- In a field of numbers the lack of arguments is the wildcard. -/
theorem addExpression_bare (called : Field.ofName? name = some field) (numbers : field ≠ .dates)
    (sign : Token) (group : RuleGroup) :
    addExpression group (.expression name first []) =
      addExpression group (.expression name first [.literal (.wildcard sign)]) := by
  have written : argumentsFor field first [.literal (.wildcard sign)] =
      [.literal (.wildcard sign)] := rfl
  simp only [addExpression, called, argumentsFor_bare first numbers, written, List.foldlM_cons,
    addArgument, normalize_wildcard]
  rfl

theorem compile_bare_eq (called : Field.ofName? name = some field) (numbers : field ≠ .dates)
    (sign : Token) :
    compile anchor (before ++ .expression name first [] :: after) =
      compile anchor (before ++ .expression name first [.literal (.wildcard sign)] :: after) := by
  have filled (node : Node) : (before ++ node :: after).isEmpty = false := by simp
  simp only [compile_eq, filled, List.foldlM_append, List.foldlM_cons,
    addExpression_bare called numbers sign]

/-- The wildcard can stand wherever an expression may lack arguments. -/
theorem exists_contribution_wildcard {c : Contribution} (sign : Token)
    (success : contribution (.expression name first []) = .ok c) :
    ∃ c', contribution (.expression name first [.literal (.wildcard sign)]) = .ok c' := by
  obtain ⟨_, _, _, field, ⟨⟩, notGroup, called, _⟩ := contribution_eq_ok_iff.mp success
  refine ⟨⟨field == .dates, [⟨field, .every field, false⟩]⟩, contribution_eq_ok_iff.mpr
    ⟨name, first, _, field, rfl, notGroup, called, .cons ?_ .nil, rfl⟩⟩
  exact entryOf_eq_ok_iff.mpr ⟨_, rfl, normalize_wildcard field sign, rfl, rfl⟩

/-- The ranges allowed in a field of which one expression speaks are its own and those of the
others. -/
theorem mem_ranges_middle_iff (success : compile anchor (before ++ node :: after) = .ok group)
    (unpinned : field ∉ Field.times ∨ ∃ l, node.Adds field l) :
    range ∈ group.ranges field exclude ↔
      (∃ l, node.Adds field l ∧ normalize field l = .ok range ∧ l.exclude = exclude) ∨
        ∃ node ∈ before ++ after, ∃ l, node.Adds field l ∧ normalize field l = .ok range ∧
          l.exclude = exclude := by
  have present : node ∈ before ++ node :: after := by simp
  rw [mem_ranges_iff success (unpinned.imp_right fun adds => ⟨node, present, adds⟩)]
  simp only [List.perm_middle.mem_iff, List.exists_mem_cons_iff]

/-- The wildcard adds the range of all values to what the other expressions allow. -/
theorem mem_ranges_wildcard_iff {sign : Token} (called : Field.ofName? name = some field)
    (success : compile anchor
      (before ++ .expression name first [.literal (.wildcard sign)] :: after) = .ok group) :
    range ∈ group.ranges field false ↔ range = .every field ∨
      ∃ node ∈ before ++ after, ∃ l, node.Adds field l ∧ normalize field l = .ok range ∧
        l.exclude = false := by
  rw [mem_ranges_middle_iff success (.inr ⟨_, (adds_wildcard_iff called).mpr rfl⟩)]
  simp only [adds_wildcard_iff called, exists_eq_left, normalize_wildcard,
    Except.ok.injEq, Literal.exclude_wildcard, and_true]
  rw [eq_comm]

/-- An expression of dates without arguments adds nothing to what the other expressions allow. -/
theorem mem_ranges_dates_iff (called : Field.ofName? name = some .dates)
    (success : compile anchor (before ++ .expression name first [] :: after) = .ok group) :
    range ∈ group.ranges .dates false ↔
      ∃ node ∈ before ++ after, ∃ l, node.Adds .dates l ∧ normalize .dates l = .ok range ∧
        l.exclude = false := by
  rw [mem_ranges_middle_iff success (.inl (by decide))]
  simp [not_adds_bare_dates called]

/-- If an expression lacks arguments, the wildcard can be written in it: the group then allows every
value, and besides the range of all values it allows what it did. In a field of numbers it is the
same group. -/
theorem exists_compile_wildcard (sign : Token) (called : Field.ofName? name = some field)
    (success : compile anchor (before ++ .expression name first [] :: after) = .ok group) :
    ∃ group', compile anchor (before ++ .expression name first [.literal (.wildcard sign)] :: after)
        = .ok group' ∧ (field ≠ .dates → group' = group) ∧
      ∀ range, range ∈ group'.ranges field false ↔
        range = .every field ∨ range ∈ group.ranges field false := by
  by_cases dates : field = .dates
  · subst dates
    obtain ⟨_, contribute⟩ := exists_compile_iff.mp ⟨group, success⟩
    simp only [List.perm_middle.mem_iff, List.forall_mem_cons] at contribute
    obtain ⟨⟨c, own⟩, others⟩ := contribute
    have rewritten : ∃ group', compile anchor
        (before ++ .expression name first [.literal (.wildcard sign)] :: after) = .ok group' := by
      refine exists_compile_iff.mpr ⟨by simp, ?_⟩
      simp only [List.perm_middle.mem_iff, List.forall_mem_cons]
      exact ⟨exists_contribution_wildcard sign own, others⟩
    obtain ⟨group', success'⟩ := rewritten
    refine ⟨group', success', fun numbers => absurd rfl numbers, fun range => ?_⟩
    rw [mem_ranges_wildcard_iff called success', mem_ranges_dates_iff called success]
  · have success' := success
    rw [compile_bare_eq called dates sign] at success'
    refine ⟨group, success', fun _ => rfl, fun range => ?_⟩
    rw [mem_ranges_wildcard_iff called success', ← or_assoc, or_self]

/-- The group of an expression of dates without arguments allows every date if the others allow no
dates or all of them. -/
theorem admitsEvery_dates_iff (called : Field.ofName? name = some .dates)
    (success : compile anchor (before ++ .expression name first [] :: after) = .ok group) :
    group.AdmitsEvery .dates ↔
      (∀ node ∈ before ++ after, ∀ l, node.Adds .dates l → l.exclude = true) ∨
      ∃ node ∈ before ++ after, ∃ l, node.Adds .dates l ∧
        normalize .dates l = .ok (.every .dates) ∧ l.exclude = false := by
  rw [AdmitsEvery, mem_ranges_dates_iff called success]
  refine or_congr_left ?_
  obtain ⟨_, contribute⟩ := exists_compile_iff.mp ⟨group, success⟩
  constructor
  · intro none node present l adds
    obtain ⟨c, contributes⟩ := contribute node (List.perm_middle.mem_iff.mpr
      (List.mem_cons_of_mem _ present))
    obtain ⟨range, normal⟩ := exists_normalize contributes adds
    by_contra included
    have listed := (mem_ranges_dates_iff called success).mpr
      ⟨node, present, l, adds, normal, by simpa using included⟩
    rw [RuleGroup.ranges, none] at listed
    contradiction
  · intro excluded
    rw [Option.eq_none_iff_forall_ne_some]
    rintro ranges stored
    obtain ⟨filled, same⟩ := (filled_of_compile success).stored?_eq_some_iff.mp stored
    obtain ⟨range, listed⟩ := List.exists_mem_of_ne_nil _ filled
    rw [← same, mem_ranges_dates_iff called success] at listed
    obtain ⟨node, present, l, adds, _, included⟩ := listed
    rw [excluded node present l adds] at included
    contradiction

/-- An expression without arguments lets every value of its field through, unless it is one of dates
next to others that allow dates, none of them all dates. With the wildcard written in it, the group
always does; and if the group did so before, the two allow the same values of the domain. -/
theorem compile_bare (called : Field.ofName? name = some field)
    (success : compile anchor (before ++ .expression name first [] :: after) = .ok group) :
    (group.AdmitsEvery field ↔ field ≠ .dates ∨
      (∀ node ∈ before ++ after, ∀ l, node.Adds .dates l → l.exclude = true) ∨
      ∃ node ∈ before ++ after, ∃ l, node.Adds .dates l ∧
        normalize .dates l = .ok (.every .dates) ∧ l.exclude = false) ∧
    ∀ sign, ∃ group',
      compile anchor (before ++ .expression name first [.literal (.wildcard sign)] :: after) =
        .ok group' ∧
      (field ≠ .dates → group' = group) ∧
      group'.AdmitsEvery field ∧
      (∀ range, range ∈ group'.ranges field false ↔
        range = .every field ∨ range ∈ group.ranges field false) ∧
      (group.AdmitsEvery field → ∀ (α : Type) (covers : Range → α → Prop) (value : α),
        covers (.every field) value →
          (group.Admits covers field value ↔ group'.Admits covers field value)) := by
  constructor
  · by_cases dates : field = .dates
    · subst dates
      rw [admitsEvery_dates_iff called success, or_iff_right (not_not.mpr rfl)]
    · refine iff_of_true (.inr ?_) (.inl dates)
      obtain ⟨_, _, same, allowed⟩ := exists_compile_wildcard default called success
      rw [← same dates]
      exact (allowed _).mpr (.inl rfl)
  · intro sign
    obtain ⟨group', success', same, allowed⟩ := exists_compile_wildcard sign called success
    have every : group'.AdmitsEvery field := .inr ((allowed _).mpr (.inl rfl))
    exact ⟨group', success', same, every, allowed, fun every' _ _ _ covered =>
      iff_of_true (every'.admits covered) (every.admits covered)⟩

/-- All hours next to one of them are still all hours. -/
theorem compile_bare_hours :
    let five : Literal := ⟨.number 5, ⟨6, "5"⟩, false, none⟩
    let bare : Node := .expression "h" ⟨0, "h"⟩ []
    let wildcard : Node := .expression "h" ⟨0, "h"⟩ [.literal (.wildcard ⟨2, "%"⟩)]
    let hour : Node := .expression "h" ⟨4, "h"⟩ [.literal five]
    let group : RuleGroup :=
      { includes := { seconds := some [.single 0], minutes := some [.single 0],
                      hours := some [.every .hours, .single 5], daysOfWeek := none,
                      daysOfMonth := none, dates := none } }
    compile ⟨0, "h"⟩ [bare, hour] = .ok group ∧ group.AdmitsEvery .hours ∧
      compile ⟨0, "h"⟩ [wildcard, hour] = .ok group := by
  intro five bare wildcard hour group
  have called : Field.ofName? "h" = some .hours := by decide +kernel
  have success : compile ⟨0, "h"⟩ ([] ++ bare :: [hour]) = .ok group := by decide +kernel
  obtain ⟨every, replaced⟩ := compile_bare called success
  obtain ⟨group', success', same, _⟩ := replaced ⟨2, "%"⟩
  rw [same (by decide)] at success'
  exact ⟨success, every.mpr (.inl (by decide)), success'⟩

/-- All dates next to Christmas are only Christmas: the group does not allow every date, although an
expression of it has no arguments. With the wildcard it would. -/
theorem bare_dates_beside_christmas :
    let christmas : Range := ⟨.date ⟨11, 25⟩, .date ⟨11, 25⟩, false, none⟩
    let group (dates : List Range) : RuleGroup :=
      { includes := { seconds := some [.single 0], minutes := some [.single 0],
                      hours := some [.single 0], daysOfWeek := none, daysOfMonth := none,
                      dates := some dates },
        hasDates := true }
    Field.ofName? "date" = some .dates ∧
    compile ⟨0, "date"⟩ [.expression "date" ⟨0, "date"⟩ [], .expression "date" ⟨6, "date"⟩
      [.literal ⟨.dates ⟨12, 25⟩ ⟨12, 25⟩, ⟨11, "12"⟩, false, none⟩]] = .ok (group [christmas]) ∧
    ¬ (group [christmas]).AdmitsEvery .dates ∧
    Schedule.compile {} "date()date(12/25)" = .ok [group [christmas]] ∧
    Schedule.compile {} "date(%)date(12/25)" = .ok [group [.every .dates, christmas]] := by
  decide +kernel

end RuleGroup

end Schedule
