import Schedule.Proofs.RangeText
import Schedule.Proofs.RuleGroup.Sound

/-! # The table of a group tells what it is

The ranges of a cell are joined with commas, a field without ranges has an empty cell, and a group
that speaks of all dates has a row of its own for them. Two compiled groups with the same rows are
the same: every range, every list of ranges and the mark for dates can be told from what is shown.
-/

namespace Schedule

/-! ### Cells -/

/-- Texts joined with commas. -/
def joined (texts : List (List Char)) : List Char :=
  [',', ' '].intercalate texts

theorem joined_cons (text : List Char) (texts : List (List Char)) :
    joined (text :: texts) = text ++ if texts = [] then [] else ',' :: ' ' :: joined texts := by
  cases texts with
  | nil => simp [joined]
  | cons next texts => simp [joined, List.intercalate_cons_cons]

/-- A comma ends each of the texts, but for the last. -/
theorem stops_joined (texts : List (List Char)) :
    Stops (· != ',') (if texts = [] then [] else ',' :: ' ' :: joined texts) := by
  split
  · exact stops_nil _
  · exact stops_cons.mpr rfl

/-- Texts that are not empty and have no commas can be told apart after they were joined. -/
theorem joined_inj {texts texts' : List (List Char)}
    (plain : ∀ text ∈ texts, text ≠ [] ∧ ',' ∉ text)
    (plain' : ∀ text ∈ texts', text ≠ [] ∧ ',' ∉ text)
    (same : joined texts = joined texts') : texts = texts' := by
  have run {text : List Char} (plain : ',' ∉ text) : ∀ c ∈ text, (c != ',') = true := by
    intro c member
    rw [bne_iff_ne]
    rintro rfl
    exact plain member
  have filled {text : List Char} {texts : List (List Char)} (first : text ≠ []) :
      joined (text :: texts) ≠ [] := by
    rw [joined_cons]
    exact List.append_ne_nil_of_left_ne_nil first _
  induction texts generalizing texts' with
  | nil =>
    cases texts' with
    | nil => rfl
    | cons text' texts' =>
      exact absurd same.symm (filled (plain' text' List.mem_cons_self).1)
  | cons text texts ih =>
    cases texts' with
    | nil => exact absurd same (filled (plain text List.mem_cons_self).1)
    | cons text' texts' =>
      rw [List.forall_mem_cons] at plain plain'
      rw [joined_cons, joined_cons] at same
      obtain ⟨rfl, rest⟩ := append_inj_of_stops (run plain.1.2) (run plain'.1.2)
        (stops_joined texts) (stops_joined texts') same
      by_cases last : texts = [] <;> by_cases last' : texts' = []
      · rw [last, last']
      · simp [last, last'] at rest
      · simp [last, last'] at rest
      · rw [if_neg last, if_neg last'] at rest
        rw [ih plain.2 plain'.2 (List.cons_eq_cons.mp (List.cons_eq_cons.mp rest).2).2]

theorem mem_bound_text {b : Bound} {c : Char} (member : c ∈ b.text.toList) :
    isDigit c = true ∨ c = '-' ∨ c = '/' := by
  cases b with
  | number i => exact (mem_toString member).imp_right .inl
  | date d =>
    rw [toList_date, List.mem_append, List.mem_cons] at member
    rcases member with month | slash | day
    · exact (mem_toString month).imp_right .inl
    · exact .inr (.inr slash)
    · exact (mem_toString day).imp_right .inl

namespace Range

/-- A range begins with a digit or with the sign of its low bound. -/
theorem exists_head_text (range : Range) :
    ∃ c cs, range.text.toList = c :: cs ∧ (isDigit c = true ∨ c = '-') := by
  rw [toList_text]
  cases range.low with
  | number i =>
    obtain ⟨c, cs, chars, first⟩ := exists_head_toString i
    exact ⟨c, cs ++ range.afterLow, by rw [Bound.text, chars, List.cons_append], first⟩
  | date d =>
    obtain ⟨c, cs, chars, first⟩ := exists_head_toString d.month
    rw [toList_date, chars, List.cons_append, List.cons_append]
    exact ⟨c, _, rfl, first⟩

theorem comma_not_mem_text (range : Range) : ',' ∉ range.text.toList := by
  have bound (b : Bound) : ',' ∉ b.text.toList := fun member =>
    absurd (mem_bound_text member) (by decide)
  have modulus (modulus : Option Int) : ',' ∉ modulusSuffix modulus := by
    cases modulus with
    | none => exact List.not_mem_nil
    | some modulus =>
      have digits : ',' ∉ (toString modulus).toList := fun member =>
        absurd (mem_toString member) (by decide)
      simpa [modulusSuffix] using digits
  rw [toList_text, afterLow, suffix]
  cases range.split <;> split <;> simp [bound, modulus]

theorem toList_listText (ranges : List Range) :
    (listText ranges).toList = joined (ranges.map fun range => range.text.toList) := by
  rw [listText, String.toList_intercalate, List.map_map]
  rfl

/-- A cell tells which ranges stand in it. -/
theorem listText_inj {ranges ranges' : List Range} (same : listText ranges = listText ranges') :
    ranges = ranges' := by
  have plain (ranges : List Range) :
      ∀ text ∈ ranges.map fun range => range.text.toList, text ≠ [] ∧ ',' ∉ text := by
    intro text member
    obtain ⟨range, _, rfl⟩ := List.mem_map.mp member
    obtain ⟨c, cs, chars, _⟩ := range.exists_head_text
    exact ⟨by simp [chars], range.comma_not_mem_text⟩
  have texts := congrArg String.toList same
  rw [toList_listText, toList_listText] at texts
  have each := joined_inj (plain ranges) (plain ranges') texts
  exact List.map_injective_iff.mpr
    (fun _ _ same => text_inj (String.toList_inj.mp same)) each

/-- No ranges are shown as the word that stands for all dates. -/
theorem listText_ne_any (ranges : List Range) : listText ranges ≠ "any" := by
  intro same
  have chars := congrArg String.toList same
  rw [toList_listText] at chars
  cases ranges with
  | nil => simp [joined] at chars
  | cons range ranges =>
    obtain ⟨c, cs, first, begins⟩ := range.exists_head_text
    rw [List.map_cons, joined_cons, first, List.cons_append] at chars
    have letter : c = 'a' := (List.cons_eq_cons.mp chars).1
    rw [letter] at begins
    exact absurd begins (by decide)

end Range

/-! ### Rows -/

namespace RuleGroup

variable {a b group : RuleGroup} {field : Field}

theorem row_mem_rows_iff {allowed taken : String} :
    [field.name, allowed, taken] ∈ group.rows ↔
      (group.has field = true ∧ allowed = Range.listText (group.ranges field false) ∧
        taken = Range.listText (group.ranges field true)) ∨
      (field = .dates ∧ group.hasDates = true ∧ group.has .dates = false ∧
        allowed = "any" ∧ taken = "") := by
  have every : [field.name, allowed, taken] ∈ group.fields.map group.row ↔
      group.has field = true ∧ allowed = Range.listText (group.ranges field false) ∧
        taken = Range.listText (group.ranges field true) := by
    simp only [List.mem_map, fields, List.mem_filter, row, List.cons.injEq, and_true]
    constructor
    · rintro ⟨other, ⟨_, has⟩, called, rfl, rfl⟩
      cases Field.name_injective called
      exact ⟨has, rfl, rfl⟩
    · rintro ⟨has, rfl, rfl⟩
      exact ⟨field, ⟨field.mem_all, has⟩, rfl, rfl, rfl⟩
  have any : [field.name, allowed, taken] ∈
      (if group.hasDates && !group.has .dates then [[Field.dates.name, "any", ""]] else []) ↔
      field = .dates ∧ group.hasDates = true ∧ group.has .dates = false ∧
        allowed = "any" ∧ taken = "" := by
    by_cases unnamed : (group.hasDates && !group.has .dates) = true
    · rw [if_pos unnamed]
      simp only [Bool.and_eq_true, Bool.not_eq_true'] at unnamed
      simp only [List.mem_singleton, List.cons.injEq, and_true, unnamed, true_and]
      exact and_congr_left fun _ => ⟨Field.name_injective, congrArg Field.name⟩
    · rw [if_neg unnamed]
      simp only [Bool.and_eq_true, Bool.not_eq_true'] at unnamed
      simp only [List.not_mem_nil, false_iff]
      exact fun shown => unnamed ⟨shown.2.1, shown.2.2.1⟩
  rw [rows, List.mem_append, every, any]

/-- A field that one of two groups constrains is constrained alike by the other. -/
theorem of_rows_eq (same : a.rows = b.rows) (has : a.has field = true) :
    b.has field = true ∧ ∀ exclude, a.ranges field exclude = b.ranges field exclude := by
  have listed := row_mem_rows_iff.mpr (.inl ⟨has, rfl, rfl⟩)
  rw [same, row_mem_rows_iff] at listed
  rcases listed with ⟨has', allowed, taken⟩ | ⟨_, _, _, any, _⟩
  · refine ⟨has', fun exclude => ?_⟩
    cases exclude with
    | false => exact Range.listText_inj allowed
    | true => exact Range.listText_inj taken
  · exact absurd any (Range.listText_ne_any _)

theorem Filled.ranges_of_not_has (filled : group.Filled) (free : group.has field ≠ true)
    (exclude : Bool) : group.ranges field exclude = [] := by
  by_contra notEmpty
  exact free (filled.has_iff.mpr ⟨exclude, notEmpty⟩)

/-- A group that names no dates speaks of them if a row says so. -/
theorem hasDates_of_rows_eq (sound : b.Sound) (same : a.rows = b.rows)
    (speaks : a.hasDates = true) : b.hasDates = true := by
  by_cases named : a.has .dates = true
  · exact sound.dates (of_rows_eq same named).1
  · have listed : [Field.dates.name, "any", ""] ∈ a.rows :=
      row_mem_rows_iff.mpr (.inr ⟨rfl, speaks, by simpa using named, rfl, rfl⟩)
    rw [same, row_mem_rows_iff] at listed
    rcases listed with ⟨_, any, _⟩ | ⟨_, speaks', _⟩
    · exact absurd any.symm (Range.listText_ne_any _)
    · exact speaks'

/-- Sound groups with the same rows are the same. -/
theorem eq_of_rows_eq (sound : a.Sound) (sound' : b.Sound) (same : a.rows = b.rows) : a = b := by
  have filled := ((sound_iff a).mp sound).1
  have filled' := ((sound_iff b).mp sound').1
  refine filled.ext_ranges filled' (fun field exclude => ?_) ?_
  · by_cases has : a.has field = true
    · exact (of_rows_eq same has).2 exclude
    · have free : b.has field ≠ true := fun has' => has (of_rows_eq same.symm has').1
      rw [filled.ranges_of_not_has has, filled'.ranges_of_not_has free]
  · rw [Bool.eq_iff_iff]
    exact ⟨hasDates_of_rows_eq sound' same, hasDates_of_rows_eq sound same.symm⟩

end RuleGroup

/-- What is shown of ranges and of compiled groups loses nothing: from the text of a range all of it
can be told, and from the rows of its table all of a group, whatever text it was compiled from. -/
theorem eq_of_shown_alike :
    (∀ range range' : Range, range.text = range'.text ↔
      range.low = range'.low ∧ range.high = range'.high ∧ range.split = range'.split ∧
        range.modulus = range'.modulus) ∧
    ∀ (config config' : Config) (text text' : String) (groups groups' : List RuleGroup),
      compile config text = .ok groups → compile config' text' = .ok groups' →
      ∀ group ∈ groups, ∀ group' ∈ groups', ∀ number : Int,
        (group.table number).title = (group'.table number).title →
        (group.table number).rows = (group'.table number).rows →
        group.includes = group'.includes ∧ group.excludes = group'.excludes ∧
          group.hasDates = group'.hasDates := by
  constructor
  · intro range range'
    rw [← and_assoc, ← and_assoc]
    constructor
    · intro same
      rw [Range.text_inj same]
      exact ⟨⟨⟨rfl, rfl⟩, rfl⟩, rfl⟩
    · rintro ⟨⟨⟨low, high⟩, split⟩, modulus⟩
      rw [Range.text, Range.text, low, high, split, modulus]
  · intro config config' text text' groups groups' success success' group member group' member'
      number _ rows
    have same : group = group' := RuleGroup.eq_of_rows_eq ((compile_sound success).2 group member)
      ((compile_sound success').2 group' member') rows
    rw [same]
    exact ⟨rfl, rfl, rfl⟩

/-- Nine o'clock on any date, written in two ways and compiled under two configurations. -/
theorem eq_of_shown_alike_nine :
    let config' : Config := { maxDepth := 2 }
    let group : RuleGroup :=
      { includes := { seconds := some [.single 0], minutes := some [.single 0],
                      hours := some [.single 9], daysOfWeek := none, daysOfMonth := none,
                      dates := none },
        hasDates := true }
    let group' : RuleGroup :=
      ((RuleGroup.empty.add .hours (.single 9)).add .minutes (.single 0)).add .seconds (.single 0)
    let dated : RuleGroup := { group' with hasDates := true }
    compile {} "hour(9) date()" = .ok [group] ∧
      compile config' "group(date(), h(9))" = .ok [dated] ∧
      group ∈ [group] ∧ dated ∈ [dated] ∧
      (group.table 1).title = (dated.table 1).title ∧
      (group.table 1).rows = (dated.table 1).rows ∧
      group.includes = dated.includes ∧ group.excludes = dated.excludes ∧
        group.hasDates = dated.hasDates := by
  intro config' group group' dated
  have success : compile {} "hour(9) date()" = .ok [group] := by decide +kernel
  have success' : compile config' "group(date(), h(9))" = .ok [dated] := by decide +kernel
  have member : group ∈ [group] := List.mem_singleton_self group
  have member' : dated ∈ [dated] := List.mem_singleton_self dated
  have rows : (group.table 1).rows = (dated.table 1).rows := by decide +kernel
  exact ⟨success, success', member, member', rfl, rows,
    eq_of_shown_alike.2 {} config' _ _ _ _ success success' group member dated member' 1 rfl rows⟩

end Schedule
