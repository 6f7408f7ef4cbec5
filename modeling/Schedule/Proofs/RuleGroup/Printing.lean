import Schedule.Proofs.Printing.Document
import Schedule.Proofs.RuleGroup.Sound

/-! # Writing groups out as text

A compiled group is written as an expression named `group` with an expression for each field of
which it speaks, and in that an argument for each range. Compiling the text of some groups gives
them back: the shift of weekdays and months, the marks of wrapping ranges and the pinned zeros all
come out as they were.
-/

namespace Schedule

/-- Whether normalization marks a range with these bounds as split. -/
def Range.wraps (field : Field) : Bound → Bound → Bool
  | .number low, .number high => high < low ∧ ¬ (field = .daysOfMonth ∧ 0 ≤ low ∧ high < 0)
  | .date low, .date high => high.before low
  | _, _ => false

namespace RuleGroup

/-- A group as compilation could have made it: it is sound, and the ranges that normalization would
mark as split are those that are. -/
structure WellFormed (group : RuleGroup) : Prop where
  sound : group.Sound
  split : ∀ exclude, ∀ entry ∈ group.stored exclude, ∀ range ∈ entry.2,
    range.split = Range.wraps entry.1 range.low range.high

instance (group : RuleGroup) : Decidable group.WellFormed :=
  decidable_of_iff
    (group.Sound ∧ ∀ exclude, ∀ entry ∈ group.stored exclude, ∀ range ∈ entry.2,
      range.split = Range.wraps entry.1 range.low range.high)
    ⟨fun ⟨sound, split⟩ => ⟨sound, split⟩, fun ⟨sound, split⟩ => ⟨sound, split⟩⟩

/-- The group speaks of the field: it constrains it, or it says that there are dates. -/
def speaksOf (group : RuleGroup) (field : Field) : Bool :=
  group.has field || field == .dates && group.hasDates

end RuleGroup

/-- A range as the operand of an argument, weekdays and months counting from 1 again. -/
def Range.operand (field : Field) (range : Range) : Operand :=
  match range.low, range.high with
  | .number low, .number high =>
    let back := if field = .daysOfWeek then 1 else 0
    .range (low + back) (high + back)
  | .date low, .date high => .dates ⟨low.month + 1, low.day⟩ ⟨high.month + 1, high.day⟩
  | _, _ => .wildcard

/-- A range as an argument. -/
def Range.literal (field : Field) (exclude : Bool) (range : Range) : Literal :=
  ⟨range.operand field, ⟨0, ""⟩, exclude, range.modulus⟩

namespace RuleGroup

/-- The ranges of a field as arguments: those that are allowed, then those that are taken away. -/
def arguments (group : RuleGroup) (field : Field) : List Node :=
  (group.ranges field false).map (fun range => .literal (range.literal field false)) ++
    (group.ranges field true).map (fun range => .literal (range.literal field true))

/-- What a group says about a field as an expression. -/
def rule (word : Field → String) (group : RuleGroup) (field : Field) : Node :=
  .expression (word field) ⟨0, ""⟩ (group.arguments field)

/-- A group as an expression, each field being called by the given word. -/
def toExpression (word : Field → String) (group : RuleGroup) : Expression :=
  ⟨"group", ⟨0, ""⟩, (Field.all.filter group.speaksOf).map (group.rule word)⟩

/-- The text of some groups. -/
def listText (word : Field → String) (groups : List RuleGroup) : String :=
  Node.textAll ((groups.map (toExpression word)).map Expression.toNode)

end RuleGroup

variable {field : Field} {range : Range} {exclude : Bool}

/-! ### Ranges -/

/-- A bound in the domain of numbers is what its field allows, once weekdays count from 1. -/
theorem allows_of_inDomain {value : Int} (inside : (Bound.number value).InDomain field) :
    field ≠ .dates ∧ field.Allows (value + if field = .daysOfWeek then 1 else 0) := by
  cases field <;> simp only [Bound.InDomain] at inside <;>
    refine ⟨by decide, ⟨?_, ?_, ?_⟩⟩ <;>
    simp only [Field.least, Field.greatest, reduceCtorEq, if_true, if_false, true_implies,
      false_implies] <;> omega

theorem exists_of_inDomain {date : MonthDay} (inside : (Bound.date date).InDomain field) :
    field = .dates ∧ (MonthDay.mk (date.month + 1) date.day).Exists := by
  cases field <;> simp only [Bound.InDomain] at inside
  exact ⟨rfl, inside.2.2⟩

/-- The bounds of a sound range are both numbers or both dates. -/
theorem Range.Sound.bounds (sound : range.Sound field) :
    (∃ low high, range.low = .number low ∧ range.high = .number high ∧ field ≠ .dates ∧
      field.Allows (low + if field = .daysOfWeek then 1 else 0) ∧
      field.Allows (high + if field = .daysOfWeek then 1 else 0)) ∨
    ∃ low high, range.low = .date low ∧ range.high = .date high ∧ field = .dates ∧
      (MonthDay.mk (low.month + 1) low.day).Exists ∧
      (MonthDay.mk (high.month + 1) high.day).Exists := by
  have lowIn := sound.low
  have highIn := sound.high
  cases lowIs : range.low with
  | number low =>
    rw [lowIs] at lowIn
    obtain ⟨numbers, lowAllowed⟩ := allows_of_inDomain lowIn
    cases highIs : range.high with
    | number high =>
      rw [highIs] at highIn
      exact .inl ⟨low, high, rfl, rfl, numbers, lowAllowed, (allows_of_inDomain highIn).2⟩
    | date high =>
      rw [highIs] at highIn
      exact absurd (exists_of_inDomain highIn).1 numbers
  | date low =>
    rw [lowIs] at lowIn
    obtain ⟨dates, lowExists⟩ := exists_of_inDomain lowIn
    cases highIs : range.high with
    | number high =>
      rw [highIs] at highIn
      exact absurd dates (allows_of_inDomain highIn).1
    | date high =>
      rw [highIs] at highIn
      exact .inr ⟨low, high, rfl, rfl, dates, lowExists, (exists_of_inDomain highIn).2⟩

theorem Field.Allows.short {value : Int} (allowed : field.Allows value) : Short value := by
  obtain ⟨least, greatest, _⟩ := allowed
  unfold Short
  cases field <;> simp only [Field.least, Field.greatest] at least greatest <;> omega

theorem Range.Sound.wellFormed_literal (sound : range.Sound field) (exclude : Bool) :
    (range.literal field exclude).WellFormed := by
  constructor
  · unfold Range.literal Range.operand
    rcases sound.bounds with ⟨low, high, lowIs, highIs, _, lowAllowed, highAllowed⟩ |
      ⟨low, high, lowIs, highIs, _, lowExists, highExists⟩ <;> rw [lowIs, highIs]
    · exact ⟨lowAllowed.short, highAllowed.short⟩
    · exact ⟨lowExists, highExists⟩
  · intro modulus member
    have bounds := sound.modulus modulus member
    unfold Short
    omega

/-- Weekdays are taken as they are written, unless one day but the last has a modulus. -/
theorem Span.ofWeek_eq {low high : Int} {steps : Bool}
    (oneDay : steps = true → high = low → high = 7) :
    ofWeek low high steps = ⟨low, high, decide (high < low)⟩ := by
  unfold ofWeek
  split
  · next wraps => simp [wraps]
  · next ordered =>
    have unmarked : decide (high < low) = false := by simpa using ordered
    rw [unmarked]
    split
    · next runsOn => rw [oneDay runsOn.1 runsOn.2, Field.greatest]
    · rfl

/-- Only days of the month count back, so in other fields a range wraps if it ends before it
begins. -/
theorem Span.ofRange_eq {low high : Int} (allowed : field.Allows high) :
    ofRange low high =
      ⟨low, high, decide (high < low ∧ ¬ (field = .daysOfMonth ∧ 0 ≤ low ∧ high < 0))⟩ := by
  have negative : high < 0 → field = .daysOfMonth := by
    have least := allowed.least
    intro negative
    cases field <;> simp only [Field.least] at least <;> first | rfl | omega
  unfold ofRange
  congr 2
  rw [eq_iff_iff]
  tauto

/-- Counting months from 1 again keeps dates in order. -/
theorem MonthDay.before_shift (a b : MonthDay) :
    before ⟨a.month + 1, a.day⟩ ⟨b.month + 1, b.day⟩ = before a b := by
  rw [before, before, Bool.eq_iff_iff]
  simp only [Bool.or_eq_true, Bool.and_eq_true, decide_eq_true_eq, beq_iff_eq]
  omega

/-- What a literal made of a range steps by, if it is not zero, is what the range does. -/
theorem Range.exists_of_steps (steps : (range.literal field exclude).steps = true) :
    ∃ modulus ∈ range.modulus, modulus ≠ 0 := by
  unfold Range.literal Literal.steps at steps
  cases same : range.modulus with
  | none =>
    rw [same] at steps
    contradiction
  | some modulus =>
    rw [same] at steps
    exact ⟨modulus, rfl, by simpa using steps⟩

/-- The operand of a range of numbers covers it. -/
theorem ofLiteral_literal (sound : range.Sound field) {low high : Int}
    (lowIs : range.low = .number low) (highIs : range.high = .number high)
    (split : range.split = Range.wraps field range.low range.high)
    (allowed : field.Allows (high + if field = .daysOfWeek then 1 else 0)) (exclude : Bool) :
    ∃ span, Span.ofLiteral field (range.literal field exclude) = .ok span ∧
      span.low = low + (if field = .daysOfWeek then 1 else 0) ∧
      span.high = high + (if field = .daysOfWeek then 1 else 0) ∧ span.split = range.split := by
  have operand : (range.literal field exclude).operand =
      .range (low + if field = .daysOfWeek then 1 else 0)
        (high + if field = .daysOfWeek then 1 else 0) := by
    unfold Range.literal Range.operand
    rw [lowIs, highIs]
  unfold Span.ofLiteral
  rw [operand]
  rw [lowIs, highIs, Range.wraps] at split
  by_cases week : field = .daysOfWeek
  · subst week
    have oneDay : (range.literal .daysOfWeek exclude).steps = true → high + 1 = low + 1 →
        high + 1 = 7 := by
      intro steps same
      by_contra notLast
      obtain ⟨modulus, member, notZero⟩ := Range.exists_of_steps steps
      have sameNumber : high = low := by omega
      have equal : range.low = range.high := by rw [lowIs, highIs, sameNumber]
      have notSix : range.low ≠ .number 6 := by
        rw [equal, highIs]
        rintro ⟨⟩
        exact notLast rfl
      exact notZero (sound.oneDay rfl equal notSix modulus member)
    refine ⟨_, congrArg Except.ok (Span.ofWeek_eq oneDay), rfl, rfl, ?_⟩
    rw [split, decide_eq_decide]
    simp
  · simp only [if_neg week] at allowed ⊢
    refine ⟨_, congrArg Except.ok (Span.ofRange_eq allowed), rfl, rfl, ?_⟩
    rw [split, Int.add_zero, Int.add_zero]

/-- Writing a range as an argument and normalizing that gives the range back. -/
theorem normalize_literal (sound : range.Sound field)
    (split : range.split = Range.wraps field range.low range.high) (exclude : Bool) :
    normalize field (range.literal field exclude) = .ok range := by
  have stepped : (range.literal field exclude).Steppable :=
    fun modulus member => (sound.modulus modulus member).1
  unfold normalize
  rcases sound.bounds with ⟨low, high, lowIs, highIs, numbers, lowAllowed, highAllowed⟩ |
    ⟨low, high, lowIs, highIs, rfl, _⟩
  · obtain ⟨span, covers, lowSame, highSame, splitSame⟩ :=
      ofLiteral_literal sound lowIs highIs split highAllowed exclude
    rw [if_neg numbers, normalizeNumber_eq_ok_iff]
    refine ⟨span, covers, lowSame ▸ lowAllowed, highSame ▸ highAllowed, stepped, ?_⟩
    rw [Span.toRange, lowSame, highSame, splitSame, Range.literal, Int.add_sub_cancel,
      Int.add_sub_cancel, ← lowIs, ← highIs]
  · rw [if_pos rfl, normalizeDate_eq_ok_iff]
    have operand : (range.literal .dates exclude).operand =
        .dates ⟨low.month + 1, low.day⟩ ⟨high.month + 1, high.day⟩ := by
      unfold Range.literal Range.operand
      rw [lowIs, highIs]
    refine ⟨_, _, .inl operand, stepped, ?_⟩
    rw [lowIs, highIs, Range.wraps] at split
    rw [dateRange, MonthDay.before_shift, ← split, MonthDay.monthBack, MonthDay.monthBack,
      Int.add_sub_cancel, Int.add_sub_cancel]
    change Range.mk (.date low) (.date high) range.split range.modulus = range
    rw [← lowIs, ← highIs]

/-! ### Groups -/

/-- Every name of a field is a name, calls that field and opens no group. -/
theorem alias_facts {name : String} (listed : name ∈ field.aliases) :
    (Token.mk 0 name).isName = true ∧ isGroupName name = false ∧
      Field.ofName? name = some field := by
  have table : ∀ field ∈ Field.all, ∀ name ∈ field.aliases,
      (Token.mk 0 name).isName = true ∧ isGroupName name = false ∧
        Field.ofName? name = some field := by decide
  exact table field field.mem_all name listed

namespace RuleGroup

variable {group : RuleGroup} {word : Field → String}

/-- The ranges of a field as entries, in the order in which they are written. -/
def entriesOf (group : RuleGroup) (field : Field) : List Entry :=
  (group.ranges field false).map (fun range => ⟨field, range, false⟩) ++
    (group.ranges field true).map fun range => ⟨field, range, true⟩

theorem filter_entriesOf (group : RuleGroup) (field other : Field) (exclude : Bool) :
    ((group.entriesOf other).filter (Entry.isOf field exclude)).map Entry.range =
      if other = field then group.ranges field exclude else [] := by
  have side (marked : Bool) (ranges : List Range) :
      ((ranges.map fun range => Entry.mk other range marked).filter
          (Entry.isOf field exclude)).map Entry.range =
        if other = field ∧ marked = exclude then ranges else [] := by
    induction ranges with
    | nil => simp
    | cons range ranges ih =>
      by_cases same : other = field ∧ marked = exclude
      · rw [if_pos same] at ih ⊢
        simpa [Entry.isOf, same] using ih
      · rw [if_neg same] at ih ⊢
        have kept : Entry.isOf field exclude ⟨other, range, marked⟩ = false := by
          simpa [Entry.isOf] using same
        rw [List.map_cons, List.filter_cons, kept]
        exact ih
  rw [entriesOf, List.filter_append, List.map_append, side, side]
  cases exclude <;> by_cases same : other = field <;> simp [same]

/-- Each list of a group is made of the entries of its own field. -/
theorem filter_flatMap_entriesOf (group : RuleGroup) (field : Field) (exclude : Bool) :
    ((Field.all.flatMap group.entriesOf).filter (Entry.isOf field exclude)).map Entry.range =
      group.ranges field exclude := by
  simp only [Field.all, List.flatMap_cons, List.flatMap_nil, List.append_nil, List.filter_append,
    List.map_append, filter_entriesOf]
  cases field <;> simp

/-- A field of which a group does not speak has no entries. -/
theorem entriesOf_eq_nil (silent : group.speaksOf field = false) : group.entriesOf field = [] := by
  have unconstrained : group.has field = false := by
    unfold speaksOf at silent
    simp only [Bool.or_eq_false_iff] at silent
    exact silent.1
  have none (exclude : Bool) : group.ranges field exclude = [] := by
    cases stored : group.stored? field exclude with
    | none => rw [RuleGroup.ranges, stored, Option.getD_none]
    | some ranges =>
      have has := (has_iff group field).mpr ⟨exclude, ranges, stored⟩
      rw [has] at unconstrained
      contradiction
  rw [entriesOf, none false, none true]
  rfl

theorem flatMap_filter_speaksOf (group : RuleGroup) (fields : List Field) :
    (fields.filter group.speaksOf).flatMap group.entriesOf = fields.flatMap group.entriesOf := by
  induction fields with
  | nil => rfl
  | cons field fields ih =>
    rw [List.filter_cons, List.flatMap_cons]
    split
    · rw [List.flatMap_cons, ih]
    · next silent =>
      rw [entriesOf_eq_nil (by simpa using silent), List.nil_append, ih]

/-- What a group says of a field contributes the ranges of the field. -/
theorem contribution_rule (names : ∀ field, word field ∈ field.aliases) (valid : group.WellFormed)
    (speaks : group.speaksOf field = true) :
    contribution (group.rule word field) = .ok ⟨field == .dates, group.entriesOf field⟩ := by
  obtain ⟨_, notGroup, called⟩ := alias_facts (names field)
  obtain ⟨filled, _, _, sound⟩ := (sound_iff group).mp valid.sound
  have given : argumentsFor field ⟨0, ""⟩ (group.arguments field) = group.arguments field := by
    unfold argumentsFor
    rw [if_neg]
    intro bare
    simp only [Bool.and_eq_true, List.isEmpty_iff, arguments, List.append_eq_nil_iff,
      List.map_eq_nil_iff, bne_iff_ne] at bare
    obtain ⟨⟨included, excluded⟩, notDates⟩ := bare
    have constrained : group.has field = true := by
      simpa [speaksOf, notDates] using speaks
    obtain ⟨exclude, notEmpty⟩ := filled.has_iff.mp constrained
    cases exclude
    · exact notEmpty included
    · exact notEmpty excluded
  have side (exclude : Bool) : List.Forall₂ (fun node e => entryOf field (word field) node = .ok e)
      ((group.ranges field exclude).map fun range => .literal (range.literal field exclude))
      ((group.ranges field exclude).map fun range => ⟨field, range, exclude⟩) := by
    rw [List.forall₂_map_left_iff, List.forall₂_map_right_iff, List.forall₂_same]
    intro range member
    have stored : (field, group.ranges field exclude) ∈ group.stored exclude :=
      mem_stored_iff.mpr (filled.stored?_eq_some_iff.mpr ⟨List.ne_nil_of_mem member, rfl⟩)
    have split := valid.split exclude _ stored range member
    have normal := normalize_literal (sound field exclude range member) split exclude
    exact entryOf_eq_ok_iff.mpr ⟨_, rfl, normal, rfl, rfl⟩
  refine contribution_eq_ok_iff.mpr ⟨_, _, _, field, rfl, notGroup, called, ?_, rfl⟩
  rw [given]
  exact List.rel_append (side false) (side true)

/-- Compiling what is written of a group gives the group back. -/
theorem compile_rules (names : ∀ field, word field ∈ field.aliases) (valid : group.WellFormed)
    (anchor : Token) :
    compile anchor ((Field.all.filter group.speaksOf).map (group.rule word)) = .ok group := by
  obtain ⟨filled, seconds, dates, _⟩ := (sound_iff group).mp valid.sound
  rw [compile_eq_ok_iff]
  refine ⟨?_, (Field.all.filter group.speaksOf).map fun field =>
    ⟨field == .dates, group.entriesOf field⟩, ?_, ?_⟩
  · have listed : Field.seconds ∈ Field.all.filter group.speaksOf :=
      List.mem_filter.mpr ⟨Field.mem_all _, by simp [speaksOf, seconds]⟩
    exact List.ne_nil_of_mem (List.mem_map_of_mem listed)
  · rw [List.forall₂_map_left_iff, List.forall₂_map_right_iff, List.forall₂_same]
    intro field member
    exact contribution_rule names valid (List.mem_filter.mp member).2
  · have same : ((Field.all.filter group.speaksOf).map fun field =>
        Contribution.mk (field == .dates) (group.entriesOf field)).foldl absorb empty = group := by
      apply Filled.ext_ranges (filled_foldl_absorb _ filled_empty) filled
      · intro field exclude
        rw [ranges_foldl_absorb, ranges_empty, List.nil_append, List.flatMap_map]
        rw [flatMap_filter_speaksOf, filter_flatMap_entriesOf]
      · have spoken : group.speaksOf .dates = group.hasDates := by
          rw [Bool.eq_iff_iff, speaksOf, Bool.or_eq_true]
          simpa using dates
        rw [hasDates_foldl_absorb, List.any_map, List.any_filter]
        have others (field : Field) (other : field ≠ .dates) : (field == .dates) = false := by
          simpa using other
        simp [Field.all, spoken, empty, others]
    rw [same]
    exact pin_of_has seconds _

/-- The arguments of a field are well formed and nest nothing. -/
theorem arguments_facts (valid : group.Sound) (field : Field) :
    Node.WellFormedAll (group.arguments field) ∧ Node.depthAll (group.arguments field) = 0 := by
  have literals (nodes : List Node) (each : ∀ node ∈ nodes, ∃ l, node = .literal l) :
      Node.depthAll nodes = 0 := by
    induction nodes with
    | nil => rfl
    | cons node nodes ih =>
      rw [List.forall_mem_cons] at each
      obtain ⟨⟨l, rfl⟩, rest⟩ := each
      rw [Node.depthAll, ih rest, Node.depth, Nat.max_self]
  have side (exclude : Bool) : ∀ node ∈ (group.ranges field exclude).map fun range =>
      Node.literal (range.literal field exclude),
      node.WellFormed ∧ ∃ l, node = .literal l := by
    rw [List.forall_mem_map]
    intro range member
    have sound := ((sound_iff group).mp valid).2.2.2 field exclude range member
    exact ⟨sound.wellFormed_literal exclude, _, rfl⟩
  have both := List.forall_mem_append.mpr ⟨side false, side true⟩
  exact ⟨(Node.wellFormedAll_iff _).mpr fun node member => (both node member).1,
    literals _ fun node member => (both node member).2⟩

theorem wellFormed_toExpression (names : ∀ field, word field ∈ field.aliases)
    (valid : group.Sound) : (group.toExpression word).toNode.WellFormed := by
  have named : (Token.mk 0 "group").isName = true := by decide
  refine ⟨named, (Node.wellFormedAll_iff _).mpr ?_⟩
  rw [toExpression, List.forall_mem_map]
  exact fun field _ => ⟨(alias_facts (names field)).1, (arguments_facts valid field).1⟩

/-- A group is written with its rules nested in it, and nothing nested in those. -/
theorem depth_toExpression (valid : group.Sound) (word : Field → String) :
    (group.toExpression word).toNode.depth = 2 := by
  have rules (fields : List Field) (filled : fields ≠ []) :
      Node.depthAll (fields.map (group.rule word)) = 1 := by
    induction fields with
    | nil => contradiction
    | cons field fields ih =>
      rw [List.map_cons, Node.depthAll, rule, Node.depth, (arguments_facts valid field).2]
      cases fields with
      | nil => rfl
      | cons next fields =>
        rw [ih (List.cons_ne_nil _ _)]
        rfl
  have listed : Field.seconds ∈ Field.all.filter group.speaksOf :=
    List.mem_filter.mpr ⟨Field.mem_all _, by simp [speaksOf, valid.seconds]⟩
  rw [Expression.toNode, toExpression, Node.depth, rules _ (List.ne_nil_of_mem listed)]

theorem explicitGroups_toExpression (names : ∀ field, word field ∈ field.aliases)
    {groups : List RuleGroup} (valid : ∀ group ∈ groups, group.WellFormed) :
    explicitGroups ((groups.map (toExpression word)).map Expression.toNode) = .ok groups := by
  induction groups with
  | nil => rfl
  | cons group groups ih =>
    rw [List.forall_mem_cons] at valid
    have isGroup : isGroupName "group" = true := by decide
    rw [List.map_cons, List.map_cons, Expression.toNode, toExpression, explicitGroups,
      if_pos isGroup, bind_eq_ok_iff]
    refine ⟨group, compile_rules names valid.1 _, ?_⟩
    rw [bind_eq_ok_iff]
    exact ⟨groups, ih valid.2, rfl⟩

/-- Groups are written without rules of their own, so no implicit group is added. -/
theorem implicitGroup_toExpression (word : Field → String) (groups : List RuleGroup) :
    implicitGroup ((groups.map (toExpression word)).map Expression.toNode) = .ok [] := by
  have isGroup : isGroupName "group" = true := by decide
  have noRules :
      ((groups.map (toExpression word)).map Expression.toNode).filter Node.isRule = [] := by
    rw [List.filter_eq_nil_iff]
    simp [Expression.toNode, toExpression, Node.isRule, isGroup]
  unfold implicitGroup
  rw [noRules]

theorem compileNodes_toExpression (names : ∀ field, word field ∈ field.aliases)
    {groups : List RuleGroup} (filled : groups ≠ []) (valid : ∀ group ∈ groups, group.WellFormed) :
    compileNodes ((groups.map (toExpression word)).map Expression.toNode) = .ok groups := by
  have some : groups.isEmpty = false := by simpa using filled
  simp only [compileNodes_eq, bind_eq_ok_iff]
  refine ⟨groups, explicitGroups_toExpression names valid, [],
    implicitGroup_toExpression word groups, ?_⟩
  rw [some, List.append_nil]
  rfl

end RuleGroup

/-- Compiling the text of any well-formed groups gives exactly these groups, whichever names their
fields are called by; it takes two levels of nesting. -/
theorem compile_listText {word : Field → String} (names : ∀ field, word field ∈ field.aliases)
    {groups : List RuleGroup} (filled : groups ≠ []) (valid : ∀ group ∈ groups, group.WellFormed)
    (config : Config) :
    compile config (RuleGroup.listText word groups) = .ok groups ↔ 2 ≤ config.maxDepth := by
  have wellFormed :
      Node.WellFormedAll ((groups.map (RuleGroup.toExpression word)).map Expression.toNode) := by
    rw [Node.wellFormedAll_iff, List.map_map, List.forall_mem_map]
    exact fun group member => RuleGroup.wellFormed_toExpression names (valid group member).sound
  have readable := document_text_eq_ok_iff wellFormed config.maxDepth
  have deep : (∀ e ∈ groups.map (RuleGroup.toExpression word),
      (e.toNode.depth : Int) ≤ config.maxDepth) ↔ 2 ≤ config.maxDepth := by
    rw [List.forall_mem_map]
    have depth (group : RuleGroup) (member : group ∈ groups) :
        ((group.toExpression word).toNode.depth : Int) = 2 := by
      rw [RuleGroup.depth_toExpression (valid group member).sound]
      rfl
    constructor
    · intro each
      obtain ⟨group, member⟩ := List.exists_mem_of_ne_nil _ filled
      exact depth group member ▸ each group member
    · exact fun enough group member => (depth group member).symm ▸ enough
  rw [deep] at readable
  rw [compile_eq_ok_iff, ← readable]
  constructor
  · rintro ⟨document, read, _⟩
    exact ⟨document, read⟩
  · rintro ⟨document, read⟩
    have erased := erase_of_document_text wellFormed read
    refine ⟨document, read, (compileNodes_erase _ _).mp ?_⟩
    rw [List.map_map]
    change compileNodes (document.map fun e => e.toNode.erase) = .ok groups
    rw [erased]
    have back := (compileNodes_erase _ _).mpr
      (RuleGroup.compileNodes_toExpression names filled valid)
    rwa [List.map_map] at back

/-- Two groups, one with a wrapping range, a day counted back and a modulus, one without dates but
speaking of them, are printed and compiled again. -/
theorem compile_listText_two :
    let word (field : Field) := field.aliases.headD ""
    let first : RuleGroup :=
      { includes := { seconds := some [.single 0], minutes := none, hours := none,
                      daysOfWeek := some [⟨.number 4, .number 0, true, none⟩],
                      daysOfMonth := some [⟨.number (-5), .number (-3), false, some 2⟩],
                      dates := none },
        excludes := { seconds := none, minutes := none, hours := some [.single 12],
                      daysOfWeek := none, daysOfMonth := none,
                      dates := some [⟨.date ⟨11, 24⟩, .date ⟨0, 1⟩, true, none⟩] },
        hasDates := true }
    let second : RuleGroup :=
      { includes := { seconds := some [.single 30], minutes := none, hours := none,
                      daysOfWeek := none, daysOfMonth := none, dates := none },
        hasDates := true }
    RuleGroup.listText word [first, second] =
        "group(s(0-0),h(!12-12),day(5-1),dom(-5--3%2),date(!12/24-1/1)),group(s(30-30),date())" ∧
      compile {} (RuleGroup.listText word [first, second]) = .ok [first, second] := by
  intro word first second
  have names (field : Field) : word field ∈ field.aliases := by
    cases field <;> decide
  have valid : ∀ group ∈ [first, second], group.WellFormed := by decide
  have deep : 2 ≤ ({} : Config).maxDepth := by decide
  exact ⟨by decide, (compile_listText names (List.cons_ne_nil _ _) valid {}).mpr deep⟩

end Schedule
