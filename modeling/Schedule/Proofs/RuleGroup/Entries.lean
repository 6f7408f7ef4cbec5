import Schedule.Proofs.RuleGroup.Loop

/-! # Groups as lists of entries

What an expression adds to a group does not depend on the group. So a group is compiled by finding
what each expression contributes and then adding it all up: every list of ranges holds the entries
of its field in the order in which they were written, unless the field was pinned.
-/

namespace Schedule

/-- The literal is an argument of the expression, or the wildcard that stands for having none. -/
inductive Node.Means : Node → Literal → Prop where
  | written {name : String} {first : Token} {arguments : List Node} {l : Literal}
      (member : .literal l ∈ arguments) : Means (.expression name first arguments) l
  | unwritten {name : String} {first : Token} :
      Means (.expression name first []) ⟨.wildcard, first, false, none⟩

/-- The literal is what an expression of the field adds to it: an argument, or the wildcard that
stands for having none. -/
def Node.Adds (field : Field) (node : Node) (l : Literal) : Prop :=
  ∃ name first arguments, node = .expression name first arguments ∧
    Field.ofName? name = some field ∧ .literal l ∈ RuleGroup.argumentsFor field first arguments

namespace RuleGroup

/-- What one argument adds to a group: a range of a field, allowed or taken away. -/
structure Entry where
  field : Field
  range : Range
  exclude : Bool := false
  deriving DecidableEq, Repr

/-- The entry belongs into this list of a group. -/
def Entry.isOf (field : Field) (exclude : Bool) (e : Entry) : Bool :=
  e.field == field && e.exclude == exclude

/-- What one expression adds to a group: its entries, and whether it speaks of dates. -/
structure Contribution where
  dates : Bool
  entries : List Entry
  deriving DecidableEq, Repr

variable {group : RuleGroup} {field other : Field} {exclude : Bool} {range : Range}
variable {nodes : List Node} {node : Node} {name : String} {first : Token} {l : Literal}

/-- No list is stored empty. -/
def Filled (group : RuleGroup) : Prop :=
  ∀ field exclude, group.stored? field exclude ≠ some []

theorem ranges_of_stored? {ranges : List Range}
    (stored : group.stored? field exclude = some ranges) :
    group.ranges field exclude = ranges := by
  rw [RuleGroup.ranges, stored, Option.getD_some]

/-- Where nothing is stored empty, a list is stored exactly if it has ranges. -/
theorem Filled.stored?_eq_some_iff (filled : group.Filled) {ranges : List Range} :
    group.stored? field exclude = some ranges ↔
      ranges ≠ [] ∧ group.ranges field exclude = ranges := by
  constructor
  · intro stored
    refine ⟨?_, ranges_of_stored? stored⟩
    rintro rfl
    exact filled field exclude stored
  · rintro ⟨notEmpty, same⟩
    cases stored : group.stored? field exclude with
    | some kept => rw [← same, ranges_of_stored? stored]
    | none =>
      rw [RuleGroup.ranges, stored] at same
      exact absurd same.symm notEmpty

theorem Filled.has_iff (filled : group.Filled) :
    group.has field = true ↔ ∃ exclude, group.ranges field exclude ≠ [] := by
  rw [RuleGroup.has_iff]
  constructor
  · rintro ⟨exclude, ranges, stored⟩
    obtain ⟨notEmpty, same⟩ := filled.stored?_eq_some_iff.mp stored
    exact ⟨exclude, same ▸ notEmpty⟩
  · rintro ⟨exclude, notEmpty⟩
    exact ⟨exclude, _, filled.stored?_eq_some_iff.mpr ⟨notEmpty, rfl⟩⟩

/-- Groups that store the same lists and both speak of dates, or both do not, are equal. -/
theorem ext_stored? {a b : RuleGroup}
    (same : ∀ field exclude, a.stored? field exclude = b.stored? field exclude)
    (dates : a.hasDates = b.hasDates) : a = b := by
  cases a
  cases b
  simp only [RuleGroup.mk.injEq]
  exact ⟨PerField.ext_get fun field => same field false,
    PerField.ext_get fun field => same field true, dates⟩

/-- Where nothing is stored empty, it is enough that the groups have the same ranges. -/
theorem Filled.ext_ranges {a b : RuleGroup} (filled : a.Filled) (filled' : b.Filled)
    (same : ∀ field exclude, a.ranges field exclude = b.ranges field exclude)
    (dates : a.hasDates = b.hasDates) : a = b := by
  refine ext_stored? (fun field exclude => ?_) dates
  ext ranges
  rw [filled.stored?_eq_some_iff, filled'.stored?_eq_some_iff, same]

theorem stored?_empty (field : Field) (exclude : Bool) : empty.stored? field exclude = none := by
  cases exclude <;> simp [stored?, empty]

@[simp] theorem ranges_empty (field : Field) (exclude : Bool) :
    empty.ranges field exclude = [] := by
  rw [RuleGroup.ranges, stored?_empty, Option.getD_none]

theorem filled_empty : empty.Filled := by
  intro field exclude stored
  rw [stored?_empty] at stored
  contradiction

@[simp] theorem ranges_hasDates (group : RuleGroup) (dates : Bool) (field : Field)
    (exclude : Bool) : ({ group with hasDates := dates } : RuleGroup).ranges field exclude =
      group.ranges field exclude := rfl

/-! ### Adding entries -/

/-- The group with an entry added. -/
def insert (group : RuleGroup) (e : Entry) : RuleGroup :=
  group.add e.field e.range e.exclude

/-- The group with a contribution added. -/
def absorb (group : RuleGroup) (c : Contribution) : RuleGroup :=
  c.entries.foldl insert { group with hasDates := group.hasDates || c.dates }

theorem ranges_insert (group : RuleGroup) (e : Entry) (field : Field) (exclude : Bool) :
    (group.insert e).ranges field exclude =
      group.ranges field exclude ++ ([e].filter (Entry.isOf field exclude)).map Entry.range := by
  rw [insert, ranges_add, List.filter_singleton, Entry.isOf]
  by_cases same : e.field = field ∧ e.exclude = exclude
  · simp [same]
  · rw [if_neg same]
    have other : (e.field == field && e.exclude == exclude) = false := by simpa using same
    simp [other]

theorem filled_insert (filled : group.Filled) (e : Entry) : (group.insert e).Filled := by
  intro field exclude
  rw [insert, stored?_add]
  split
  · simp
  · exact filled field exclude

theorem filled_foldl_insert (entries : List Entry) (filled : group.Filled) :
    (entries.foldl insert group).Filled := by
  induction entries generalizing group with
  | nil => exact filled
  | cons e entries ih => exact ih (filled_insert filled e)

theorem ranges_foldl_insert (entries : List Entry) (group : RuleGroup) (field : Field)
    (exclude : Bool) :
    (entries.foldl insert group).ranges field exclude =
      group.ranges field exclude ++
        (entries.filter (Entry.isOf field exclude)).map Entry.range := by
  induction entries generalizing group with
  | nil => simp
  | cons e entries ih =>
    rw [List.foldl_cons, ih, ranges_insert, List.append_assoc, ← List.map_append,
      ← List.filter_append, List.singleton_append]

theorem hasDates_foldl_insert (entries : List Entry) (group : RuleGroup) :
    (entries.foldl insert group).hasDates = group.hasDates := by
  induction entries generalizing group with
  | nil => rfl
  | cons e entries ih => rw [List.foldl_cons, ih, insert, hasDates_add]

/-- Contributions come with ranges for every list that they start. -/
theorem filled_foldl_absorb (cs : List Contribution) (filled : group.Filled) :
    (cs.foldl absorb group).Filled := by
  induction cs generalizing group with
  | nil => exact filled
  | cons c cs ih => exact ih (filled_foldl_insert c.entries filled)

/-- Every list holds the entries that belong into it, in the order of the contributions. -/
theorem ranges_foldl_absorb (cs : List Contribution) (group : RuleGroup) (field : Field)
    (exclude : Bool) :
    (cs.foldl absorb group).ranges field exclude = group.ranges field exclude ++
      ((cs.flatMap Contribution.entries).filter (Entry.isOf field exclude)).map Entry.range := by
  induction cs generalizing group with
  | nil => simp
  | cons c cs ih =>
    rw [List.foldl_cons, ih, absorb, ranges_foldl_insert, ranges_hasDates, List.flatMap_cons,
      List.filter_append, List.map_append, List.append_assoc]

theorem hasDates_foldl_absorb (cs : List Contribution) (group : RuleGroup) :
    (cs.foldl absorb group).hasDates = (group.hasDates || cs.any Contribution.dates) := by
  induction cs generalizing group with
  | nil => simp
  | cons c cs ih =>
    rw [List.foldl_cons, ih, absorb, hasDates_foldl_insert, List.any_cons, Bool.or_assoc]

/-! ### Contributions -/

/-- The entry that an argument of an expression of the given field and name means. -/
def entryOf (field : Field) (name : String) : Node → Except Mistake Entry
  | .expression _ first _ => mistake (.nestedExpression name) first
  | .literal l =>
    match normalize field l with
    | .ok range => .ok ⟨field, range, l.exclude⟩
    | .error fault => mistake fault l.first

/-- What an expression contributes to the group in which it stands. -/
def contribution : Node → Except Mistake Contribution
  | .literal l => mistake .expectedRule l.first
  | .expression name first arguments =>
    if isGroupName name then mistake .nestedGroup first
    else
      match Field.ofName? name with
      | none => mistake (.unknownExpression name) first
      | some field =>
        ((argumentsFor field first arguments).mapM (entryOf field name)).map fun entries =>
          ⟨field == .dates, entries⟩

theorem addArgument_eq (field : Field) (name : String) (group : RuleGroup) (node : Node) :
    addArgument field name group node = (entryOf field name node).map group.insert := by
  cases node with
  | expression => rfl
  | literal l =>
    rw [addArgument, entryOf]
    cases normalize field l <;> rfl

theorem addExpression_eq (group : RuleGroup) (node : Node) :
    addExpression group node = (contribution node).map group.absorb := by
  cases node with
  | literal => rfl
  | expression name first arguments =>
    rw [addExpression, contribution]
    split
    · rfl
    · cases Field.ofName? name with
      | none => rfl
      | some field =>
        have adding : addArgument field name = fun group node =>
            (entryOf field name node).map group.insert :=
          funext fun group => funext (addArgument_eq field name group)
        dsimp only
        rw [adding, foldlM_map_eq]
        cases (argumentsFor field first arguments).mapM (entryOf field name) <;> rfl

theorem entryOf_eq_ok_iff {name : String} {node : Node} {e : Entry} :
    entryOf field name node = .ok e ↔ ∃ l, node = .literal l ∧ normalize field l = .ok e.range ∧
      e.field = field ∧ e.exclude = l.exclude := by
  cases node with
  | expression => simp [entryOf, mistake]
  | literal l =>
    rw [entryOf]
    constructor
    · intro success
      split at success
      · next range found =>
        cases success
        exact ⟨l, rfl, found, rfl, rfl⟩
      · simp [mistake] at success
    · rintro ⟨_, ⟨⟩, found, rfl, excluded⟩
      rw [found]
      dsimp only
      rw [← excluded]

theorem contribution_eq_ok_iff {node : Node} {c : Contribution} :
    contribution node = .ok c ↔ ∃ name first arguments field,
      node = .expression name first arguments ∧ isGroupName name = false ∧
      Field.ofName? name = some field ∧
      List.Forall₂ (fun node e => entryOf field name node = .ok e)
        (argumentsFor field first arguments) c.entries ∧ c.dates = (field == .dates) := by
  cases node with
  | literal => simp [contribution, mistake]
  | expression name first arguments =>
    rw [contribution]
    constructor
    · intro success
      split at success
      · simp [mistake] at success
      · next notGroup =>
        split at success
        · simp [mistake] at success
        · next field called =>
          obtain ⟨entries, found, rfl⟩ := map_eq_ok_iff.mp success
          exact ⟨name, first, arguments, field, rfl, by simpa using notGroup, called,
            mapM_eq_ok_iff.mp found, rfl⟩
    · rintro ⟨_, _, _, field, ⟨⟩, notGroup, called, found, dates⟩
      rw [if_neg (by simp [notGroup]), called]
      exact map_eq_ok_iff.mpr ⟨c.entries, mapM_eq_ok_iff.mpr found, by rw [← dates]⟩

theorem adds_expression_iff (called : Field.ofName? name = some field) {arguments : List Node}
    {other : Field} : (Node.expression name first arguments).Adds other l ↔
      other = field ∧ .literal l ∈ argumentsFor field first arguments := by
  constructor
  · rintro ⟨_, _, _, ⟨⟩, called', listed⟩
    rw [called, Option.some.injEq] at called'
    exact ⟨called'.symm, called' ▸ listed⟩
  · rintro ⟨rfl, listed⟩
    exact ⟨name, first, arguments, rfl, called, listed⟩

/-- What an expression adds to a field is what it means. -/
theorem means_of_adds (adds : node.Adds field l) : node.Means l := by
  obtain ⟨name, first, arguments, rfl, _, listed⟩ := adds
  unfold argumentsFor at listed
  split at listed
  · next bare =>
    simp only [Bool.and_eq_true, List.isEmpty_iff] at bare
    obtain ⟨rfl, _⟩ := bare
    cases List.mem_singleton.mp listed
    exact .unwritten
  · exact .written listed

/-- The entries of an expression are those of its literals. -/
theorem mem_entries_iff {c : Contribution} {e : Entry} (success : contribution node = .ok c) :
    e ∈ c.entries ↔
      ∃ l, node.Adds e.field l ∧ normalize e.field l = .ok e.range ∧ e.exclude = l.exclude := by
  obtain ⟨name, first, arguments, field, rfl, _, called, found, _⟩ :=
    contribution_eq_ok_iff.mp success
  constructor
  · intro member
    obtain ⟨argument, listed, entry⟩ := exists_of_mem_right found member
    obtain ⟨l, rfl, normal, rfl, excluded⟩ := entryOf_eq_ok_iff.mp entry
    exact ⟨l, (adds_expression_iff called).mpr ⟨rfl, listed⟩, normal, excluded⟩
  · rintro ⟨l, adds, normal, excluded⟩
    obtain ⟨rfl, listed⟩ := (adds_expression_iff called).mp adds
    obtain ⟨e', member, entry⟩ := exists_of_mem_left found listed
    rw [entryOf_eq_ok_iff.mpr ⟨l, rfl, normal, rfl, excluded⟩, Except.ok.injEq] at entry
    exact entry ▸ member

/-- Whatever is written for a field has a range there, if it contributes at all. -/
theorem exists_normalize {c : Contribution} (success : contribution node = .ok c)
    (adds : node.Adds field l) : ∃ range, normalize field l = .ok range := by
  obtain ⟨name, first, arguments, _, rfl, _, called, found, _⟩ :=
    contribution_eq_ok_iff.mp success
  obtain ⟨rfl, listed⟩ := (adds_expression_iff called).mp adds
  obtain ⟨e, _, entry⟩ := exists_of_mem_left found listed
  obtain ⟨_, ⟨⟩, normal, _⟩ := entryOf_eq_ok_iff.mp entry
  exact ⟨e.range, normal⟩

/-- Exactly the expressions of dates speak of dates. -/
theorem dates_of_contribution {c : Contribution} (success : contribution node = .ok c)
    (adds : node.Adds field l) : c.dates = (field == .dates) := by
  obtain ⟨name, first, arguments, _, rfl, _, called, _, dates⟩ := contribution_eq_ok_iff.mp success
  obtain ⟨rfl, _⟩ := (adds_expression_iff called).mp adds
  exact dates

/-- The ranges that some expressions add up to are those of their literals. -/
theorem mem_ranges_foldl_absorb_iff {cs : List Contribution}
    (found : List.Forall₂ (fun node c => contribution node = .ok c) nodes cs) :
    range ∈ (cs.foldl absorb empty).ranges field exclude ↔ ∃ node ∈ nodes, ∃ l,
      node.Adds field l ∧ normalize field l = .ok range ∧ l.exclude = exclude := by
  rw [ranges_foldl_absorb, ranges_empty, List.nil_append]
  simp only [List.mem_map, List.mem_filter, List.mem_flatMap, Entry.isOf, Bool.and_eq_true,
    beq_iff_eq]
  constructor
  · rintro ⟨e, ⟨⟨c, listed, member⟩, rfl, rfl⟩, rfl⟩
    obtain ⟨node, present, contributes⟩ := exists_of_mem_right found listed
    obtain ⟨l, adds, normal, excluded⟩ := (mem_entries_iff contributes).mp member
    exact ⟨node, present, l, adds, normal, excluded.symm⟩
  · rintro ⟨node, present, l, adds, normal, rfl⟩
    obtain ⟨c, listed, contributes⟩ := exists_of_mem_left found present
    have member := (mem_entries_iff (e := ⟨field, range, l.exclude⟩) contributes).mpr
      ⟨l, adds, normal, rfl⟩
    exact ⟨_, ⟨⟨c, listed, member⟩, rfl, rfl⟩, rfl⟩

/-! ### Pinning -/

/-- Pinning does nothing to a group whose first given field is constrained. -/
theorem pin_of_has (has : group.has field = true) (rest : List Field) :
    group.pin (field :: rest) = group := by
  rw [pin, if_pos has]

@[simp] theorem hasDates_pin (group : RuleGroup) (fields : List Field) :
    (group.pin fields).hasDates = group.hasDates := by
  induction fields generalizing group with
  | nil => rfl
  | cons field rest ih =>
    rw [pin]
    split
    · rfl
    · exact ih _

theorem stored?_set (group : RuleGroup) (field other : Field) (ranges : Option (List Range))
    (exclude : Bool) :
    ({ group with includes := group.includes.set field ranges } : RuleGroup).stored? other exclude =
      if field = other ∧ exclude = false then ranges else group.stored? other exclude := by
  cases exclude <;> simp [stored?]

/-- Pinning changes no list but those that the given fields do not have, which become that of
zero. -/
theorem stored?_pin (group : RuleGroup) (fields : List Field) (field : Field) (exclude : Bool) :
    (group.pin fields).stored? field exclude = group.stored? field exclude ∨
      field ∈ fields ∧ (group.pin fields).stored? field exclude = some [.single 0] := by
  induction fields generalizing group with
  | nil => exact .inl rfl
  | cons first rest ih =>
    rw [pin]
    split
    · exact .inl rfl
    · rcases ih { group with includes := group.includes.set first (some [.single 0]) } with
        same | pinned
      · rw [same, stored?_set]
        split
        · next hit => exact .inr ⟨by simp [hit.1], rfl⟩
        · exact .inl rfl
      · exact .inr ⟨List.mem_cons_of_mem _ pinned.1, pinned.2⟩

theorem ranges_pin (group : RuleGroup) (fields : List Field) (field : Field) (exclude : Bool) :
    (group.pin fields).ranges field exclude = group.ranges field exclude ∨
      field ∈ fields ∧ (group.pin fields).ranges field exclude = [.single 0] := by
  rcases stored?_pin group fields field exclude with same | ⟨listed, pinned⟩
  · exact .inl (by rw [RuleGroup.ranges, same, RuleGroup.ranges])
  · exact .inr ⟨listed, ranges_of_stored? pinned⟩

theorem filled_pin (fields : List Field) (filled : group.Filled) : (group.pin fields).Filled := by
  intro field exclude
  rcases stored?_pin group fields field exclude with same | ⟨_, pinned⟩
  · rw [same]
    exact filled field exclude
  · simp [pinned]

/-- Pinning changes no list of a field that has any. -/
theorem stored?_pin_of_has (fields : List Field) (has : group.has field = true) :
    (group.pin fields).stored? field exclude = group.stored? field exclude := by
  induction fields generalizing group with
  | nil => rfl
  | cons finest rest ih =>
    rw [pin]
    split
    · rfl
    · next lacking =>
      have other : finest ≠ field := by
        rintro rfl
        exact lacking has
      have unchanged (exclude : Bool) : ({ group with
          includes := group.includes.set finest (some [.single 0]) } : RuleGroup).stored?
            field exclude = group.stored? field exclude := by
        rw [stored?_set, if_neg (fun same => other same.1)]
      rw [ih, unchanged]
      rw [has_iff] at has ⊢
      simpa only [unchanged] using has

/-- No field that has a list loses it by pinning. -/
theorem has_pin (fields : List Field) (has : group.has field = true) :
    (group.pin fields).has field = true := by
  rw [has_iff] at has ⊢
  obtain ⟨exclude, ranges, stored⟩ := has
  rcases stored?_pin group fields field exclude with same | ⟨_, pinned⟩
  · exact ⟨exclude, ranges, same.trans stored⟩
  · exact ⟨exclude, _, pinned⟩

/-- After pinning, the first of the given fields is constrained. -/
theorem has_pin_head (group : RuleGroup) (field : Field) (rest : List Field) :
    (group.pin (field :: rest)).has field = true := by
  rw [pin]
  split
  · assumption
  · apply has_pin
    rw [has_iff]
    exact ⟨false, [.single 0], by rw [stored?_set, if_pos ⟨rfl, rfl⟩]⟩

/-! ### Compiled groups -/

/-- Expressions are added one by one by computing all that they contribute first. -/
theorem foldlM_addExpression (nodes : List Node) (group : RuleGroup) :
    nodes.foldlM addExpression group = (nodes.mapM contribution).map (List.foldl absorb group) := by
  have adding : addExpression = fun group node => (contribution node).map group.absorb :=
    funext fun group => funext (addExpression_eq group)
  rw [adding, foldlM_map_eq]

/-- A group is what its expressions contribute, of which there is at least one, and what is pinned
to zero. -/
theorem compile_eq_ok_iff {anchor : Token} {nodes : List Node} :
    compile anchor nodes = .ok group ↔ nodes ≠ [] ∧ ∃ cs,
      List.Forall₂ (fun node c => contribution node = .ok c) nodes cs ∧
      (cs.foldl absorb empty).pin Field.times = group := by
  rw [compile_eq]
  cases nodes with
  | nil => simp [mistake]
  | cons node nodes =>
    rw [foldlM_addExpression]
    simp only [List.isEmpty_cons, Bool.false_eq_true, if_false, map_eq_ok_iff, mapM_eq_ok_iff]
    constructor
    · rintro ⟨_, ⟨cs, found, rfl⟩, same⟩
      exact ⟨List.cons_ne_nil _ _, cs, found, same⟩
    · rintro ⟨_, cs, found, same⟩
      exact ⟨_, ⟨cs, found, rfl⟩, same⟩

/-- A group can be made of any expressions that each have something to contribute. -/
theorem exists_compile_iff {anchor : Token} : (∃ group, compile anchor nodes = .ok group) ↔
    nodes ≠ [] ∧ ∀ node ∈ nodes, ∃ c, contribution node = .ok c := by
  simp only [compile_eq_ok_iff, ← exists_forall₂_iff]
  constructor
  · rintro ⟨_, filled, cs, found, _⟩
    exact ⟨filled, cs, found⟩
  · rintro ⟨filled, cs, found⟩
    exact ⟨_, filled, cs, found, rfl⟩

/-- No group is compiled with an empty list. -/
theorem filled_of_compile {anchor : Token} {nodes : List Node}
    (success : compile anchor nodes = .ok group) : group.Filled := by
  obtain ⟨_, cs, _, rfl⟩ := compile_eq_ok_iff.mp success
  exact filled_pin _ (filled_foldl_absorb cs filled_empty)

/-- Every range of a group is a pinned zero of a time field or the range of a literal. -/
theorem of_mem_ranges {anchor : Token} {nodes : List Node}
    (success : compile anchor nodes = .ok group) (member : range ∈ group.ranges field exclude) :
    (field ∈ Field.times ∧ range = .single 0) ∨
      ∃ node ∈ nodes, ∃ l, node.Means l ∧ normalize field l = .ok range ∧ l.exclude = exclude ∧
        (field = .dates → group.hasDates = true) := by
  obtain ⟨_, cs, found, rfl⟩ := compile_eq_ok_iff.mp success
  rcases ranges_pin (cs.foldl absorb empty) Field.times field exclude with same | ⟨listed, pinned⟩
  · rw [same, mem_ranges_foldl_absorb_iff found] at member
    obtain ⟨node, present, l, adds, normal, excluded⟩ := member
    refine .inr ⟨node, present, l, means_of_adds adds, normal, excluded, fun isDates => ?_⟩
    obtain ⟨c, contributed, contributes⟩ := exists_of_mem_left found present
    rw [hasDates_pin, hasDates_foldl_absorb, Bool.or_eq_true, List.any_eq_true]
    exact .inr ⟨c, contributed, by rw [dates_of_contribution contributes adds, isDates]; rfl⟩
  · rw [pinned, List.mem_singleton] at member
    exact .inl ⟨listed, member⟩

/-- The ranges of a field that cannot be pinned, or that an expression speaks of, are those of the
literals written for it. -/
theorem mem_ranges_iff {anchor : Token} (success : compile anchor nodes = .ok group)
    (unpinned : field ∉ Field.times ∨ ∃ node ∈ nodes, ∃ l, node.Adds field l) :
    range ∈ group.ranges field exclude ↔ ∃ node ∈ nodes, ∃ l, node.Adds field l ∧
      normalize field l = .ok range ∧ l.exclude = exclude := by
  obtain ⟨_, cs, found, rfl⟩ := compile_eq_ok_iff.mp success
  rw [← mem_ranges_foldl_absorb_iff found]
  suffices same : ((cs.foldl absorb empty).pin Field.times).ranges field exclude =
      (cs.foldl absorb empty).ranges field exclude by rw [same]
  rcases unpinned with notTime | ⟨node, present, l, adds⟩
  · exact (ranges_pin ..).resolve_right fun pinned => notTime pinned.1
  · -- the range of the literal makes a list that pinning leaves alone
    obtain ⟨c, _, contributes⟩ := exists_of_mem_left found present
    obtain ⟨range, normal⟩ := exists_normalize contributes adds
    have listed := (mem_ranges_foldl_absorb_iff found).mpr ⟨node, present, l, adds, normal, rfl⟩
    have has : (cs.foldl absorb empty).has field = true :=
      (filled_foldl_absorb cs filled_empty).has_iff.mpr ⟨_, List.ne_nil_of_mem listed⟩
    rw [RuleGroup.ranges, stored?_pin_of_has _ has, RuleGroup.ranges]

end RuleGroup

/-! ### Compiled documents -/

/-- Every compiled group is made by some of the nodes, or by the arguments of one of them. -/
inductive Part (nodes : List Node) : List Node → Prop where
  | rules : Part nodes (nodes.filter Node.isRule)
  | arguments {name : String} {first : Token} {arguments : List Node}
      (member : .expression name first arguments ∈ nodes) : Part nodes arguments

theorem of_explicitGroups {nodes : List Node} {groups : List RuleGroup} {group : RuleGroup}
    (success : explicitGroups nodes = .ok groups) (member : group ∈ groups) :
    ∃ (name : String) (first : Token) (arguments : List Node),
      .expression name first arguments ∈ nodes ∧ RuleGroup.compile first arguments = .ok group := by
  induction nodes generalizing groups with
  | nil =>
    cases success
    contradiction
  | cons node nodes ih =>
    cases node with
    | literal => simp [explicitGroups, mistake] at success
    | expression name first arguments =>
      rw [explicitGroups] at success
      split at success
      · simp only [bind_eq_ok_iff, Except.ok.injEq] at success
        obtain ⟨compiled, found, others, read, rfl⟩ := success
        rcases List.mem_cons.mp member with rfl | later
        · exact ⟨name, first, arguments, List.mem_cons_self, found⟩
        · obtain ⟨name, first, arguments, inside, found⟩ := ih read later
          exact ⟨name, first, arguments, List.mem_cons_of_mem _ inside, found⟩
      · obtain ⟨name, first, arguments, inside, found⟩ := ih success member
        exact ⟨name, first, arguments, List.mem_cons_of_mem _ inside, found⟩

theorem of_implicitGroup {nodes : List Node} {groups : List RuleGroup} {group : RuleGroup}
    (success : implicitGroup nodes = .ok groups) (member : group ∈ groups) :
    ∃ anchor, RuleGroup.compile anchor (nodes.filter Node.isRule) = .ok group := by
  unfold implicitGroup at success
  split at success
  · cases success
    contradiction
  · next rule rules same =>
    obtain ⟨compiled, found, rfl⟩ := map_eq_ok_iff.mp success
    rw [List.mem_singleton] at member
    subst member
    exact ⟨rule.first, same ▸ found⟩

/-- A compiled document has groups, and each of them is compiled from a part of it. -/
theorem of_compileNodes {nodes : List Node} {groups : List RuleGroup}
    (success : compileNodes nodes = .ok groups) :
    groups ≠ [] ∧ ∀ group ∈ groups, ∃ anchor part, Part nodes part ∧
      RuleGroup.compile anchor part = .ok group := by
  simp only [compileNodes_eq, bind_eq_ok_iff] at success
  obtain ⟨explicit, read, implicit, made, success⟩ := success
  split at success
  · simp [mistake] at success
  · next filled =>
    cases success
    constructor
    · rintro none
      simp only [List.append_eq_nil_iff] at none
      simp [none] at filled
    · intro group member
      rcases List.mem_append.mp member with inside | inside
      · obtain ⟨_, first, arguments, listed, found⟩ := of_explicitGroups read inside
        exact ⟨first, arguments, .arguments listed, found⟩
      · obtain ⟨anchor, found⟩ := of_implicitGroup made inside
        exact ⟨anchor, _, .rules, found⟩

end Schedule
