import Schedule.Proofs.RuleGroup.Every

/-! # What a group means

The group of some expressions, said without adding them up one after another. Every list of a field
holds the ranges of the literals that are written for the field with the sign of the list, in the
order in which they are written, wherever the expressions of other fields stand. A time field is
pinned to zero if it is finer than all time fields that anything is written for. So expressions of
different fields can be exchanged, and those of one field can be joined.
-/

namespace Schedule

/-- The field comes before the other one in the canonical order. -/
def Field.Finer (field other : Field) : Prop :=
  Field.all.idxOf field < Field.all.idxOf other

instance (field other : Field) : Decidable (field.Finer other) :=
  inferInstanceAs (Decidable (_ < _))

namespace Node

/-- The literal that the node is. -/
def literal? : Node → Option Literal
  | .literal l => some l
  | .expression .. => none

/-- The field that an expression names. -/
def field? : Node → Option Field
  | .literal _ => none
  | .expression name _ _ => Field.ofName? name

/-- The literals that a node has for a field: an expression of the field its arguments, and one
without arguments the wildcard, unless the field is that of dates. -/
def literalsFor (field : Field) : Node → List Literal
  | .literal _ => []
  | .expression name first arguments =>
    if Field.ofName? name ≠ some field then []
    else if arguments.isEmpty ∧ field ≠ .dates then [.wildcard first]
    else arguments.filterMap literal?

/-- The node can stand in a group: it is an expression that names a field, and all of its arguments
are literals that have a range in that field. -/
inductive Fits : Node → Prop where
  | expression {name : String} {first : Token} {arguments : List Node} {field : Field}
      (called : Field.ofName? name = some field)
      (taken : ∀ argument ∈ arguments, ∃ l range,
        argument = .literal l ∧ normalize field l = .ok range) :
      Fits (.expression name first arguments)

end Node

/-- What is written for a field in some nodes, in the order in which it is written. -/
def written (field : Field) (nodes : List Node) : List Literal :=
  nodes.flatMap (Node.literalsFor field)

namespace RuleGroup

/-- The ranges are those of the literals that are written for the field with the given sign, one for
each and in the same order. -/
def Collects (nodes : List Node) (field : Field) (exclude : Bool) (ranges : List Range) : Prop :=
  List.Forall₂ (fun l range => normalize field l = .ok range)
    ((written field nodes).filter fun l => l.exclude == exclude) ranges

/-- The field is a time field, and finer than every time field that anything is written for. -/
def Pinned (nodes : List Node) (field : Field) : Prop :=
  field ∈ Field.times ∧ ∀ time ∈ Field.times, written time nodes ≠ [] → field.Finer time

/-- The group is what the nodes say: a pinned field allows zero alone, every other field stores the
ranges that the nodes have for it, and no list if there are none; and the group speaks of dates if
one of the nodes does. -/
structure Means (nodes : List Node) (group : RuleGroup) : Prop where
  pinned : ∀ field, Pinned nodes field →
    group.stored? field false = some [.single 0] ∧ group.stored? field true = none
  collected : ∀ field, ¬ Pinned nodes field → ∀ exclude, ∃ ranges,
    Collects nodes field exclude ranges ∧
      group.stored? field exclude = if ranges = [] then none else some ranges
  dates : group.hasDates = true ↔ ∃ node ∈ nodes, node.field? = some .dates

variable {group group' : RuleGroup} {field : Field} {exclude : Bool} {ranges : List Range}
variable {nodes nodes' before after : List Node} {node : Node} {anchor first : Token}
variable {name : String} {c : Contribution} {cs : List Contribution}

/-! ### Nodes that fit -/

/-- No field goes by the name of a group. -/
theorem isGroupName_of_ofName? (called : Field.ofName? name = some field) :
    isGroupName name = false := by
  rw [isGroupName, beq_eq_false_iff_ne]
  intro group
  have listed := List.find?_some called
  rw [group] at listed
  revert listed
  cases field <;> decide

theorem entryOf_isOk_iff {argument : Node} : (∃ e, entryOf field name argument = .ok e) ↔
    ∃ l range, argument = .literal l ∧ normalize field l = .ok range := by
  constructor
  · rintro ⟨e, entry⟩
    obtain ⟨l, same, normal, _⟩ := entryOf_eq_ok_iff.mp entry
    exact ⟨l, e.range, same, normal⟩
  · rintro ⟨l, range, same, normal⟩
    exact ⟨⟨field, range, l.exclude⟩, entryOf_eq_ok_iff.mpr ⟨l, same, normal, rfl, rfl⟩⟩

/-- The wildcard that stands for the lack of arguments has a range everywhere. -/
theorem forall_argumentsFor_iff {arguments : List Node} :
    (∀ argument ∈ argumentsFor field first arguments, ∃ l range,
        argument = .literal l ∧ normalize field l = .ok range) ↔
      ∀ argument ∈ arguments, ∃ l range, argument = .literal l ∧ normalize field l = .ok range := by
  unfold argumentsFor
  split
  · next bare =>
    simp only [Bool.and_eq_true, List.isEmpty_iff] at bare
    refine iff_of_true (List.forall_mem_singleton.mpr ?_) (by simp [bare.1])
    exact ⟨.wildcard first, _, rfl, normalize_wildcard field first⟩
  · rfl

theorem exists_entries_iff {arguments : List Node} :
    (∃ entries, List.Forall₂ (fun argument e => entryOf field name argument = .ok e)
        (argumentsFor field first arguments) entries) ↔
      ∀ argument ∈ arguments, ∃ l range, argument = .literal l ∧ normalize field l = .ok range := by
  rw [exists_forall₂_iff]
  exact (forall₂_congr fun _ _ => entryOf_isOk_iff).trans forall_argumentsFor_iff

/-- The nodes that fit are those that have something to contribute. -/
theorem fits_iff_contribution : node.Fits ↔ ∃ c, contribution node = .ok c := by
  constructor
  · intro fits
    cases fits with
    | @expression name first arguments field called taken =>
      obtain ⟨entries, found⟩ := exists_entries_iff.mpr taken
      exact ⟨⟨field == .dates, entries⟩, contribution_eq_ok_iff.mpr
        ⟨name, first, arguments, field, rfl, isGroupName_of_ofName? called, called, found, rfl⟩⟩
  · rintro ⟨c, contributes⟩
    obtain ⟨name, first, arguments, field, rfl, _, called, found, _⟩ :=
      contribution_eq_ok_iff.mp contributes
    exact .expression called (exists_entries_iff.mp ⟨_, found⟩)

/-! ### What is collected -/

theorem literalsFor_of_called {arguments : List Node} (called : Field.ofName? name = some field) :
    (Node.expression name first arguments).literalsFor field =
      (argumentsFor field first arguments).filterMap Node.literal? := by
  rw [Node.literalsFor, if_neg (not_not.mpr called), argumentsFor]
  cases arguments with
  | nil => by_cases dates : field = .dates <;> simp [dates, Node.literal?, Literal.wildcard]
  | cons => simp

theorem literalsFor_of_other (other : node.field? ≠ some field) : node.literalsFor field = [] := by
  cases node with
  | literal => rfl
  | expression => exact if_pos other

/-- The entry has the range and the sign of the literal. -/
def Entry.IsFor (field : Field) (l : Literal) (e : Entry) : Prop :=
  normalize field l = .ok e.range ∧ l.exclude = e.exclude

theorem forall₂_entryOf {arguments : List Node} {entries : List Entry}
    (found : List.Forall₂ (fun argument e => entryOf field name argument = .ok e)
      arguments entries) :
    List.Forall₂ (Entry.IsFor field) (arguments.filterMap Node.literal?)
      (entries.filter fun e => e.field == field) := by
  induction found with
  | nil => exact .nil
  | cons entry _ ih =>
    obtain ⟨l, rfl, normal, own, excluded⟩ := entryOf_eq_ok_iff.mp entry
    rw [List.filter_cons_of_pos (by simp [own])]
    exact .cons ⟨normal, excluded.symm⟩ ih

/-- The entries of a field that a node contributes are those of the literals that it has for it. -/
theorem forall₂_contribution (contributes : contribution node = .ok c) (field : Field) :
    List.Forall₂ (Entry.IsFor field) (node.literalsFor field)
      (c.entries.filter fun e => e.field == field) := by
  obtain ⟨name, first, arguments, own, rfl, _, called, found, _⟩ :=
    contribution_eq_ok_iff.mp contributes
  by_cases same : own = field
  · subst same
    rw [literalsFor_of_called called]
    exact forall₂_entryOf found
  · have none : c.entries.filter (fun e => e.field == field) = [] := by
      rw [List.filter_eq_nil_iff]
      intro e listed
      obtain ⟨_, _, entry⟩ := exists_of_mem_right found listed
      obtain ⟨_, _, _, rfl, _⟩ := entryOf_eq_ok_iff.mp entry
      simpa using same
    have other : (Node.expression name first arguments).field? ≠ some field := by
      rwa [Node.field?, called, ne_eq, Option.some.injEq]
    rw [none, literalsFor_of_other other]
    exact .nil

theorem forall₂_contributions
    (found : List.Forall₂ (fun node c => contribution node = .ok c) nodes cs) (field : Field) :
    List.Forall₂ (Entry.IsFor field) (written field nodes)
      ((cs.flatMap Contribution.entries).filter fun e => e.field == field) := by
  induction found with
  | nil => exact .nil
  | cons contributes _ ih =>
    rw [written, List.flatMap_cons, List.flatMap_cons, List.filter_append]
    exact List.rel_append (forall₂_contribution contributes field) ih

/-- Adding up what the nodes contribute collects what is written in them. -/
theorem collects_foldl_absorb
    (found : List.Forall₂ (fun node c => contribution node = .ok c) nodes cs) (field : Field)
    (exclude : Bool) :
    Collects nodes field exclude ((cs.foldl absorb empty).ranges field exclude) := by
  have sign : ∀ l e, Entry.IsFor field l e →
      ((l.exclude == exclude) = true ↔ (e.exclude == exclude) = true) := by
    rintro l e ⟨_, same⟩
    rw [same]
  have signed := List.rel_filter (fun l e isFor => sign l e isFor)
    (forall₂_contributions found field)
  have isOf : Entry.isOf field exclude = fun e => e.exclude == exclude && e.field == field :=
    funext fun e => Bool.and_comm ..
  rw [List.filter_filter] at signed
  rw [ranges_foldl_absorb, ranges_empty, List.nil_append, Collects, List.forall₂_map_right_iff,
    isOf]
  exact signed.imp fun _ _ isFor => isFor.1

theorem Collects.unique (collects : Collects nodes field exclude ranges) {ranges' : List Range}
    (collects' : Collects nodes field exclude ranges') : ranges = ranges' :=
  List.right_unique_forall₂' (fun _ _ _ same same' => Except.ok.inj (same.symm.trans same'))
    collects collects'

/-- A field stores a list exactly if something is written for it. -/
theorem has_foldl_absorb_iff
    (found : List.Forall₂ (fun node c => contribution node = .ok c) nodes cs) (field : Field) :
    (cs.foldl absorb empty).has field = true ↔ written field nodes ≠ [] := by
  have filled := filled_foldl_absorb cs filled_empty
  have lengths (exclude : Bool) : (cs.foldl absorb empty).ranges field exclude = [] ↔
      ((written field nodes).filter fun l => l.exclude == exclude) = [] := by
    rw [← List.length_eq_zero_iff, ← List.length_eq_zero_iff,
      (collects_foldl_absorb found field exclude).length_eq]
  rw [filled.has_iff, ← not_forall, not_iff_not]
  simp only [lengths]
  constructor
  · intro none
    refine List.eq_nil_iff_forall_not_mem.mpr fun l member => ?_
    have signed := List.filter_eq_nil_iff.mp (none l.exclude) l member
    simp at signed
  · intro none exclude
    rw [none, List.filter_nil]

theorem dates_eq_true_iff (contributes : contribution node = .ok c) :
    c.dates = true ↔ node.field? = some .dates := by
  obtain ⟨name, first, arguments, field, rfl, _, called, _, dates⟩ :=
    contribution_eq_ok_iff.mp contributes
  rw [dates, beq_iff_eq, Node.field?, called, Option.some.injEq]

theorem hasDates_foldl_absorb_iff
    (found : List.Forall₂ (fun node c => contribution node = .ok c) nodes cs) :
    (cs.foldl absorb empty).hasDates = true ↔ ∃ node ∈ nodes, node.field? = some .dates := by
  have none : empty.hasDates = false := rfl
  rw [hasDates_foldl_absorb, none, Bool.false_or, List.any_eq_true]
  constructor
  · rintro ⟨c, listed, dates⟩
    obtain ⟨node, member, contributes⟩ := exists_of_mem_right found listed
    exact ⟨node, member, (dates_eq_true_iff contributes).mp dates⟩
  · rintro ⟨node, member, dates⟩
    obtain ⟨c, listed, contributes⟩ := exists_of_mem_left found member
    exact ⟨c, listed, (dates_eq_true_iff contributes).mpr dates⟩

/-! ### What is pinned -/

theorem has_set (group : RuleGroup) (field other : Field) (ranges : List Range) :
    ({ group with includes := group.includes.set field (some ranges) } : RuleGroup).has other =
        true ↔
      field = other ∨ group.has other = true := by
  by_cases same : field = other <;> simp [has, same]

theorem stored?_of_not_has (lacking : ¬ group.has field = true) (exclude : Bool) :
    group.stored? field exclude = none := by
  rw [has_iff] at lacking
  rw [Option.eq_none_iff_forall_ne_some]
  exact fun ranges stored => lacking ⟨exclude, ranges, stored⟩

/-- Of fields in their order, those before the first that the group has a list for are pinned. The
induction is on the fields; one that is pinned counts as constrained from then on, but comes before
all that follow. -/
theorem stored?_pin_eq {fields : List Field} (ordered : fields.Pairwise Field.Finer)
    (group : RuleGroup) (field : Field) (exclude : Bool) :
    (group.pin fields).stored? field exclude =
      if field ∈ fields ∧ ∀ other ∈ fields, group.has other = true → field.Finer other then
        if exclude then none else some [.single 0]
      else group.stored? field exclude := by
  induction fields generalizing group with
  | nil => simp [pin]
  | cons finest rest ih =>
    obtain ⟨before, ordered⟩ := List.pairwise_cons.mp ordered
    have irrefl (field : Field) : ¬ field.Finer field := Nat.lt_irrefl _
    rw [pin]
    split
    · next has =>
      rw [if_neg]
      rintro ⟨listed, finer⟩
      have first := finer finest List.mem_cons_self has
      rcases List.mem_cons.mp listed with rfl | later
      · exact irrefl _ first
      · exact Nat.lt_asymm (before field later) first
    · next lacking =>
      rw [ih ordered, stored?_set]
      by_cases same : finest = field
      · subst same
        have alone : finest ∉ rest := fun later => irrefl _ (before finest later)
        have pinned : finest ∈ finest :: rest ∧
            ∀ other ∈ finest :: rest, group.has other = true → finest.Finer other := by
          refine ⟨List.mem_cons_self, fun other listed has => ?_⟩
          rcases List.mem_cons.mp listed with rfl | later
          · exact absurd has lacking
          · exact before other later
        rw [if_neg fun later => alone later.1, if_pos pinned]
        cases exclude <;> simp [stored?_of_not_has lacking]
      · have later_iff : (field ∈ rest ∧ ∀ other ∈ rest, ({ group with
              includes := group.includes.set finest (some [.single 0]) } : RuleGroup).has other =
                true → field.Finer other) ↔
            field ∈ finest :: rest ∧
              ∀ other ∈ finest :: rest, group.has other = true → field.Finer other := by
          constructor
          · rintro ⟨later, finer⟩
            refine ⟨List.mem_cons_of_mem _ later, fun other listed has => ?_⟩
            rcases List.mem_cons.mp listed with rfl | listed
            · exact absurd has lacking
            · exact finer other listed ((has_set ..).mpr (.inr has))
          · rintro ⟨listed, finer⟩
            refine ⟨(List.mem_cons.mp listed).resolve_left (Ne.symm same), ?_⟩
            intro other later has
            rcases (has_set ..).mp has with rfl | has
            · exact absurd (before _ later) (irrefl _)
            · exact finer other (List.mem_cons_of_mem _ later) has
        rw [if_congr later_iff rfl (if_neg fun hit => same hit.1)]

/-- What the nodes add up to is pinned where nothing finer or equally fine is written. -/
theorem stored?_pin_times
    (found : List.Forall₂ (fun node c => contribution node = .ok c) nodes cs) (field : Field)
    (exclude : Bool) :
    (Pinned nodes field → ((cs.foldl absorb empty).pin Field.times).stored? field exclude =
        if exclude then none else some [.single 0]) ∧
      (¬ Pinned nodes field → ((cs.foldl absorb empty).pin Field.times).stored? field exclude =
        (cs.foldl absorb empty).stored? field exclude) := by
  have ordered : Field.times.Pairwise Field.Finer := by decide
  have same := stored?_pin_eq ordered (cs.foldl absorb empty) field exclude
  simp only [has_foldl_absorb_iff found] at same
  exact ⟨fun pinned => same.trans (if_pos pinned), fun notPinned => same.trans (if_neg notPinned)⟩

/-! ### The meaning of a group -/

/-- A compiled group is what its nodes say. -/
theorem means_of_contributions
    (found : List.Forall₂ (fun node c => contribution node = .ok c) nodes cs) :
    Means nodes ((cs.foldl absorb empty).pin Field.times) where
  pinned field pinned :=
    ⟨(stored?_pin_times found field false).1 pinned, (stored?_pin_times found field true).1 pinned⟩
  collected field notPinned exclude := by
    refine ⟨_, collects_foldl_absorb found field exclude, ?_⟩
    rw [(stored?_pin_times found field exclude).2 notPinned]
    have filled := filled_foldl_absorb cs filled_empty
    split
    · next none =>
      rw [Option.eq_none_iff_forall_ne_some]
      intro ranges stored
      obtain ⟨notEmpty, same⟩ := filled.stored?_eq_some_iff.mp stored
      exact notEmpty (same.symm.trans none)
    · next notEmpty => exact filled.stored?_eq_some_iff.mpr ⟨notEmpty, rfl⟩
  dates := by rw [hasDates_pin, hasDates_foldl_absorb_iff found]

/-- What nodes say makes one group only. -/
theorem Means.unique (means : Means nodes group) (means' : Means nodes group') :
    group = group' := by
  have stored (field : Field) (exclude : Bool) :
      group.stored? field exclude = group'.stored? field exclude := by
    by_cases pinned : Pinned nodes field
    · obtain ⟨included, excluded⟩ := means.pinned field pinned
      obtain ⟨included', excluded'⟩ := means'.pinned field pinned
      cases exclude with
      | false => rw [included, included']
      | true => rw [excluded, excluded']
    · obtain ⟨ranges, collects, same⟩ := means.collected field pinned exclude
      obtain ⟨ranges', collects', same'⟩ := means'.collected field pinned exclude
      rw [same, same', collects.unique collects']
  have dates : group.hasDates = group'.hasDates := by
    rw [Bool.eq_iff_iff, means.dates, means'.dates]
  exact RuleGroup.ext_stored? stored dates

/-- A group is compiled from some nodes exactly if they fit, and is what they say. -/
theorem compile_iff_means : compile anchor nodes = .ok group ↔
    nodes ≠ [] ∧ (∀ node ∈ nodes, node.Fits) ∧ Means nodes group := by
  simp only [fits_iff_contribution, ← exists_forall₂_iff, compile_eq_ok_iff]
  refine and_congr_right fun _ => ?_
  constructor
  · rintro ⟨cs, found, rfl⟩
    exact ⟨⟨cs, found⟩, means_of_contributions found⟩
  · rintro ⟨⟨cs, found⟩, means⟩
    exact ⟨cs, found, (means_of_contributions found).unique means⟩

/-! ### Expressions that change places or come together -/

theorem Means.congr (means : Means nodes group)
    (same : ∀ field, written field nodes = written field nodes')
    (dates : (∃ node ∈ nodes, node.field? = some .dates) ↔
      ∃ node ∈ nodes', node.field? = some .dates) : Means nodes' group where
  pinned field pinned := means.pinned field (by simpa only [Pinned, same] using pinned)
  collected field notPinned exclude := by
    simp only [Pinned, Collects, ← same] at notPinned ⊢
    exact means.collected field notPinned exclude
  dates := means.dates.trans dates

/-- Nodes among which the same is written for every field make the same groups. -/
theorem compile_ok_congr (filled : nodes ≠ [] ↔ nodes' ≠ [])
    (fits : (∀ node ∈ nodes, node.Fits) ↔ ∀ node ∈ nodes', node.Fits)
    (same : ∀ field, written field nodes = written field nodes')
    (dates : (∃ node ∈ nodes, node.field? = some .dates) ↔
      ∃ node ∈ nodes', node.field? = some .dates) :
    compile anchor nodes = .ok group ↔ compile anchor nodes' = .ok group := by
  rw [compile_iff_means, compile_iff_means, filled, fits]
  have means : Means nodes group ↔ Means nodes' group :=
    ⟨fun means => means.congr same dates, fun means => means.congr (fun field => (same field).symm)
      dates.symm⟩
  rw [means]

/-- Expressions of different fields can be exchanged. -/
theorem compile_exchange {a b : Node} (different : a.field? ≠ b.field?) :
    compile anchor (before ++ a :: b :: after) = .ok group ↔
      compile anchor (before ++ b :: a :: after) = .ok group := by
  have exchanged : (before ++ a :: b :: after).Perm (before ++ b :: a :: after) :=
    (List.Perm.swap b a after).append_left before
  refine compile_ok_congr (by simp) (by simp only [exchanged.mem_iff]) (fun field => ?_)
    (by simp only [exchanged.mem_iff])
  -- one of the two has nothing for the field
  have either : a.literalsFor field = [] ∨ b.literalsFor field = [] := by
    by_cases own : a.field? = some field
    · exact .inr (literalsFor_of_other fun other => different (own.trans other.symm))
    · exact .inl (literalsFor_of_other own)
  simp only [written, List.flatMap_append, List.flatMap_cons]
  rcases either with none | none <;> rw [none, List.nil_append, List.nil_append]

theorem fits_expression_iff {arguments : List Node} (called : Field.ofName? name = some field) :
    (Node.expression name first arguments).Fits ↔ ∀ argument ∈ arguments, ∃ l range,
      argument = .literal l ∧ normalize field l = .ok range := by
  constructor
  · intro fits
    cases fits with
    | expression called' taken =>
      rw [called, Option.some.injEq] at called'
      exact called' ▸ taken
  · exact .expression called

theorem argumentsFor_of_given {arguments : List Node}
    (given : field = .dates ∨ arguments ≠ []) : argumentsFor field first arguments = arguments := by
  rw [argumentsFor, if_neg]
  rcases given with rfl | given <;> simp_all

variable {name' : String} {first' : Token} {arguments arguments' : List Node}

theorem literalsFor_append (called : Field.ofName? name = some field)
    (called' : Field.ofName? name' = some field)
    (given : field = .dates ∨ arguments ≠ [] ∧ arguments' ≠ []) (other : Field) :
    (Node.expression name first (arguments ++ arguments')).literalsFor other =
      (Node.expression name first arguments).literalsFor other ++
        (Node.expression name' first' arguments').literalsFor other := by
  by_cases same : field = other
  · subst same
    rw [literalsFor_of_called called, literalsFor_of_called called, literalsFor_of_called called',
      argumentsFor_of_given (given.imp_right And.left),
      argumentsFor_of_given (given.imp_right And.right),
      argumentsFor_of_given (given.imp_right fun filled => by simp [filled.1]),
      List.filterMap_append]
  · have none {name : String} {first : Token} {arguments : List Node}
        (called : Field.ofName? name = some field) :
        (Node.expression name first arguments).literalsFor other = [] :=
      literalsFor_of_other (by rwa [Node.field?, called, ne_eq, Option.some.injEq])
    rw [none called, none called, none called', List.nil_append]

/-- Expressions of one field can be joined, by whatever names they call it. -/
theorem compile_join (called : Field.ofName? name = some field)
    (called' : Field.ofName? name' = some field)
    (given : field = .dates ∨ arguments ≠ [] ∧ arguments' ≠ []) :
    compile anchor (before ++ .expression name first arguments ::
        .expression name' first' arguments' :: after) = .ok group ↔
      compile anchor (before ++ .expression name first (arguments ++ arguments') :: after) =
        .ok group := by
  refine compile_ok_congr (by simp) ?_ (fun other => ?_) ?_
  · simp only [List.forall_mem_append, List.forall_mem_cons, fits_expression_iff called,
      fits_expression_iff called', and_assoc]
  · have joined : (Node.expression name first (arguments ++ arguments')).literalsFor other = _ ++
        (Node.expression name' first' arguments').literalsFor other :=
      literalsFor_append called called' given other
    simp only [written, List.flatMap_append, List.flatMap_cons, joined, List.append_assoc]
  · simp only [List.mem_append, List.mem_cons, or_and_right, exists_or, exists_eq_left,
      Node.field?, called, called', or_self_left]

/-- The arguments of an expression leave it to its field whether a group speaks of dates. -/
theorem hasDates_of_addArguments
    (success : arguments.foldlM (addArgument field name) group = .ok group') :
    group'.hasDates = group.hasDates := by
  have adding : addArgument field name = fun group node =>
      (entryOf field name node).map group.insert :=
    funext fun group => funext (addArgument_eq field name group)
  rw [adding, foldlM_map_eq] at success
  obtain ⟨entries, _, rfl⟩ := map_eq_ok_iff.mp success
  exact hasDates_foldl_insert entries group

/-- What two expressions of one name add is what one with the arguments of both does, whether it can
be added or not. -/
theorem addExpression_join
    (given : Field.ofName? name = some .dates ∨ arguments ≠ [] ∧ arguments' ≠ []) :
    (addExpression group (.expression name first arguments) >>= fun group' =>
        addExpression group' (.expression name first' arguments')) =
      addExpression group (.expression name first (arguments ++ arguments')) := by
  by_cases opens : isGroupName name = true
  · simp only [addExpression, if_pos opens]
    rfl
  · cases called : Field.ofName? name with
    | none =>
      simp only [addExpression, if_neg opens, called]
      rfl
    | some field =>
      rw [called, Option.some.injEq] at given
      simp only [addExpression, if_neg opens, called, List.foldlM_append,
        argumentsFor_of_given (given.imp_right And.left),
        argumentsFor_of_given (given.imp_right And.right),
        argumentsFor_of_given (given.imp_right fun filled =>
          List.append_ne_nil_of_left_ne_nil filled.1 _)]
      cases added : arguments.foldlM (addArgument field name)
          { group with hasDates := group.hasDates || field == .dates } with
      | error => rfl
      | ok group' =>
        -- the second expression does not change whether the group speaks of dates
        have kept : group'.hasDates = (group.hasDates || field == .dates) :=
          hasDates_of_addArguments added
        have idle : (group'.hasDates || field == .dates) = group'.hasDates := by
          rw [kept, Bool.or_assoc, Bool.or_self]
        have same : { group' with hasDates := group'.hasDates || field == .dates } = group' := by
          rw [idle]
        exact congrArg (arguments'.foldlM (addArgument field name)) same

/-- The expressions of a group that have one name can be joined. -/
theorem compile_join_eq
    (given : Field.ofName? name = some .dates ∨ arguments ≠ [] ∧ arguments' ≠ []) :
    compile anchor (before ++ .expression name first arguments ::
        .expression name first' arguments' :: after) =
      compile anchor (before ++ .expression name first (arguments ++ arguments') :: after) := by
  have filled (node : Node) (nodes : List Node) : (before ++ node :: nodes).isEmpty = false := by
    simp
  simp only [compile_eq, filled, Bool.false_eq_true, if_false, List.foldlM_append, List.foldlM_cons]
  congr 2
  funext group
  rw [← bind_assoc, addExpression_join given]

/-- What a group is compiled to. It is compiled if there are expressions and each of them fits; it
then is what they say. So expressions of different fields can be exchanged; and those of one field
can be joined, with the same mistake in them if they have one name. -/
theorem compile_means (anchor : Token) :
    (∀ nodes, (∃ group, compile anchor nodes = .ok group) ↔
      nodes ≠ [] ∧ ∀ node ∈ nodes, node.Fits) ∧
    (∀ nodes group, compile anchor nodes = .ok group ↔
      nodes ≠ [] ∧ (∀ node ∈ nodes, node.Fits) ∧ Means nodes group) ∧
    (∀ before a b after, a.field? ≠ b.field? → ∀ group,
      compile anchor (before ++ a :: b :: after) = .ok group ↔
        compile anchor (before ++ b :: a :: after) = .ok group) ∧
    ∀ before name first arguments name' first' arguments' after field,
      Field.ofName? name = some field → Field.ofName? name' = some field →
      field = .dates ∨ arguments ≠ [] ∧ arguments' ≠ [] →
      let apart := compile anchor (before ++ .expression name first arguments ::
        .expression name' first' arguments' :: after)
      let joined := compile anchor
        (before ++ .expression name first (arguments ++ arguments') :: after)
      (∀ group, apart = .ok group ↔ joined = .ok group) ∧ (name = name' → apart = joined) := by
  refine ⟨fun nodes => ?_, fun _ _ => compile_iff_means,
    fun _ _ _ _ different _ => compile_exchange different, ?_⟩
  · simp only [exists_compile_iff, fits_iff_contribution]
  · intro before name first arguments name' first' arguments' after field called called' given
    refine ⟨fun _ => compile_join called called' given, ?_⟩
    rintro rfl
    refine compile_join_eq (given.imp_left ?_)
    rintro rfl
    exact called

/-- Ten o'clock on Tuesdays, and not at noon: the hours may stand around the day or come together,
and the minutes and seconds are pinned. -/
theorem compile_means_ten_on_tuesdays :
    let hour (l : Literal) : Node := .expression "hour" ⟨0, "hour"⟩ [.literal l]
    let ten : Literal := ⟨.number 10, ⟨5, "10"⟩, false, none⟩
    let noon : Literal := ⟨.number 12, ⟨21, "!"⟩, true, none⟩
    let tuesday : Node :=
      .expression "day" ⟨9, "day"⟩ [.literal ⟨.days 2 2, ⟨13, "tue"⟩, false, none⟩]
    let group : RuleGroup :=
      { includes := { seconds := some [.single 0], minutes := some [.single 0],
                      hours := some [.single 10], daysOfWeek := some [.single 1],
                      daysOfMonth := none, dates := none },
        excludes := { seconds := none, minutes := none, hours := some [.single 12],
                      daysOfWeek := none, daysOfMonth := none, dates := none } }
    compile ⟨0, ""⟩ [hour ten, tuesday, hour noon] = .ok group ∧
      Means [hour ten, tuesday, hour noon] group ∧
      compile ⟨0, ""⟩ [tuesday, .expression "hour" ⟨0, "hour"⟩ [.literal ten, .literal noon]] =
        .ok group := by
  intro hour ten noon tuesday group
  have success : compile ⟨0, ""⟩ [hour ten, tuesday, hour noon] = .ok group := by decide +kernel
  have hours : Field.ofName? "hour" = some .hours := by decide +kernel
  have days : Field.ofName? "day" = some .daysOfWeek := by decide +kernel
  have different : (hour ten).field? ≠ tuesday.field? := by
    simp only [hour, tuesday, Node.field?, hours, days]
    decide
  obtain ⟨_, means, exchange, join⟩ := compile_means ⟨0, ""⟩
  have exchanged := (exchange [] _ _ [hour noon] different group).mp success
  have joined := (join [tuesday] "hour" ⟨0, "hour"⟩ [.literal ten] "hour" ⟨0, "hour"⟩
    [.literal noon] [] .hours hours hours (.inr ⟨by simp, by simp⟩)).2 rfl
  exact ⟨success, ((means _ _).mp success).2.2, joined ▸ exchanged⟩

end RuleGroup

end Schedule
