import Schedule.Proofs.RuleGroup.Relabel

/-! # The groups of a document

A document compiles to one group for each of its expressions named `group` and, if it has others, to
one more that these make together. Each of these parts is said without the order in which the
document is gone through: which groups come from which expressions, in which order.
-/

namespace Schedule

/-- The expressions that open no group. -/
def ungrouped (es : List Expression) : List Expression :=
  es.filter fun e => !e.isGroup

/-- The groups that some expressions make, each from its own arguments, in order. -/
def MakeGroups (es : List Expression) (groups : List RuleGroup) : Prop :=
  List.Forall₂ (fun e group => RuleGroup.compile e.first e.arguments = .ok group) es groups

/-- The one group that some expressions make together, whichever token would be blamed for the lack
of any; none if there are no expressions. -/
inductive MakeGroup (es : List Expression) : List RuleGroup → Prop where
  | none (empty : es = []) : MakeGroup es []
  | one {group : RuleGroup} (filled : es ≠ []) (made : ∀ anchor,
      RuleGroup.compile anchor (es.map Expression.toNode) = .ok group) : MakeGroup es [group]

/-- What some expressions contribute, one by one. -/
def Contribute (es : List Expression) (cs : List RuleGroup.Contribution) : Prop :=
  List.Forall₂ (fun e c => RuleGroup.contribution e.toNode = .ok c) es cs

variable {es es' : List Expression} {groups groups' : List RuleGroup} {group : RuleGroup}
variable {cs cs' : List RuleGroup.Contribution} {e : Expression}

theorem ungrouped_append (es es' : List Expression) :
    ungrouped (es ++ es') = ungrouped es ++ ungrouped es' :=
  List.filter_append ..

theorem MakeGroups.append (made : MakeGroups es groups) (made' : MakeGroups es' groups') :
    MakeGroups (es ++ es') (groups ++ groups') :=
  List.rel_append made made'

/-- The same expressions make the same groups. -/
theorem MakeGroups.unique (made : MakeGroups es groups) (made' : MakeGroups es groups') :
    groups = groups' :=
  List.right_unique_forall₂' (fun _ _ _ same same' => Except.ok.inj (same.symm.trans same'))
    made made'

theorem Contribute.append (contribute : Contribute es cs) (contribute' : Contribute es' cs') :
    Contribute (es ++ es') (cs ++ cs') :=
  List.rel_append contribute contribute'

/-! ### The group of expressions that open none -/

theorem compile_toNode_iff {anchor : Token} :
    RuleGroup.compile anchor (es.map Expression.toNode) = .ok group ↔
      es ≠ [] ∧ ∃ cs, Contribute es cs ∧
        (cs.foldl RuleGroup.absorb .empty).pin Field.times = group := by
  rw [RuleGroup.compile_eq_ok_iff, ne_eq, List.map_eq_nil_iff]
  simp only [List.forall₂_map_left_iff, Contribute]

theorem MakeGroup.exists_contribute (made : MakeGroup es groups) : ∃ cs, Contribute es cs := by
  cases made with
  | none empty => exact ⟨[], empty ▸ .nil⟩
  | one _ made =>
    obtain ⟨_, cs, contribute, _⟩ := compile_toNode_iff.mp (made default)
    exact ⟨cs, contribute⟩

theorem MakeGroups.eq_nil_iff (made : MakeGroups es groups) : groups = [] ↔ es = [] := by
  rw [← List.length_eq_zero_iff, ← List.length_eq_zero_iff, List.Forall₂.length_eq made]

theorem MakeGroup.eq_nil_iff (made : MakeGroup es groups) : groups = [] ↔ es = [] := by
  cases made with
  | none empty => simp [empty]
  | one filled _ => simp [filled]

/-- Expressions make a group if each of them has something to contribute; others that contribute the
same make the same group. -/
theorem exists_makeGroup (contribute : Contribute es cs) :
    ∃ groups, ∀ es', Contribute es' cs → MakeGroup es' groups := by
  cases contribute with
  | nil => exact ⟨[], fun es' same => .none (List.forall₂_nil_right_iff.mp same)⟩
  | @cons _ c _ cs _ _ =>
    refine ⟨[((c :: cs).foldl RuleGroup.absorb .empty).pin Field.times], fun es' same => ?_⟩
    have filled : es' ≠ [] := by
      rintro rfl
      cases same
    exact .one filled fun anchor => compile_toNode_iff.mpr ⟨filled, c :: cs, same, rfl⟩

/-! ### Compiled documents -/

/-- The expressions that open no group leave the others as they are. -/
theorem explicitGroups_toNode (es : List Expression) :
    explicitGroups (es.map Expression.toNode) =
      (es.filter Expression.isGroup).mapM fun e => RuleGroup.compile e.first e.arguments := by
  induction es with
  | nil => rfl
  | cons e es ih =>
    rw [List.map_cons, Expression.toNode, explicitGroups, ih]
    split
    · next isGroup =>
      have opens : e.isGroup = true := isGroup
      rw [List.filter_cons_of_pos opens, List.mapM_cons]
      rfl
    · next notGroup =>
      have opens : ¬ e.isGroup = true := notGroup
      rw [List.filter_cons_of_neg opens]

theorem explicitGroups_toNode_iff (es : List Expression) (groups : List RuleGroup) :
    explicitGroups (es.map Expression.toNode) = .ok groups ↔
      MakeGroups (es.filter Expression.isGroup) groups := by
  rw [explicitGroups_toNode, mapM_eq_ok_iff, MakeGroups]

theorem filter_isRule_toNode (es : List Expression) :
    (es.map Expression.toNode).filter Node.isRule = (ungrouped es).map Expression.toNode := by
  rw [List.filter_map]
  rfl

theorem implicitGroup_toNode_iff (es : List Expression) (groups : List RuleGroup) :
    implicitGroup (es.map Expression.toNode) = .ok groups ↔ MakeGroup (ungrouped es) groups := by
  unfold implicitGroup
  rw [filter_isRule_toNode]
  cases rules : ungrouped es with
  | nil =>
    rw [List.map_nil, Except.ok.injEq]
    constructor
    · rintro rfl
      exact .none rfl
    · intro made
      cases made with
      | none => rfl
      | one filled _ => contradiction
  | cons rule rules =>
    rw [List.map_cons]
    dsimp only
    rw [map_eq_ok_iff]
    constructor
    · rintro ⟨group, made, rfl⟩
      rw [← List.map_cons, compile_toNode_iff] at made
      exact .one made.1 fun anchor => compile_toNode_iff.mpr made
    · intro made
      cases made with
      | none empty => contradiction
      | one _ made => exact ⟨_, made _, rfl⟩

/-- A document compiles to the groups of its expressions named `group`, followed by the one that the
others make together; it has to have either. -/
theorem compileNodes_toNode_iff (es : List Expression) (groups : List RuleGroup) :
    compileNodes (es.map Expression.toNode) = .ok groups ↔
      groups ≠ [] ∧ ∃ explicit implicit, MakeGroups (es.filter Expression.isGroup) explicit ∧
        MakeGroup (ungrouped es) implicit ∧ explicit ++ implicit = groups := by
  simp only [compileNodes_eq, bind_eq_ok_iff, explicitGroups_toNode_iff, implicitGroup_toNode_iff]
  constructor
  · rintro ⟨explicit, made, implicit, joined, success⟩
    split at success
    · simp [mistake] at success
    · next filled =>
      cases success
      refine ⟨?_, explicit, implicit, made, joined, rfl⟩
      rw [ne_eq, List.append_eq_nil_iff]
      simpa using filled
  · rintro ⟨filled, explicit, implicit, made, joined, rfl⟩
    refine ⟨explicit, made, implicit, joined, if_neg ?_⟩
    rw [ne_eq, List.append_eq_nil_iff] at filled
    simpa using filled

/-! ### Documents whose tokens are moved -/

theorem isGroup_relabel (f : Relabelling) (e : Expression) :
    (e.relabel f).isGroup = e.isGroup :=
  isGroupName_congr (lower_name f e.first.index e.name)

theorem filter_isGroup_relabel (f : Relabelling) (es : List Expression) :
    (es.map (Expression.relabel f)).filter Expression.isGroup =
      (es.filter Expression.isGroup).map (Expression.relabel f) := by
  rw [List.filter_map]
  congr 2
  exact funext (isGroup_relabel f)

theorem ungrouped_relabel (f : Relabelling) (es : List Expression) :
    ungrouped (es.map (Expression.relabel f)) =
      (ungrouped es).map (Expression.relabel f) := by
  unfold ungrouped
  rw [List.filter_map]
  congr 2
  exact funext fun e => congrArg (!·) (isGroup_relabel f e)

theorem MakeGroups.relabel (f : Relabelling) (made : MakeGroups es groups) :
    MakeGroups (es.map (Expression.relabel f)) groups := by
  rw [MakeGroups, List.forall₂_map_left_iff]
  refine List.Forall₂.imp (fun e group compiled => ?_) made
  have agree := RuleGroup.compile_relabel f e.first e.arguments
  rw [Expression.relabel, Node.relabelAll_eq]
  exact (agree.ok_iff group).mp compiled

theorem Contribute.relabel (f : Relabelling) (contribute : Contribute es cs) :
    Contribute (es.map (Expression.relabel f)) cs := by
  rw [Contribute, List.forall₂_map_left_iff]
  refine List.Forall₂.imp (fun e c contributes => ?_) contribute
  exact ((RuleGroup.contribution_relabel f e.toNode).ok_iff c).mp contributes

/-! ### Documents one after the other -/

/-- Documents that compile also do one after the other, wherever the tokens of the second are moved:
the groups of both come first, then the one that all other expressions make together. -/
theorem compileNodes_append (f : Relabelling)
    (success : compileNodes (es.map Expression.toNode) = .ok groups)
    (success' : compileNodes (es'.map Expression.toNode) = .ok groups') :
    ∃ explicit explicit' implicit,
      MakeGroups (es.filter Expression.isGroup) explicit ∧
      MakeGroups (es'.filter Expression.isGroup) explicit' ∧
      MakeGroup (ungrouped es ++ ungrouped es') implicit ∧
      compileNodes ((es ++ es'.map (Expression.relabel f)).map Expression.toNode) =
        .ok (explicit ++ explicit' ++ implicit) := by
  obtain ⟨filled, explicit, implicit, made, joined, rfl⟩ := (compileNodes_toNode_iff ..).mp success
  obtain ⟨_, explicit', implicit', made', joined', rfl⟩ := (compileNodes_toNode_iff ..).mp success'
  obtain ⟨cs, contribute⟩ := joined.exists_contribute
  obtain ⟨cs', contribute'⟩ := joined'.exists_contribute
  obtain ⟨together, makes⟩ := exists_makeGroup (contribute.append contribute')
  refine ⟨explicit, explicit', together, made, made', makes _ (contribute.append contribute'), ?_⟩
  -- moving the tokens of the second document changes neither its groups nor what it contributes
  have explicits := made.append (made'.relabel f)
  rw [← filter_isGroup_relabel, ← List.filter_append] at explicits
  have others := makes _ (contribute.append (contribute'.relabel f))
  rw [← ungrouped_relabel, ← ungrouped_append] at others
  refine (compileNodes_toNode_iff ..).mpr ⟨?_, _, _, explicits, others, rfl⟩
  intro none
  simp only [List.append_eq_nil_iff, others.eq_nil_iff, ungrouped_append] at none
  obtain ⟨⟨rfl, _⟩, empty, _⟩ := none
  exact filled (by rw [joined.eq_nil_iff.mpr empty, List.nil_append])

/-- A document of groups alone compiles to these. -/
theorem makeGroups_of_compileNodes (success : compileNodes (es.map Expression.toNode) = .ok groups)
    (grouped : ∀ e ∈ es, e.isGroup = true) : MakeGroups (es.filter Expression.isGroup) groups := by
  obtain ⟨_, explicit, implicit, made, joined, rfl⟩ := (compileNodes_toNode_iff ..).mp success
  have none : ungrouped es = [] := List.filter_eq_nil_iff.mpr (by simpa using grouped)
  rwa [joined.eq_nil_iff.mpr none, List.append_nil]

end Schedule
