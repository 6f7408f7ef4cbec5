import Schedule.Proofs.RuleGroup.Document

/-! # Groups and other expressions in any interleaving

The expressions of a document that open groups and those that open none can stand in any order to
each other. What a document compiles to depends on the order among the ones and among the others
alone, and so does what is wrong with it: the first group that cannot be made is blamed, wherever it
stands, and the other expressions only if there is no such group.
-/

namespace Schedule

/-- The first of some expressions that cannot make a group from their arguments has the mistake. -/
def FirstMistake (es : List Expression) (m : Mistake) : Prop :=
  ∃ before e after, es = before ++ e :: after ∧
    (∀ d ∈ before, ∃ group, RuleGroup.compile d.first d.arguments = .ok group) ∧
    RuleGroup.compile e.first e.arguments = .error m

/-- There are expressions, but they cannot make one group together, which is the mistake whichever
token would be blamed for the lack of any. -/
def JointMistake (es : List Expression) (m : Mistake) : Prop :=
  es ≠ [] ∧ ∀ anchor, RuleGroup.compile anchor (es.map Expression.toNode) = .error m

variable {es es' : List Expression} {groups : List RuleGroup} {m : Mistake}

theorem explicitGroups_eq_error_iff :
    explicitGroups (es.map Expression.toNode) = .error m ↔
      FirstMistake (es.filter Expression.isGroup) m := by
  rw [explicitGroups_toNode, mapM_eq_error_iff, FirstMistake]

/-- Where there are expressions, it does not matter what would be blamed for the lack of them. -/
theorem compile_anchor_congr {nodes : List Node} (filled : nodes ≠ []) (anchor anchor' : Token) :
    RuleGroup.compile anchor nodes = RuleGroup.compile anchor' nodes := by
  rw [RuleGroup.compile_eq, RuleGroup.compile_eq, if_neg (by simpa using filled),
    if_neg (by simpa using filled)]

theorem implicitGroup_eq_error_iff :
    implicitGroup (es.map Expression.toNode) = .error m ↔ JointMistake (ungrouped es) m := by
  unfold implicitGroup JointMistake
  rw [filter_isRule_toNode]
  cases ungrouped es with
  | nil => simp
  | cons rule rules =>
    rw [List.map_cons]
    dsimp only
    rw [map_eq_error_iff]
    have filled : rule.toNode :: rules.map Expression.toNode ≠ [] := List.cons_ne_nil _ _
    constructor
    · intro failed
      exact ⟨List.cons_ne_nil _ _,
        fun anchor => (compile_anchor_congr filled anchor _).trans failed⟩
    · rintro ⟨_, failed⟩
      exact failed _

/-- A document without groups and without other expressions has no expressions. -/
theorem eq_nil_iff_parts :
    es = [] ↔ es.filter Expression.isGroup = [] ∧ ungrouped es = [] := by
  constructor
  · rintro rfl
    exact ⟨rfl, rfl⟩
  · rintro ⟨noGroups, noOthers⟩
    rw [ungrouped, List.filter_eq_nil_iff] at noOthers
    rw [List.filter_eq_nil_iff] at noGroups
    refine List.eq_nil_iff_forall_not_mem.mpr fun e member => noOthers e member ?_
    simpa using noGroups e member

theorem compileNodes_eq_ok_iff :
    compileNodes (es.map Expression.toNode) = .ok groups ↔
      es ≠ [] ∧ ∃ explicit implicit, MakeGroups (es.filter Expression.isGroup) explicit ∧
        MakeGroup (ungrouped es) implicit ∧ explicit ++ implicit = groups := by
  rw [compileNodes_toNode_iff, and_congr_left]
  rintro ⟨explicit, implicit, made, joined, rfl⟩
  rw [ne_eq, List.append_eq_nil_iff, made.eq_nil_iff, joined.eq_nil_iff, ← eq_nil_iff_parts]

theorem compileNodes_eq_error_iff :
    compileNodes (es.map Expression.toNode) = .error m ↔
      (es = [] ∧ m = ⟨.noRules, ⟨0, ""⟩⟩) ∨
      FirstMistake (es.filter Expression.isGroup) m ∨
      (∃ explicit, MakeGroups (es.filter Expression.isGroup) explicit) ∧
        JointMistake (ungrouped es) m := by
  simp only [compileNodes_eq, bind_eq_error_iff, explicitGroups_eq_error_iff,
    implicitGroup_eq_error_iff, explicitGroups_toNode_iff, implicitGroup_toNode_iff]
  constructor
  · rintro (first | ⟨explicit, made, joint | ⟨implicit, joined, none⟩⟩)
    · exact .inr (.inl first)
    · exact .inr (.inr ⟨⟨explicit, made⟩, joint⟩)
    · split at none
      · next empty =>
        simp only [Bool.and_eq_true, List.isEmpty_iff, made.eq_nil_iff, joined.eq_nil_iff,
          ← eq_nil_iff_parts] at empty
        exact .inl ⟨empty, (Except.error.inj none).symm⟩
      · contradiction
  · rintro (⟨rfl, rfl⟩ | first | ⟨⟨explicit, made⟩, joint⟩)
    · exact .inr ⟨[], .nil, .inr ⟨[], .none rfl, rfl⟩⟩
    · exact .inl first
    · exact .inr ⟨explicit, made, .inl joint⟩

/-- A document is compiled part by part. -/
theorem compileNodes_congr
    (sameGroups : es.filter Expression.isGroup = es'.filter Expression.isGroup)
    (sameOthers : ungrouped es = ungrouped es') :
    compileNodes (es.map Expression.toNode) = compileNodes (es'.map Expression.toNode) := by
  simp only [compileNodes_eq, explicitGroups_toNode, implicitGroup, filter_isRule_toNode,
    sameGroups, sameOthers]

/-- A document compiles to the groups of its expressions named `group`, followed by one more that
the other expressions make together, if there are any. It fails if it is empty, or else with the
mistake of the first group that cannot be made, or else with that of the other expressions. So it
does not matter how the groups and the other expressions are interleaved. -/
theorem compileNodes_interleaved (es : List Expression) :
    (∀ groups, compileNodes (es.map Expression.toNode) = .ok groups ↔
      es ≠ [] ∧ ∃ explicit implicit, MakeGroups (es.filter Expression.isGroup) explicit ∧
        MakeGroup (ungrouped es) implicit ∧ explicit ++ implicit = groups) ∧
    (∀ m, compileNodes (es.map Expression.toNode) = .error m ↔
      (es = [] ∧ m = ⟨.noRules, ⟨0, ""⟩⟩) ∨
      FirstMistake (es.filter Expression.isGroup) m ∨
      (∃ explicit, MakeGroups (es.filter Expression.isGroup) explicit) ∧
        JointMistake (ungrouped es) m) ∧
    ∀ es', es.filter Expression.isGroup = es'.filter Expression.isGroup →
      ungrouped es = ungrouped es' →
      compileNodes (es.map Expression.toNode) = compileNodes (es'.map Expression.toNode) :=
  ⟨fun _ => compileNodes_eq_ok_iff, fun _ => compileNodes_eq_error_iff,
    fun _ => compileNodes_congr⟩

/-- A group whose minute is out of bounds is blamed, although an expression of no field stands
before it; and so it is the other way round. -/
theorem compileNodes_interleaved_late_minute :
    let late : Literal := ⟨.number 99, ⟨18, "99"⟩, false, none⟩
    let unknown : Expression := ⟨"year", ⟨0, "year"⟩, []⟩
    let group : Expression := ⟨"group", ⟨8, "group"⟩,
      [.expression "min" ⟨14, "min"⟩ [.literal late]]⟩
    compileNodes ([unknown, group].map Expression.toNode) =
        .error ⟨.aboveGreatest .minutes, ⟨18, "99"⟩⟩ ∧
      compileNodes ([group, unknown].map Expression.toNode) =
        .error ⟨.aboveGreatest .minutes, ⟨18, "99"⟩⟩ := by
  intro late unknown group
  have failed : compileNodes ([unknown, group].map Expression.toNode) =
      .error ⟨.aboveGreatest .minutes, ⟨18, "99"⟩⟩ := by decide +kernel
  have opens : group.isGroup = true := by decide +kernel
  have opensNone : unknown.isGroup = false := by decide +kernel
  have same := (compileNodes_interleaved [unknown, group]).2.2 [group, unknown]
    (by simp [opens, opensNone]) (by simp [ungrouped, opens, opensNone])
  exact ⟨failed, same ▸ failed⟩

end Schedule
