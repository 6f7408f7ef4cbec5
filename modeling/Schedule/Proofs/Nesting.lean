import Schedule.Proofs.Compilation
import Schedule.Proofs.Reading.Depth
import Schedule.Proofs.RuleGroup.Document

/-! # What a configuration can change

A configuration bounds how deep expressions may nest, and nothing else that it says reaches the
compilation: the window and the level of the log matter only when something is shown. The bound does
not matter either once it is two. What compiles is nested at most twice, because a field takes no
expressions and a group no groups; and what is nested twice is nested in a group.
-/

namespace Schedule

variable {node : Node} {nodes : List Node} {group : RuleGroup} {groups : List RuleGroup}
variable {config config' : Config} {text : String} {field : Field} {name : String}

/-! ### How deep the nodes of a compiled tree are -/

theorem Node.depthAll_le_iff (nodes : List Node) (bound : Nat) :
    depthAll nodes ≤ bound ↔ ∀ node ∈ nodes, node.depth ≤ bound := by
  induction nodes with
  | nil => simp [depthAll]
  | cons node nodes ih => rw [depthAll, Nat.max_le, ih, List.forall_mem_cons]

namespace RuleGroup

theorem depth_of_entryOf {e : Entry} (success : entryOf field name node = .ok e) :
    node.depth = 0 := by
  obtain ⟨l, rfl, _⟩ := entryOf_eq_ok_iff.mp success
  rfl

/-- An expression of a field has literals for arguments and no expressions. -/
theorem depth_of_contribution {c : Contribution} (success : contribution node = .ok c) :
    node.depth = 1 := by
  obtain ⟨name, first, arguments, field, rfl, _, _, found, _⟩ := contribution_eq_ok_iff.mp success
  have flat : Node.depthAll arguments ≤ 0 := by
    rw [Node.depthAll_le_iff]
    intro argument member
    have listed : argument ∈ argumentsFor field first arguments := by
      have filled : arguments.isEmpty = false := by
        rw [List.isEmpty_eq_false_iff]
        exact List.ne_nil_of_mem member
      rwa [argumentsFor, filled]
    obtain ⟨e, _, entry⟩ := exists_of_mem_left found listed
    exact Nat.le_of_eq (depth_of_entryOf entry)
  rw [Node.depth, Nat.le_zero.mp flat]

theorem depth_of_compile {anchor : Token} (success : compile anchor nodes = .ok group)
    (member : node ∈ nodes) : node.depth = 1 := by
  obtain ⟨_, cs, found, _⟩ := compile_eq_ok_iff.mp success
  obtain ⟨c, _, contributed⟩ := exists_of_mem_left found member
  exact depth_of_contribution contributed

/-- An expression whose arguments make a group is nested twice. -/
theorem depth_of_compile_arguments {first : Token}
    (success : compile first nodes = .ok group) :
    (Node.expression name first nodes).depth = 2 := by
  have upper : Node.depthAll nodes ≤ 1 := by
    rw [Node.depthAll_le_iff]
    exact fun node member => Nat.le_of_eq (depth_of_compile success member)
  obtain ⟨filled, _⟩ := compile_eq_ok_iff.mp success
  obtain ⟨node, member⟩ := List.exists_mem_of_ne_nil _ filled
  have lower := (Node.depthAll_le_iff nodes _).mp (Nat.le_refl _) node member
  rw [depth_of_compile success member] at lower
  rw [Node.depth]
  omega

end RuleGroup

/-- In a document that compiles, groups are nested twice and all else is nested once. -/
theorem depth_of_compileNodes {document : List Expression}
    (success : compileNodes (document.map Expression.toNode) = .ok groups) {e : Expression}
    (member : e ∈ document) : e.toNode.depth = if e.isGroup then 2 else 1 := by
  obtain ⟨_, explicit, implicit, made, joined, _⟩ := (compileNodes_toNode_iff ..).mp success
  cases isGroup : e.isGroup with
  | true =>
    have listed : e ∈ document.filter Expression.isGroup := List.mem_filter.mpr ⟨member, isGroup⟩
    obtain ⟨group, _, compiled⟩ := exists_of_mem_left made listed
    exact RuleGroup.depth_of_compile_arguments compiled
  | false =>
    have listed : e ∈ ungrouped document := List.mem_filter.mpr ⟨member, by simp [isGroup]⟩
    obtain ⟨cs, contribute⟩ := joined.exists_contribute
    obtain ⟨c, _, contributes⟩ := exists_of_mem_left contribute listed
    exact RuleGroup.depth_of_contribution contributes

/-! ### Compiling under two configurations -/

/-- Some bound on the nesting lets the text be read as a document with a top-level expression that
opens a group. -/
def HasGroup (text : String) : Prop :=
  ∃ maxDepth document, Reading.document maxDepth (tokenize text) = .ok document ∧
    ∃ e ∈ document, e.isGroup = true

/-- What compiles under one configuration compiles under every other whose bound it keeps to. -/
theorem compile_of_depth_le (success : compile config text = .ok groups)
    (deep : 2 ≤ config'.maxDepth ∨ 1 ≤ config'.maxDepth ∧ ¬ HasGroup text) :
    compile config' text = .ok groups := by
  obtain ⟨document, read, compiled⟩ := compile_eq_ok_iff.mp success
  refine compile_eq_ok_iff.mpr ⟨document, Grammar.document_of_depth_le read fun e member => ?_,
    compiled⟩
  rw [depth_of_compileNodes compiled member]
  split
  · next isGroup =>
    rcases deep with twice | ⟨_, without⟩
    · exact twice
    · exact absurd ⟨config.maxDepth, document, read, e, member, isGroup⟩ without
  · rw [Int.natCast_one]
    omega

/-- A group is nested twice, so nothing that compiles when nesting is forbidden has one. -/
theorem not_hasGroup_of_compile (success : compile config text = .ok groups)
    (flat : config.maxDepth ≤ 1) : ¬ HasGroup text := by
  rintro ⟨maxDepth, document, read, e, member, isGroup⟩
  obtain ⟨document', read', compiled⟩ := compile_eq_ok_iff.mp success
  rw [Grammar.document_unique read read'] at member
  have deep := Grammar.depth_le_of_document read' e member
  rw [depth_of_compileNodes compiled member, if_pos isGroup] at deep
  omega

/-- Two configurations with the same bound on the nesting give the same outcome, and a mistake is
reported at the same place with the same message. Any two bounds of at least two let the same texts
compile, to the same groups. Under the bound one the same texts compile as under the bound two, but
for those with a group. -/
theorem compile_config_independent (config config' : Config) (text : String) :
    (config.maxDepth = config'.maxDepth →
      compile config text = compile config' text ∧
      ∀ m, compile config text = .error (.mistake m) →
        (m.report text config.window).message = (m.report text config'.window).message ∧
        (m.report text config.window).token = (m.report text config'.window).token ∧
        (m.report text config.window).position = (m.report text config'.window).position) ∧
    (2 ≤ config.maxDepth → 2 ≤ config'.maxDepth → ∀ groups,
      compile config text = .ok groups ↔ compile config' text = .ok groups) ∧
    (config.maxDepth = 1 → config'.maxDepth = 2 → ∀ groups,
      compile config text = .ok groups ↔
        compile config' text = .ok groups ∧ ¬ HasGroup text) := by
  refine ⟨fun same => ⟨by rw [compile, compile, same], fun m _ => ⟨rfl, rfl, rfl⟩⟩, ?_, ?_⟩
  · intro twice twice' groups
    exact ⟨fun success => compile_of_depth_le success (.inl twice'),
      fun success => compile_of_depth_le success (.inl twice)⟩
  · intro once twice groups
    constructor
    · intro success
      exact ⟨compile_of_depth_le success (.inl (Int.le_of_eq twice.symm)),
        not_hasGroup_of_compile success (Int.le_of_eq once)⟩
    · rintro ⟨success, without⟩
      exact compile_of_depth_le success (.inr ⟨Int.le_of_eq once.symm, without⟩)

/-- A group compiles under any bounds of two and more, an hour also under the bound one, and an hour
too late is the same mistake in every window. -/
theorem compile_config_independent_hour :
    let narrow : Config := { maxDepth := 2, contextBefore := 0, contextAfter := 0 }
    let wide : Config := { narrow with contextBefore := 7, logLevel := "debug" }
    let deep : Config := { maxDepth := 256 }
    let flat : Config := { maxDepth := 1 }
    let nine : RuleGroup :=
      { includes := { seconds := some [.single 0], minutes := some [.single 0],
                      hours := some [.single 9], daysOfWeek := none, daysOfMonth := none,
                      dates := none } }
    let late : Mistake := ⟨.aboveGreatest .hours, ⟨5, "24"⟩⟩
    (compile narrow "hour(24)" = .error (.mistake late) ∧
      compile narrow "hour(24)" = compile wide "hour(24)" ∧
      (late.report "hour(24)" narrow.window).position =
        (late.report "hour(24)" wide.window).position) ∧
    (compile narrow "group(hour(9))" = .ok [nine] ∧ compile deep "group(hour(9))" = .ok [nine]) ∧
    (compile flat "hour(9)" = .ok [nine] ∧ compile narrow "hour(9)" = .ok [nine] ∧
      ¬ HasGroup "hour(9)") := by
  intro narrow wide deep flat nine late
  have failed : compile narrow "hour(24)" = .error (.mistake late) := by decide +kernel
  have grouped : compile narrow "group(hour(9))" = .ok [nine] := by decide +kernel
  have alone : compile flat "hour(9)" = .ok [nine] := by decide +kernel
  obtain ⟨same, placed⟩ := (compile_config_independent narrow wide "hour(24)").1 rfl
  have nested := (compile_config_independent narrow deep "group(hour(9))").2.1
    (by decide) (by decide) [nine]
  have ungrouped := (compile_config_independent flat narrow "hour(9)").2.2 rfl rfl [nine]
  exact ⟨⟨failed, same, (placed late failed).2.2⟩, ⟨grouped, nested.mp grouped⟩,
    alone, ungrouped.mp alone⟩

end Schedule
