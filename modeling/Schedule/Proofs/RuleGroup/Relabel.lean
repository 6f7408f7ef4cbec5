import Schedule.Proofs.Reading.Relabel
import Schedule.Proofs.RuleGroup.Entries

/-! # Compiling does not depend on place or letter case

If the tokens of a tree are moved to other places and the case of their letters is changed, the tree
compiles to the same groups, or the same is wrong with it at the moved token. Only the name of an
expression that is quoted in a message keeps its own letter case.
-/

namespace Schedule

/-- The faults differ at most in the letter case of the expression that they name. -/
def Fault.Alike (a b : Fault) : Prop :=
  a = b ∨ ∃ name name', lower name = lower name' ∧
    (a = .unknownExpression name ∧ b = .unknownExpression name' ∨
      a = .nestedExpression name ∧ b = .nestedExpression name')

/-- The second mistake is the first one at the moved token. -/
structure Mistake.Follows (f : Relabelling) (m m' : Mistake) : Prop where
  fault : m.fault.Alike m'.fault
  token : m'.token = f.apply m.token

variable {f : Relabelling} {nodes : List Node} {node : Node} {field : Field} {name name' : String}

theorem follows_of_eq (f : Relabelling) (fault : Fault) (t : Token) :
    Mistake.Follows f ⟨fault, t⟩ ⟨fault, f.apply t⟩ :=
  ⟨.inl rfl, rfl⟩

theorem lower_name (f : Relabelling) (index : Int) (name : String) :
    lower name = lower (f.apply ⟨index, name⟩).value :=
  (f.alike ⟨index, name⟩).symm

theorem isGroupName_congr (same : lower name = lower name') :
    isGroupName name' = isGroupName name := by
  have folded : Text.fold name = Text.fold name' :=
    Token.Alike.fold_eq (s := ⟨0, name⟩) (t := ⟨0, name'⟩) same
  rw [isGroupName, isGroupName, folded]

theorem ofName?_congr (same : lower name = lower name') :
    Field.ofName? name' = Field.ofName? name := by
  have folded : Text.fold name = Text.fold name' :=
    Token.Alike.fold_eq (s := ⟨0, name⟩) (t := ⟨0, name'⟩) same
  rw [Field.ofName?, Field.ofName?, folded]

theorem Node.first_relabel (f : Relabelling) (node : Node) :
    (node.relabel f).first = f.apply node.first := by
  cases node <;> rfl

theorem Node.isRule_relabel (f : Relabelling) (node : Node) :
    (node.relabel f).isRule = node.isRule := by
  cases node with
  | literal l => rfl
  | expression name first arguments =>
    rw [relabel, isRule, isRule, isGroupName_congr (lower_name f first.index name)]

namespace RuleGroup

theorem entryOf_relabel (f : Relabelling) (field : Field) (same : lower name = lower name')
    (node : Node) :
    Agree (Mistake.Follows f) (entryOf field name node) (entryOf field name' (node.relabel f)) := by
  cases node with
  | expression inner first arguments =>
    exact .error ⟨.inr ⟨name, name', same, .inr ⟨rfl, rfl⟩⟩, rfl⟩
  | literal l =>
    have normal : normalize field (l.relabel f) = normalize field l := rfl
    rw [Node.relabel, entryOf, entryOf, normal]
    cases normalize field l with
    | ok range => exact .ok _
    | error fault => exact .error (follows_of_eq f fault l.first)

theorem argumentsFor_relabel (f : Relabelling) (field : Field) (first : Token)
    (arguments : List Node) :
    argumentsFor field (f.apply first) (Node.relabelAll f arguments) =
      (argumentsFor field first arguments).map (Node.relabel f) := by
  unfold argumentsFor
  rw [Node.relabelAll_eq, List.isEmpty_map]
  split <;> rfl

theorem contribution_relabel (f : Relabelling) (node : Node) :
    Agree (Mistake.Follows f) (contribution node) (contribution (node.relabel f)) := by
  cases node with
  | literal l => exact .error (follows_of_eq f .expectedRule l.first)
  | expression name first arguments =>
    have same := lower_name f first.index name
    rw [Node.relabel, contribution, contribution, isGroupName_congr same, ofName?_congr same]
    split
    · exact .error (follows_of_eq f .nestedGroup first)
    · cases Field.ofName? name with
      | none => exact .error ⟨.inr ⟨name, _, same, .inl ⟨rfl, rfl⟩⟩, rfl⟩
      | some field =>
        dsimp only
        rw [argumentsFor_relabel]
        refine (Agree.mapM ?_).map _
        rw [List.forall₂_map_right_iff]
        exact List.forall₂_same.mpr fun argument _ => entryOf_relabel f field same argument

theorem compile_relabel (f : Relabelling) (anchor : Token) (nodes : List Node) :
    Agree (Mistake.Follows f) (compile anchor nodes)
      (compile (f.apply anchor) (nodes.map (Node.relabel f))) := by
  rw [compile_eq, compile_eq, List.isEmpty_map, foldlM_addExpression, foldlM_addExpression]
  split
  · exact .error (follows_of_eq f .noRules anchor)
  · refine ((Agree.mapM ?_).map _).map _
    rw [List.forall₂_map_right_iff]
    exact List.forall₂_same.mpr fun node _ => contribution_relabel f node

end RuleGroup

theorem explicitGroups_relabel (f : Relabelling) (nodes : List Node) :
    Agree (Mistake.Follows f) (explicitGroups nodes)
      (explicitGroups (nodes.map (Node.relabel f))) := by
  induction nodes with
  | nil => exact .ok []
  | cons node nodes ih =>
    cases node with
    | literal l => exact .error (follows_of_eq f .looseArgument l.first)
    | expression name first arguments =>
      rw [List.map_cons, Node.relabel, explicitGroups, explicitGroups,
        isGroupName_congr (lower_name f first.index name), Node.relabelAll_eq]
      split
      · exact (RuleGroup.compile_relabel f first arguments).bind fun group =>
          ih.bind fun groups => .ok _
      · exact ih

theorem implicitGroup_relabel (f : Relabelling) (nodes : List Node) :
    Agree (Mistake.Follows f) (implicitGroup nodes)
      (implicitGroup (nodes.map (Node.relabel f))) := by
  have rules : (nodes.map (Node.relabel f)).filter Node.isRule =
      (nodes.filter Node.isRule).map (Node.relabel f) := by
    rw [List.filter_map]
    congr 2
    exact funext (Node.isRule_relabel f)
  unfold implicitGroup
  rw [rules]
  cases nodes.filter Node.isRule with
  | nil => exact .ok []
  | cons rule rules =>
    have compiled := RuleGroup.compile_relabel f rule.first (rule :: rules)
    rw [← Node.first_relabel, List.map_cons] at compiled
    exact compiled.map _

/-- A tree compiles to the same groups wherever its tokens stand and whatever the case of their
letters; what is wrong with it is wrong at the moved token. -/
theorem compileNodes_relabel (f : Relabelling) (still : f.apply ⟨0, ""⟩ = ⟨0, ""⟩)
    (nodes : List Node) :
    Agree (Mistake.Follows f) (compileNodes nodes)
      (compileNodes (nodes.map (Node.relabel f))) := by
  rw [compileNodes_eq, compileNodes_eq]
  refine (explicitGroups_relabel f nodes).bind fun explicit =>
    (implicitGroup_relabel f nodes).bind fun implicit => ?_
  split
  · exact .error ⟨.inl rfl, still.symm⟩
  · exact .ok _

end Schedule
