import Schedule.Proofs.Reading.Relabel
import Schedule.Proofs.RuleGroup.Entries

/-! # Trees without their tokens

The tokens that a tree keeps are there for complaints alone: what a tree compiles to, if it does,
does not depend on them. So trees are compared with their tokens erased.
-/

namespace Schedule

/-- The literal without its token. -/
def Literal.erase (l : Literal) : Literal :=
  { l with first := ⟨0, ""⟩ }

namespace Node

mutual

/-- The node without its tokens. -/
def erase : Node → Node
  | literal l => literal l.erase
  | expression name _ arguments => expression name ⟨0, ""⟩ (eraseAll arguments)

/-- Some nodes without their tokens. -/
def eraseAll : List Node → List Node
  | [] => []
  | node :: nodes => erase node :: eraseAll nodes

end

theorem eraseAll_eq (nodes : List Node) : eraseAll nodes = nodes.map erase := by
  induction nodes with
  | nil => rfl
  | cons node nodes ih => rw [eraseAll, ih, List.map_cons]

mutual

/-- Moving its tokens does not change what is left of a node without them. -/
theorem erase_relabel {f : Relabelling} (same : ∀ t, (f.apply t).value = t.value) (node : Node) :
    (node.relabel f).erase = node.erase := by
  cases node with
  | literal l => rfl
  | expression name first arguments =>
    rw [relabel, erase, erase, same, eraseAll_relabel same arguments]

theorem eraseAll_relabel {f : Relabelling} (same : ∀ t, (f.apply t).value = t.value)
    (nodes : List Node) : eraseAll (relabelAll f nodes) = eraseAll nodes := by
  cases nodes with
  | nil => rfl
  | cons node nodes =>
    rw [relabelAll, eraseAll, eraseAll, erase_relabel same node, eraseAll_relabel same nodes]

end

theorem isRule_erase (node : Node) : node.erase.isRule = node.isRule := by
  cases node <;> rfl

end Node

namespace RuleGroup

variable {field : Field} {name : String}

theorem entryOf_erase (node : Node) (e : Entry) :
    entryOf field name node.erase = .ok e ↔ entryOf field name node = .ok e := by
  cases node with
  | expression => simp [Node.erase, entryOf, mistake]
  | literal l =>
    have same : normalize field l.erase = normalize field l := rfl
    rw [Node.erase, entryOf, entryOf, same]
    cases normalize field l with
    | ok range => rfl
    | error fault => simp [mistake]

theorem argumentsFor_erase (field : Field) (first : Token) (arguments : List Node) :
    argumentsFor field ⟨0, ""⟩ (Node.eraseAll arguments) =
      (argumentsFor field first arguments).map Node.erase := by
  unfold argumentsFor
  rw [Node.eraseAll_eq, List.isEmpty_map]
  split <;> rfl

theorem contribution_erase (node : Node) (c : Contribution) :
    contribution node.erase = .ok c ↔ contribution node = .ok c := by
  cases node with
  | literal => simp [Node.erase, contribution, mistake]
  | expression name first arguments =>
    rw [Node.erase, contribution, contribution]
    split
    · simp [mistake]
    · split
      · simp [mistake]
      · simp only [argumentsFor_erase _ first, map_eq_ok_iff, mapM_eq_ok_iff,
          List.forall₂_map_left_iff, entryOf_erase]

theorem compile_erase (anchor anchor' : Token) (nodes : List Node) (group : RuleGroup) :
    compile anchor (nodes.map Node.erase) = .ok group ↔ compile anchor' nodes = .ok group := by
  simp only [compile_eq_ok_iff, List.forall₂_map_left_iff, contribution_erase, ne_eq,
    List.map_eq_nil_iff]

end RuleGroup

theorem explicitGroups_erase (nodes : List Node) (groups : List RuleGroup) :
    explicitGroups (nodes.map Node.erase) = .ok groups ↔ explicitGroups nodes = .ok groups := by
  induction nodes generalizing groups with
  | nil => rfl
  | cons node nodes ih =>
    cases node with
    | literal => simp [Node.erase, explicitGroups, mistake]
    | expression name first arguments =>
      rw [List.map_cons, Node.erase, explicitGroups, explicitGroups, Node.eraseAll_eq]
      split
      · simp only [bind_eq_ok_iff, RuleGroup.compile_erase ⟨0, ""⟩ first, ih]
      · exact ih groups

theorem implicitGroup_erase (nodes : List Node) (groups : List RuleGroup) :
    implicitGroup (nodes.map Node.erase) = .ok groups ↔ implicitGroup nodes = .ok groups := by
  have rules : (nodes.map Node.erase).filter Node.isRule =
      (nodes.filter Node.isRule).map Node.erase := by
    rw [List.filter_map]
    congr 2
    exact funext Node.isRule_erase
  unfold implicitGroup
  rw [rules]
  cases nodes.filter Node.isRule with
  | nil => rfl
  | cons rule rules =>
    have compiled := RuleGroup.compile_erase rule.erase.first rule.first (rule :: rules)
    simp only [List.map_cons, map_eq_ok_iff] at compiled ⊢
    simp only [compiled]

/-- What a document compiles to does not depend on its tokens. -/
theorem compileNodes_erase (nodes : List Node) (groups : List RuleGroup) :
    compileNodes (nodes.map Node.erase) = .ok groups ↔ compileNodes nodes = .ok groups := by
  simp only [compileNodes_eq, bind_eq_ok_iff, explicitGroups_erase, implicitGroup_erase]

end Schedule
