import Schedule.Proofs.Grammar.Start
import Schedule.Proofs.RuleGroup.Entries

/-! # What is blamed when compiling fails

A tree keeps tokens in order to point at them: the first token of every node. They are tokens of the
list that the tree was read from, and whatever is wrong with the tree is blamed on one of them, but
for the tree of no expressions at all.
-/

namespace Schedule

namespace Node

mutual

/-- The tokens that a node keeps. -/
def kept : Node → List Token
  | literal l => [l.first]
  | expression _ first arguments => first :: keptAll arguments

/-- The tokens that some nodes keep. -/
def keptAll : List Node → List Token
  | [] => []
  | node :: nodes => kept node ++ keptAll nodes

end

theorem keptAll_eq (nodes : List Node) : keptAll nodes = nodes.flatMap kept := by
  induction nodes with
  | nil => rfl
  | cons node nodes ih => rw [keptAll, ih, List.flatMap_cons]

theorem first_mem_kept (node : Node) : node.first ∈ node.kept := by
  cases node <;> simp [first, kept]

theorem kept_subset {node : Node} {nodes : List Node} (member : node ∈ nodes) :
    node.kept ⊆ keptAll nodes := by
  intro t inside
  rw [keptAll_eq]
  exact List.mem_flatMap.mpr ⟨node, member, inside⟩

theorem keptAll_subset {some all : List Node} (among : some ⊆ all) :
    keptAll some ⊆ keptAll all := by
  intro t inside
  rw [keptAll_eq] at inside
  obtain ⟨node, member, kept⟩ := List.mem_flatMap.mp inside
  exact kept_subset (among member) kept

end Node

namespace Grammar

/-- The first token of a literal is its `!` or the first of its form. -/
theorem Form.first_mem (bang : Option Token) (form : Form) :
    (form.literal bang).first ∈ bang.toList ++ form.tokens := by
  obtain ⟨more, same⟩ := form.tokens_eq
  cases bang <;> simp [literal, same]

theorem Arguments.keptAll_tree (a : Arguments) : Node.keptAll a.tree ⊆ a.tokens := by
  induction a with
  | nil => exact List.Subset.refl _
  | literal bang form comma rest ih =>
    have later : Node.keptAll rest.tree ⊆ comma.toList ++ rest.tokens :=
      List.subset_append_of_subset_right _ ih
    rw [tree, Node.keptAll, Node.kept, List.singleton_append, List.cons_subset, tokens,
      ← List.append_assoc]
    exact ⟨List.mem_append_left _ (form.first_mem bang),
      List.subset_append_of_subset_right _ later⟩
  | nested name opening inner closing comma rest ihInner ihRest =>
    intro t member
    simp only [tree, Node.keptAll, Node.kept, List.cons_append, List.mem_cons,
      List.mem_append] at member
    simp only [tokens, List.mem_cons, List.mem_append]
    rcases member with same | inside | inside
    · exact .inl same
    · exact .inr (.inr (.inl (ihInner inside)))
    · exact .inr (.inr (.inr (.inr (.inr (ihRest inside)))))

/-- The tree of a derivation keeps tokens that were derived. -/
theorem Document.kept_tree (d : Document) :
    Node.keptAll (d.tree.map Expression.toNode) ⊆ d.tokens := by
  intro t member
  simp only [Node.keptAll_eq, tree, phrases, List.mem_flatMap, List.mem_map,
    List.mem_filterMap] at member
  obtain ⟨_, ⟨_, ⟨p, ⟨item, listed, same⟩, rfl⟩, rfl⟩, kept⟩ := member
  refine List.mem_flatMap.mpr ⟨item, listed, ?_⟩
  cases item with
  | comma mark => contradiction
  | phrase q =>
    cases same
    rw [Phrase.tree, Expression.toNode, Node.kept, List.mem_cons] at kept
    rw [Item.tokens, Phrase.tokens, List.mem_cons, List.mem_cons, List.mem_append]
    rcases kept with same | inside
    · exact .inl same
    · exact .inr (.inr (.inl (Arguments.keptAll_tree _ inside)))

end Grammar

variable {nodes : List Node} {node : Node} {m : Mistake} {field : Field} {name : String}

namespace RuleGroup

theorem mem_kept_of_entryOf (failed : entryOf field name node = .error m) :
    m.token ∈ node.kept := by
  cases node with
  | expression name first arguments =>
    cases failed
    simp [Node.kept]
  | literal l =>
    rw [entryOf] at failed
    split at failed
    · contradiction
    · cases failed
      simp [Node.kept]

/-- The wildcard that stands for no arguments is blamed on the name. -/
theorem keptAll_argumentsFor (field : Field) (first : Token) (arguments : List Node) :
    Node.keptAll (argumentsFor field first arguments) ⊆ first :: Node.keptAll arguments := by
  unfold argumentsFor
  split
  · simp [Node.keptAll, Node.kept]
  · exact List.subset_cons_self _ _

theorem mem_kept_of_contribution (failed : contribution node = .error m) :
    m.token ∈ node.kept := by
  cases node with
  | literal l =>
    cases failed
    simp [Node.kept]
  | expression name first arguments =>
    rw [contribution] at failed
    split at failed
    · cases failed
      simp [Node.kept]
    · split at failed
      · cases failed
        simp [Node.kept]
      · next field _ =>
        obtain ⟨argument, listed, found⟩ :=
          exists_of_mapM_eq_error (map_eq_error_iff.mp failed)
        exact keptAll_argumentsFor field first arguments
          (Node.kept_subset listed (mem_kept_of_entryOf found))

theorem mem_kept_of_compile {anchor : Token} (failed : compile anchor nodes = .error m) :
    m.token ∈ anchor :: Node.keptAll nodes := by
  rw [compile_eq] at failed
  split at failed
  · cases failed
    exact List.mem_cons_self
  · rw [foldlM_addExpression, map_eq_error_iff, map_eq_error_iff] at failed
    obtain ⟨node, listed, found⟩ := exists_of_mapM_eq_error failed
    exact List.mem_cons_of_mem _ (Node.kept_subset listed (mem_kept_of_contribution found))

end RuleGroup

theorem mem_kept_of_explicitGroups (failed : explicitGroups nodes = .error m) :
    m.token ∈ Node.keptAll nodes := by
  induction nodes with
  | nil => contradiction
  | cons node nodes ih =>
    rw [Node.keptAll, List.mem_append]
    cases node with
    | literal l =>
      cases failed
      exact .inl (List.mem_singleton_self _)
    | expression name first arguments =>
      rw [explicitGroups] at failed
      split at failed
      · simp only [bind_eq_error_iff] at failed
        rcases failed with inside | ⟨_, _, later | ⟨_, _, none⟩⟩
        · exact .inl (RuleGroup.mem_kept_of_compile inside)
        · exact .inr (ih later)
        · contradiction
      · exact .inr (ih failed)

theorem mem_kept_of_implicitGroup (failed : implicitGroup nodes = .error m) :
    m.token ∈ Node.keptAll nodes := by
  unfold implicitGroup at failed
  split at failed
  · contradiction
  · next rule rules same =>
    have listed : rule ∈ nodes := by
      apply List.mem_of_mem_filter (p := Node.isRule)
      rw [same]
      exact List.mem_cons_self
    have filtered : Node.keptAll (rule :: rules) ⊆ Node.keptAll nodes := by
      rw [← same]
      exact Node.keptAll_subset fun _ member => List.mem_of_mem_filter member
    have blamed := RuleGroup.mem_kept_of_compile (map_eq_error_iff.mp failed)
    rcases List.mem_cons.mp blamed with same | inside
    · rw [same]
      exact Node.kept_subset listed rule.first_mem_kept
    · exact filtered inside

/-- Only a document without expressions compiles to neither explicit groups nor an implicit one. -/
theorem eq_nil_of_no_groups (explicit : explicitGroups nodes = .ok [])
    (implicit : implicitGroup nodes = .ok []) : nodes = [] := by
  cases nodes with
  | nil => rfl
  | cons node nodes =>
    cases node with
    | literal l => contradiction
    | expression name first arguments =>
      rw [explicitGroups] at explicit
      split at explicit
      · simp [bind_eq_ok_iff] at explicit
      · next notGroup =>
        have isRule : (Node.expression name first arguments).isRule = true := by
          simpa [Node.isRule] using notGroup
        unfold implicitGroup at implicit
        rw [List.filter_cons_of_pos isRule] at implicit
        simp [map_eq_ok_iff] at implicit

/-- What is wrong with the tree of a document is blamed on a token that the tree keeps, or on the
empty one if there is no expression in it. -/
theorem mem_kept_of_compileNodes (failed : compileNodes nodes = .error m) :
    (nodes ≠ [] → m.token ∈ Node.keptAll nodes) ∧ (nodes = [] → m = ⟨.noRules, ⟨0, ""⟩⟩) := by
  constructor
  · intro filled
    simp only [compileNodes_eq, bind_eq_error_iff] at failed
    rcases failed with explicit | ⟨groups, explicit, implicit | ⟨others, implicit, none⟩⟩
    · exact mem_kept_of_explicitGroups explicit
    · exact mem_kept_of_implicitGroup implicit
    · split at none
      · next empty =>
        simp only [Bool.and_eq_true, List.isEmpty_iff] at empty
        obtain ⟨rfl, rfl⟩ := empty
        exact absurd (eq_nil_of_no_groups explicit implicit) filled
      · contradiction
  · rintro rfl
    cases failed
    rfl

end Schedule
