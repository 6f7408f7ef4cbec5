import Schedule.Proofs.Outcome
import Schedule.RuleGroup.Compile

/-! # The loops of the compiler, taken apart

A group is compiled in one loop, which notes whether something has been set. Whatever an expression
adds sets something, so that only a group without expressions has nothing set. A document is
compiled in one loop as well, which compiles some of its expressions and puts the others aside.
These two do not depend on each other, so that the groups of each sort can be found by themselves.
-/

namespace Schedule

namespace RuleGroup

/-- The arguments of an expression of a field. Without any it means every value, which for dates
needs no range and else is a wildcard. -/
def argumentsFor (field : Field) (first : Token) (arguments : List Node) : List Node :=
  if arguments.isEmpty && field != .dates then [.literal ⟨.wildcard, first, false, none⟩]
  else arguments

/-- Adds what an expression says about its field. -/
def addExpression (group : RuleGroup) : Node → Except Mistake RuleGroup
  | .literal l => mistake .expectedRule l.first
  | .expression name first arguments =>
    if isGroupName name then mistake .nestedGroup first
    else
      match Field.ofName? name with
      | none => mistake (.unknownExpression name) first
      | some field =>
        (argumentsFor field first arguments).foldlM (addArgument field name)
          { group with hasDates := group.hasDates || field == .dates }

/-- A loop whose every step sets something has set something if it has a step. -/
theorem Draft.foldlM_eq {step : Draft → Node → Except Mistake Draft}
    {add : RuleGroup → Node → Except Mistake RuleGroup}
    (sets : ∀ draft node, step draft node = (add draft.group node).map fun group => ⟨group, true⟩)
    (nodes : List Node) (draft : Draft) :
    nodes.foldlM step draft = (nodes.foldlM add draft.group).map fun group =>
      ⟨group, draft.somethingSet || !nodes.isEmpty⟩ := by
  induction nodes generalizing draft with
  | nil =>
    rw [List.isEmpty_nil, Bool.not_true, Bool.or_false]
    rfl
  | cons node nodes ih =>
    rw [List.foldlM_cons, List.foldlM_cons, sets]
    cases add draft.group node with
    | error m => rfl
    | ok group =>
      change nodes.foldlM step ⟨group, true⟩ = (nodes.foldlM add group).map _
      rw [ih, Bool.true_or, List.isEmpty_cons, Bool.not_false, Bool.or_true]

theorem Draft.addExpression_eq (draft : Draft) (node : Node) :
    draft.addExpression node =
      (draft.group.addExpression node).map fun group => ⟨group, true⟩ := by
  cases node with
  | literal l => rfl
  | expression name first arguments =>
    rw [Draft.addExpression, RuleGroup.addExpression]
    split
    · rfl
    · cases Field.ofName? name with
      | none => rfl
      | some field =>
        dsimp only
        have adds (nodes : List Node) (draft : Draft) :=
          foldlM_eq (fun draft => fun argument => (rfl : draft.addArgument field name argument = _))
            nodes draft
        unfold argumentsFor
        cases arguments with
        | nil =>
          by_cases dates : field = .dates
          · subst dates
            rfl
          · simp only [List.isEmpty_nil, bne_iff_ne, ne_eq, dates, not_false_eq_true, adds,
              beq_iff_eq, Bool.true_and, Bool.or_true, List.isEmpty_cons, Bool.not_false, if_true,
              if_false]
        | cons argument arguments =>
          simp only [List.isEmpty_cons, Bool.false_and, Bool.false_eq_true, if_false, adds,
            Bool.not_false, Bool.or_true]

/-- Only a group without expressions has nothing set. -/
theorem compile_eq (anchor : Token) (nodes : List Node) :
    compile anchor nodes =
      if nodes.isEmpty then mistake .noRules anchor
      else (nodes.foldlM addExpression empty).map fun group => group.pin Field.times := by
  unfold compile
  rw [Draft.foldlM_eq Draft.addExpression_eq]
  cases nodes with
  | nil => rfl
  | cons node nodes => cases (node :: nodes).foldlM addExpression empty <;> rfl

end RuleGroup

namespace Node

/-- The node is an expression of a field, or at least of no group. -/
def isRule : Node → Bool
  | literal _ => false
  | expression name _ _ => !isGroupName name

end Node

/-- The groups of the top-level expressions named `group`. -/
def explicitGroups : List Node → Except Mistake (List RuleGroup)
  | [] => .ok []
  | .literal l :: _ => mistake .looseArgument l.first
  | .expression name first arguments :: rest =>
    if isGroupName name then do
      let group ← RuleGroup.compile first arguments
      let groups ← explicitGroups rest
      .ok (group :: groups)
    else explicitGroups rest

/-- The group of the top-level expressions that stand in no group, if there are any. -/
def implicitGroup (nodes : List Node) : Except Mistake (List RuleGroup) :=
  match nodes.filter Node.isRule with
  | [] => .ok []
  | rule :: rules => (RuleGroup.compile rule.first (rule :: rules)).map fun group => [group]

/-- The loop over a document gathers the explicit groups, and puts aside what stands in none. -/
theorem foldlM_take (nodes : List Node) (gathered : Gathered) :
    nodes.foldlM Gathered.take gathered = (explicitGroups nodes).map fun groups =>
      ⟨gathered.groups ++ groups, gathered.implicit ++ nodes.filter Node.isRule⟩ := by
  induction nodes generalizing gathered with
  | nil =>
    rw [List.filter_nil, explicitGroups]
    simp only [Except.map, List.append_nil]
    rfl
  | cons node nodes ih =>
    rw [List.foldlM_cons]
    cases node with
    | literal l => rfl
    | expression name first arguments =>
      rw [Gathered.take, explicitGroups]
      by_cases isGroup : isGroupName name = true
      · rw [if_pos isGroup, if_pos isGroup,
          List.filter_cons_of_neg (by simp [Node.isRule, isGroup])]
        cases RuleGroup.compile first arguments with
        | error m => rfl
        | ok group =>
          refine (ih _).trans ?_
          cases explicitGroups nodes with
          | error m => rfl
          | ok groups => simp [Except.map, bind, Except.bind]
      · rw [if_neg isGroup, if_neg isGroup,
          List.filter_cons_of_pos (by simp [Node.isRule, isGroup])]
        refine (ih _).trans ?_
        rw [List.append_assoc, List.singleton_append]

/-- The explicit groups and the implicit one are found by themselves, in this order. -/
theorem compileNodes_eq (nodes : List Node) :
    compileNodes nodes = (do
      let explicit ← explicitGroups nodes
      let implicit ← implicitGroup nodes
      if explicit.isEmpty && implicit.isEmpty then mistake .noRules ⟨0, ""⟩
      else .ok (explicit ++ implicit)) := by
  rw [compileNodes, foldlM_take]
  cases explicitGroups nodes with
  | error m => rfl
  | ok explicit =>
    simp only [Except.map, bind, Except.bind, Gathered.finish, implicitGroup, List.nil_append]
    cases nodes.filter Node.isRule with
    | nil => simp
    | cons rule rules =>
      cases compiled : RuleGroup.compile rule.first (rule :: rules) <;> simp [compiled]

end Schedule
