import Schedule.Proofs.Reading.Depth

/-! # What a larger bound on the nesting changes

A larger budget only lets the readers go on where a smaller one cut them off. Two runs with
different budgets go the same way up to the first expression that is nested too deeply for one of
them, so that their outcomes are the same unless the run with the smaller budget ended there.
-/

namespace Schedule.Reading

variable {α β : Type} {last : Token} {ts : List Token} {budget budget' : Nat}

/-- The two outcomes are the same, unless the first ended at an expression nested too deeply. -/
inductive CutShort : Except Failure α → Except Failure α → Prop
  | same (x : Except Failure α) : CutShort x x
  | cut (name : Token) (x : Except Failure α) : CutShort (blame .nestedTooDeep name) x

namespace CutShort

variable {x x' : Except Failure α}

theorem map (short : CutShort x x') (f : α → β) : CutShort (x.map f) (x'.map f) := by
  cases short with
  | same => exact .same _
  | cut name => exact .cut name _

theorem ok (short : CutShort x x') {a : α} (success : x = .ok a) : x' = .ok a := by
  cases short with
  | same => exact success
  | cut => contradiction

/-- A failure of the shorter run is one of the longer run too, unless it is the bound itself. -/
theorem error (short : CutShort x x') {failure : Failure} (failed : x = .error failure)
    (other : ∀ name, failure ≠ .mistake ⟨.nestedTooDeep, name⟩) : x' = .error failure := by
  cases short with
  | same => exact failed
  | cut name =>
    cases failed
    exact absurd rfl (other name)

end CutShort

/-! ### Arguments and expressions -/

variable {nested nested' : Token → List Token → Except Failure (Read Expression)}

theorem cutShort_argument (last : Token)
    (shorter : ∀ name ts, CutShort (nested name ts) (nested' name ts)) (ts : List Token) :
    CutShort (argument last nested ts) (argument last nested' ts) := by
  cases ts with
  | nil => exact .same _
  | cons first rest =>
    unfold argument
    dsimp only
    split
    · exact .same _
    · split
      · exact .same _
      · split
        · exact .same _
        · split
          · exact (shorter first rest).map _
          · exact .same _

/-- The induction is on the tokens, which both runs take in the same pieces. -/
theorem cutShort_arguments (last name : Token)
    (shorter : ∀ name ts, CutShort (nested name ts) (nested' name ts)) (ts : List Token) :
    CutShort (arguments last name nested ts) (arguments last name nested' ts) := by
  induction ts using arguments.induct last nested with
  | case1 =>
    rw [arguments, arguments]
    exact .same _
  | case2 t rest closes =>
    rw [arguments, arguments, if_pos closes, if_pos closes]
    exact .same _
  | case3 t rest notClosing failure found =>
    have first := cutShort_argument last shorter (t :: rest)
    rw [arguments, arguments, if_neg notClosing, if_neg notClosing]
    rw [found] at first ⊢
    generalize argument last nested' (t :: rest) = x' at first ⊢
    cases first with
    | same => exact .same _
    | cut name => exact .cut name _
  | case4 t rest notClosing node after found fewer ih =>
    have first := (cutShort_argument last shorter (t :: rest)).ok found
    rw [Grammar.arguments_next notClosing found fewer,
      Grammar.arguments_next notClosing first fewer]
    exact ih.map _
  | case5 t rest notClosing node after found more =>
    have first := (cutShort_argument last shorter (t :: rest)).ok found
    rw [arguments, arguments, if_neg notClosing, if_neg notClosing, found, first]
    dsimp only
    rw [if_neg more, if_neg more]
    exact .same _

/-- The induction is on the smaller budget, which falls with the larger one. -/
theorem cutShort_expression (last : Token) (less : budget ≤ budget') (name : Token)
    (ts : List Token) :
    CutShort (expression last budget name ts) (expression last budget' name ts) := by
  induction budget generalizing budget' name ts with
  | zero => exact .cut name _
  | succ budget ih =>
    obtain ⟨budget', rfl⟩ : ∃ n, budget' = n + 1 := ⟨budget' - 1, by omega⟩
    have inner := fun name ts => ih (Nat.le_of_succ_le_succ less) name ts
    cases ts with
    | nil => exact .same _
    | cons mark body =>
      rw [expression, expression]
      dsimp only
      split
      · exact (cutShort_arguments last name inner body).map _
      · exact .same _

/-! ### Documents -/

theorem cutShort_expressions (last : Token) (less : budget ≤ budget') (begun : Bool)
    (ts : List Token) :
    CutShort (expressions last budget begun ts) (expressions last budget' begun ts) := by
  induction begun, ts using expressions.induct last budget with
  | case1 begun =>
    rw [expressions, expressions]
    exact .same _
  | case2 begun t rest named failure found =>
    have first := cutShort_expression last less t rest
    rw [expressions, expressions, if_pos named, if_pos named]
    rw [found] at first ⊢
    generalize expression last budget' t rest = x' at first ⊢
    cases first with
    | same => exact .same _
    | cut name => exact .cut name _
  | case3 begun t rest named e after found fewer ih =>
    have first := (cutShort_expression last less t rest).ok found
    rw [Grammar.expressions_next named found fewer, Grammar.expressions_next named first fewer]
    exact ih.map _
  | case4 begun t rest named e after found more =>
    have first := (cutShort_expression last less t rest).ok found
    rw [expressions, expressions, if_pos named, if_pos named, found, first]
    dsimp only
    rw [if_neg more, if_neg more]
    exact .same _
  | case5 begun t rest notName comma ih =>
    rw [expressions, expressions, if_neg notName, if_neg notName, if_pos comma, if_pos comma]
    exact ih
  | case6 begun t rest notName notComma =>
    rw [expressions, expressions, if_neg notName, if_neg notName, if_neg notComma, if_neg notComma]
    exact .same _

theorem cutShort_document {maxDepth maxDepth' : Int} (less : maxDepth ≤ maxDepth')
    (ts : List Token) : CutShort (document maxDepth ts) (document maxDepth' ts) := by
  have budgets : budget maxDepth 1 ≤ budget maxDepth' 1 := by
    unfold Reading.budget
    omega
  exact cutShort_expressions (endToken ts) budgets false ts

/-- A bound on the nesting cuts a document off or leaves it as it is. What is read under it is
nested no deeper, is read under every larger bound, and is all of what a larger bound reads that is
nested no deeper; and a mistake under it, other than too deep a nesting, is the same under every
larger one. -/
theorem document_bound_cuts {maxDepth maxDepth' : Int} (less : maxDepth ≤ maxDepth')
    (ts : List Token) :
    (∀ es, document maxDepth ts = .ok es → ∀ e ∈ es, (e.toNode.depth : Int) ≤ maxDepth) ∧
    (∀ es, document maxDepth ts = .ok es → document maxDepth' ts = .ok es) ∧
    (∀ es, document maxDepth' ts = .ok es → (∀ e ∈ es, (e.toNode.depth : Int) ≤ maxDepth) →
      document maxDepth ts = .ok es) ∧
    (∀ failure, document maxDepth ts = .error failure →
      (∀ name, failure ≠ .mistake ⟨.nestedTooDeep, name⟩) →
        document maxDepth' ts = .error failure) := by
  have short := cutShort_document less ts
  refine ⟨?_, ?_, ?_, ?_⟩
  · intro es success
    exact Grammar.depth_le_of_document success
  · intro es success
    exact short.ok success
  · intro es success deep
    exact Grammar.document_of_depth_le success deep
  · intro failure failed other
    exact short.error failed other

/-- A group is nested twice and is read alike under the bounds two and sixteen, and a loose number
behind an hour is the same mistake under both. -/
theorem document_bound_cuts_group :
    let group := tokenize "group(h(9))"
    let loose := tokenize "h(9) 5"
    let mistake : Mistake := ⟨.expectedExpression, ⟨5, "5"⟩⟩
    (∃ es, document 2 group = .ok es ∧ document 16 group = .ok es ∧
      es.map (fun e => e.toNode.depth) = [2] ∧ ∀ e ∈ es, (e.toNode.depth : Int) ≤ 2) ∧
    document 2 loose = .error (.mistake mistake) ∧
    document 16 loose = .error (.mistake mistake) := by
  intro group loose mistake
  have twice : (document 16 group).map (fun es => es.map fun e => e.toNode.depth) = .ok [2] := by
    decide +kernel
  have failed : (document 2 loose).map (fun _ => ()) = .error (.mistake mistake) := by
    decide +kernel
  obtain ⟨es, success, depths⟩ := map_eq_ok_iff.mp twice
  have deep : ∀ e ∈ es, (e.toNode.depth : Int) ≤ 2 := by
    intro e member
    have listed : e.toNode.depth ∈ [2] := depths ▸ List.mem_map_of_mem member
    rw [List.mem_singleton.mp listed]
    decide
  have bounded : (2 : Int) ≤ 16 := by decide
  obtain ⟨nested, _, cut, _⟩ := document_bound_cuts bounded group
  obtain ⟨_, _, _, same⟩ := document_bound_cuts bounded loose
  have within := cut es success deep
  exact ⟨⟨es, within, success, depths, nested es within⟩, map_eq_error_iff.mp failed,
    same _ (map_eq_error_iff.mp failed) (by simp [mistake])⟩

end Schedule.Reading
