import Schedule.Proofs.Reading.Document

/-! # How deep what is read is nested

The bound on the nesting decides whether a document is read, never what is read: a token list has
one tree, and it is read under every bound that the tree keeps to.
-/

namespace Schedule.Grammar

variable {ts : List Token} {es : List Expression} {maxDepth : Int}

theorem Arguments.depthAll_tree (a : Arguments) : Node.depthAll a.tree = a.depth := by
  induction a with
  | nil => rfl
  | literal bang form comma rest ih => rw [tree, Node.depthAll, Node.depth, ih, depth, Nat.zero_max]
  | nested name opening inner closing comma rest ihInner ihRest =>
    rw [tree, Node.depthAll, Node.depth, ihInner, ihRest, depth]

theorem Phrase.depth_tree (p : Phrase) : p.tree.toNode.depth = p.depth := by
  rw [tree, Expression.toNode, Node.depth, Arguments.depthAll_tree, depth]

/-- A derivation keeps to a bound exactly if its tree does. -/
theorem Document.within_iff_tree (d : Document) :
    d.Within maxDepth ↔ ∀ e ∈ d.tree, (e.toNode.depth : Int) ≤ maxDepth := by
  rw [tree, List.forall_mem_map]
  simp only [Phrase.depth_tree, Within]

/-- What is read is nested no deeper than allowed. -/
theorem depth_le_of_document (success : Reading.document maxDepth ts = .ok es) :
    ∀ e ∈ es, (e.toNode.depth : Int) ≤ maxDepth := by
  obtain ⟨_, d, _, within, rfl⟩ := (Document.read_iff ..).mp success
  exact d.within_iff_tree.mp within

/-- What is read under one bound is read under every other that it keeps to. -/
theorem document_of_depth_le {other : Int} (success : Reading.document other ts = .ok es)
    (deep : ∀ e ∈ es, (e.toNode.depth : Int) ≤ maxDepth) :
    Reading.document maxDepth ts = .ok es := by
  obtain ⟨readable, d, derives, _, rfl⟩ := (Document.read_iff ..).mp success
  exact (Document.read_iff ..).mpr ⟨readable, d, derives, d.within_iff_tree.mpr deep, rfl⟩

/-- Under whatever bounds a token list is read, it is read as the same document. -/
theorem document_unique {other : Int} {es' : List Expression}
    (success : Reading.document maxDepth ts = .ok es)
    (success' : Reading.document other ts = .ok es') : es = es' := by
  obtain ⟨_, d, derives, _, rfl⟩ := (Document.read_iff ..).mp success
  obtain ⟨_, d', derives', _, rfl⟩ := (Document.read_iff ..).mp success'
  rw [derives.unique derives']

end Schedule.Grammar
