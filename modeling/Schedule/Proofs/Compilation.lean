import Schedule.Compilation
import Schedule.Proofs.RuleGroup.Entries

/-! # Where compiled ranges come from

A text compiles if it can be read and the document compiles. Then every range of every group is the
range of a literal somewhere in the document, or the zero to which a time field is pinned.
-/

namespace Schedule

variable {config : Config} {text : String} {groups : List RuleGroup} {group : RuleGroup}
variable {field : Field} {exclude : Bool} {range : Range}

theorem compile_eq_ok_iff :
    compile config text = .ok groups ↔ ∃ document,
      Reading.document config.maxDepth (tokenize text) = .ok document ∧
        compileNodes (document.map Expression.toNode) = .ok groups := by
  simp only [compile, bind_eq_ok_iff, compileDocument, mapError_eq_ok_iff]

/-- Every compiled group is compiled from a part of the document. -/
theorem of_compile (success : compile config text = .ok groups) (member : group ∈ groups) :
    ∃ document anchor part, Reading.document config.maxDepth (tokenize text) = .ok document ∧
      Part (document.map Expression.toNode) part ∧ RuleGroup.compile anchor part = .ok group := by
  obtain ⟨document, read, compiled⟩ := compile_eq_ok_iff.mp success
  obtain ⟨anchor, part, isPart, found⟩ := (of_compileNodes compiled).2 group member
  exact ⟨document, anchor, part, read, isPart, found⟩

/-- Every compiled range is that of a literal, but for the pinned zeros. -/
theorem normalize_of_compile (success : compile config text = .ok groups) (member : group ∈ groups)
    (inside : range ∈ group.ranges field exclude) :
    range = .single 0 ∨ ∃ l, normalize field l = .ok range := by
  obtain ⟨_, _, _, _, _, found⟩ := of_compile success member
  rcases RuleGroup.of_mem_ranges found inside with pinned | ⟨_, _, l, _, normal, _⟩
  · exact .inl pinned.2
  · exact .inr ⟨l, normal⟩

end Schedule
