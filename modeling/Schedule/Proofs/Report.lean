import Schedule.Proofs.Diagnostic
import Schedule.Proofs.Failure
import Schedule.Proofs.TokenPlace

/-! # Reports point into their text

A mistake is reported at a token of the very text that was compiled, and the report shows this text
around the token and a caret under the token's first character. Only a text without any token has
no token to blame; then the empty one at its start is blamed for the lack of rules.
-/

namespace Schedule

variable {config : Config} {text : String} {m : Mistake} {t : Token}

theorem Config.window_nonneg (valid : config.problems = []) :
    0 ≤ config.contextBefore ∧ 0 ≤ config.contextAfter := by
  simp only [problems, List.append_eq_nil_iff, ite_eq_right_iff, reduceCtorEq, imp_false,
    Int.not_lt] at valid
  exact ⟨valid.1.1.2, valid.1.2⟩

/-- A token that stands in a text is what the text has at its place. -/
theorem stretch_token (stands : t.StandsIn text.toList) :
    stretch text t.index (t.index + t.value.length) = t.value := by
  rw [stretch, stands.drop_take, String.ofList_toList]

/-- The report is one of a mistake in the text, at a token of the text and where the token
stands. -/
structure Report.Anchored (report : Report) (config : Config) (text : String) (t : Token) :
    Prop where
  source : report.source = text
  token : report.token = some t
  position : report.position = t.index
  /-- The token is one of the text, if the text has any. -/
  listed : tokenize text ≠ [] → t ∈ tokenize text
  empty : t = ⟨0, ""⟩ ↔ tokenize text = []
  noRules : tokenize text = [] → report.message = "No rules in schedule."
  spelt : stretch text t.index (t.index + t.value.length) = t.value
  /-- Below the message stands what the window cuts out of the text, and below that one caret. -/
  shown : ∃ column after : Nat, (column : Int) = min t.index config.contextBefore ∧
    report.text = report.message ++
      "\n    " ++ stretch text (max (t.index - config.contextBefore) 0)
        (min (t.index + t.value.length + config.contextAfter) text.length) ++
      "\n    " ++ caretLine column after

theorem standsIn_of_mistake (failed : compile config text = .error (.mistake m)) :
    m.token.StandsIn text.toList := by
  obtain ⟨listed, none⟩ := token_of_mistake failed
  by_cases empty : tokenize text = []
  · rw [none empty]
    exact Token.standsIn_empty _
  · exact (cutFrom_of_mem_tokenize (listed empty)).stands

/-- Every mistake in a text is reported where it is, under any valid configuration. -/
theorem report_anchored (valid : config.problems = [])
    (failed : compile config text = .error (.mistake m)) :
    (m.report text config.window).message = m.fault.message ∧
      (m.report text config.window).Anchored config text m.token := by
  obtain ⟨back, ahead⟩ := Config.window_nonneg valid
  obtain ⟨listed, none⟩ := token_of_mistake failed
  have stands := standsIn_of_mistake failed
  have inside := stands.index_nonneg
  have within : m.token.index + m.token.value.length ≤ text.length := by
    rw [← String.length_toList]
    exact stands.index_add_length_le
  have before : m.token.index ≤ text.length := by omega
  refine ⟨rfl, rfl, rfl, rfl, listed, ⟨fun same => ?_, fun empty => by rw [none empty]⟩,
    fun empty => by rw [none empty]; rfl, stretch_token stands, ?_⟩
  · by_contra filled
    exact empty_not_mem_tokenize text 0 (same ▸ listed filled)
  · refine ⟨_, _, ?_, Diagnostic.render_eq m.fault.message back ahead inside before (by omega)⟩
    rw [Int.toNat_of_nonneg]
    · rfl
    · exact Int.le_min.mpr ⟨inside, back⟩

/-- The report of a mistake in the middle of a text shows as much of it as the window allows. -/
theorem report_anchored_unknown :
    let config : Config := { contextBefore := 4, contextAfter := 3 }
    let m : Mistake := ⟨.unknownExpression "weekday", ⟨9, "weekday"⟩⟩
    let text := "hour(9), weekday(1) minute(5)"
    config.problems = [] ∧ compile config text = .error (.mistake m) ∧
      (m.report text config.window).message = m.fault.message ∧
      (m.report text config.window).Anchored config text m.token := by
  intro config m text
  have valid : config.problems = [] := by decide +kernel
  have failed : compile config text = .error (.mistake m) := by decide +kernel
  exact ⟨valid, failed, report_anchored valid failed⟩

example :
    (Mistake.report ⟨.unknownExpression "weekday", ⟨9, "weekday"⟩⟩ "hour(9), weekday(1) minute(5)"
      ⟨4, 3⟩).text = "Unknown expression weekday\n    9), weekday(1)\n        ^         " := by
  decide +kernel

end Schedule
