import Schedule.Proofs.Grammar
import Schedule.Proofs.TokenKinds

/-! # How parts of a schedule begin

A literal begins with `%`, a sign, a number or a weekday, an argument with one of these, with `!` or
with a name. So neither a slash nor a comma can begin what follows a literal and its comma, which
is why one token of lookahead is enough to read a schedule.
-/

namespace Schedule.Grammar

/-- A token with which an end of a literal can begin. -/
def OpensEnd (t : Token) : Prop :=
  t.value = "-" ∨ t.isNumber = true ∨ ∃ day, t.weekday? = some day

/-- A token with which a literal can begin, its `!` apart. -/
def OpensLiteral (t : Token) : Prop :=
  t.value = "%" ∨ OpensEnd t

variable {t : Token}

theorem isMark_of_value {value : String} (same : t.value = value)
    (listed : value ∈ ["(", ")", "-", ",", "!", "/", "%"]) : t.isMark = true :=
  (Token.isMark_iff t).mpr (same ▸ listed)

/-- Marks are no numbers and so never overlong. -/
theorem readable_of_marks {ts : List Token} {value : String}
    (marks : ∀ t ∈ ts, t.value = value)
    (listed : value ∈ ["(", ")", "-", ",", "!", "/", "%"]) : Readable ts := by
  intro t member number
  rw [(Token.kinds_of_isMark (isMark_of_value (marks t member) listed)).1] at number
  contradiction

/-- The only mark with which an end can begin is the sign. -/
theorem OpensEnd.value_of_isMark (opens : OpensEnd t) (mark : t.isMark = true) : t.value = "-" := by
  obtain ⟨notNumber, notWeekday, _⟩ := Token.kinds_of_isMark mark
  rcases opens with sign | number | ⟨day, spelt⟩
  · exact sign
  · rw [notNumber] at number
    contradiction
  · rw [notWeekday] at spelt
    contradiction

theorem OpensEnd.value_ne (opens : OpensEnd t) {value : String}
    (listed : value ∈ ["(", ")", ",", "!", "/", "%"]) : t.value ≠ value := by
  intro same
  have sign := opens.value_of_isMark (isMark_of_value same (by
    simp only [List.mem_cons] at listed ⊢
    tauto))
  rw [← same, sign] at listed
  revert listed
  decide

theorem OpensLiteral.value_ne (opens : OpensLiteral t) {value : String}
    (listed : value ∈ ["(", ")", ",", "!", "/"]) : t.value ≠ value := by
  rcases opens with percent | opens
  · rintro rfl
    rw [percent] at listed
    revert listed
    decide
  · apply opens.value_ne
    simp only [List.mem_cons] at listed ⊢
    tauto

theorem OpensLiteral.isName (opens : OpensLiteral t) : t.isName = false := by
  rcases opens with percent | sign | number | ⟨day, spelt⟩
  · exact (Token.kinds_of_isMark (isMark_of_value percent (by decide))).2.2
  · exact (Token.kinds_of_isMark (isMark_of_value sign (by decide))).2.2
  · exact Token.isName_of_isNumber number
  · exact Token.isName_of_weekday? spelt

theorem value_ne_of_isName (name : t.isName = true) {value : String}
    (listed : value ∈ ["(", ")", "-", ",", "!", "/", "%"]) : t.value ≠ value := by
  intro same
  rw [(Token.kinds_of_isMark (isMark_of_value same listed)).2.2] at name
  contradiction

namespace Signed

theorem tokens_eq (s : Signed) : ∃ more, s.tokens = s.first :: more := by
  cases s <;> exact ⟨_, rfl⟩

theorem opens {s : Signed} (valid : s.Valid) : s.first.value = "-" ∨ s.first.isNumber = true := by
  cases s with
  | plain digits => exact .inr valid.1
  | minus sign digits => exact .inl valid.1

end Signed

namespace End

theorem tokens_eq (e : End) : ∃ more, e.tokens = e.first :: more := by
  cases e with
  | weekday word day => exact ⟨_, rfl⟩
  | number value => exact value.tokens_eq
  | date month slash day =>
    obtain ⟨more, same⟩ := month.tokens_eq
    exact ⟨more ++ slash :: day.tokens, by simp only [tokens, same, first, List.cons_append]⟩

theorem opens {e : End} (valid : e.Valid) : OpensEnd e.first := by
  cases e with
  | weekday word day => exact .inr (.inr ⟨day, valid⟩)
  | number value => exact (Signed.opens valid).imp_right .inl
  | date month slash day => exact (Signed.opens valid.1).imp_right .inl

end End

namespace Form

theorem tokens_eq (f : Form) : ∃ more, f.tokens = f.first :: more := by
  cases f with
  | wildcard percent modulus => exact ⟨_, rfl⟩
  | ends low high modulus =>
    obtain ⟨more, same⟩ := low.tokens_eq
    exact ⟨more ++ (marked End.tokens high ++ marked Signed.tokens modulus),
      by simp only [tokens, same, first, List.cons_append]⟩

theorem opens {f : Form} (valid : f.Valid) : OpensLiteral f.first := by
  cases f with
  | wildcard percent modulus => exact .inl valid.1
  | ends low high modulus => exact .inr (End.opens valid.1)

/-- Only the next token decides whether a literal is greedy, so nothing beyond the closing
parenthesis does. -/
theorem greedy_closing (f : Form) (between : List Token) (closing : Token) (after : List Token) :
    f.Greedy (between ++ closing :: after) ↔ f.Greedy (between ++ [closing]) := by
  rcases f with ⟨_, _ | _⟩ | ⟨_, _ | _, _ | _⟩ <;> cases between <;>
    simp only [Greedy, ahead_cons, List.nil_append, List.cons_append]

end Form

namespace Arguments

/-- What follows the arguments of an expression begins with no slash and, unlike the arguments
themselves, with no comma. -/
theorem ahead {a : Arguments} (valid : a.Valid) {closing : Token} (closes : closing.value = ")")
    (after : List Token) :
    Ahead (fun t => t.value ≠ "/" ∧ t.value ≠ ",") (a.tokens ++ closing :: after) := by
  cases a with
  | nil => simp [tokens, closes]
  | literal bang form comma rest =>
    obtain ⟨bangs, formed, _⟩ := valid
    cases bang with
    | some mark => simp [tokens, bangs mark rfl]
    | none =>
      obtain ⟨more, same⟩ := form.tokens_eq
      simp only [tokens, same, Option.toList_none, List.nil_append, List.cons_append, ahead_cons]
      exact ⟨(Form.opens formed).value_ne (by decide), (Form.opens formed).value_ne (by decide)⟩
  | nested name opening inner closing comma rest =>
    simp only [tokens, List.cons_append, ahead_cons]
    exact ⟨value_ne_of_isName valid.1 (by decide), value_ne_of_isName valid.1 (by decide)⟩

/-- No slash follows an argument, with a comma or without. -/
theorem ahead_comma {a : Arguments} (valid : a.Valid) {comma : Option Token}
    (commas : ∀ mark ∈ comma, mark.value = ",") {closing : Token}
    (closes : closing.value = ")") (after : List Token) :
    Ahead (fun t => t.value ≠ "/") (comma.toList ++ (a.tokens ++ closing :: after)) := by
  cases comma with
  | some mark => simp [commas mark rfl]
  | none => exact fun t first => (ahead valid closes after t first).1

end Arguments

end Schedule.Grammar
