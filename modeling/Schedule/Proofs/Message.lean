import Schedule.Proofs.Failure
import Schedule.Proofs.Printing
import Schedule.Proofs.Reading.Onward
import Schedule.Proofs.RuleGroup.Interleaving
import Schedule.Proofs.RuleGroup.Sound

/-! # Messages are single lines

All that the message of a mistake may quote of a text is the name of an expression. What stops the
reading quotes nothing; what is wrong with a tree quotes at most a name in the tree, which has no
line breaks in it. So the message of whatever is wrong with a text is a single line.
-/

namespace Schedule

namespace Fault

/-- The name of an expression that the message quotes. -/
def name? : Fault → Option String
  | unknownExpression name | nestedExpression name => some name
  | _ => none

/-- What the message quotes, if anything, is a name. -/
def QuotesName (fault : Fault) : Prop :=
  ∀ name ∈ fault.name?, (Token.mk 0 name).isName = true

variable {fault : Fault} {name : String}

theorem quotesName_of_none (quotes : fault.name? = none) : fault.QuotesName := by
  simp [QuotesName, quotes]

/-- A name has no line break in it. -/
theorem newline_not_mem_name (named : (Token.mk 0 name).isName = true) : '\n' ∉ name.toList := by
  simp only [Token.isName, Bool.and_eq_true] at named
  intro member
  have word : (Grammar.bare name).IsWord := Grammar.isWord_of_isIdentifier named.1
  have notBlank := (word.2 '\n' member).1
  simp [isBlank] at notBlank

theorem newline_not_mem_message (quotes : fault.QuotesName) : '\n' ∉ fault.message.toList := by
  cases fault with
  | unknownExpression name =>
    have inName := newline_not_mem_name (quotes name rfl)
    have inWords : '\n' ∉ "Unknown expression ".toList := by decide +kernel
    change '\n' ∉ ("Unknown expression " ++ name).toList
    rw [String.toList_append, List.mem_append, not_or]
    exact ⟨inWords, inName⟩
  | nestedExpression name =>
    have inName := newline_not_mem_name (quotes name rfl)
    have inWords :
        '\n' ∉ "Invalid argument. Expressions cannot be nested inside ".toList := by
      decide +kernel
    change '\n' ∉ ("Invalid argument. Expressions cannot be nested inside " ++ name ++ ".").toList
    rw [String.toList_append, String.toList_append, List.mem_append, List.mem_append, not_or,
      not_or]
    exact ⟨⟨inWords, inName⟩, by decide⟩
  | belowLeast field => cases field <;> decide +kernel
  | aboveGreatest field => cases field <;> decide +kernel
  | _ => decide +kernel

end Fault

/-! ### What stops the reading -/

/-- The failure quotes nothing. -/
def Failure.Unquoting : Failure → Prop
  | mistake m => m.fault.name? = none
  | overlong _ => True

theorem Failure.InLiteral.unquoting {failure : Failure} (literal : failure.InLiteral) :
    failure.Unquoting := by
  cases failure with
  | overlong numeral => trivial
  | mistake m =>
    obtain ⟨fault, token⟩ := m
    simp only [InLiteral, List.mem_cons, List.not_mem_nil, or_false] at literal
    rcases literal with rfl | rfl | rfl | rfl | rfl | rfl | rfl <;> rfl

namespace Reading

open Grammar

variable {last name : Token} {ts : List Token} {failure : Failure} {budget : Nat}
variable {nested : Token → List Token → Except Failure (Read Expression)}

theorem argument_unquoting
    (nests : ∀ name ts failure, nested name ts = .error failure → failure.Unquoting)
    (failed : argument last nested ts = .error failure) : failure.Unquoting := by
  cases argumentBegins ts with
  | ranOut early =>
    rw [early] at failed
    cases failed
    rfl
  | closing closes => simp [argument, closes] at failed
  | refused fault blamed listed fails =>
    have stays := fails last nested []
    rw [List.append_nil, failed] at stays
    cases stays
    rcases List.mem_pair.mp listed with rfl | rfl <;> rfl
  | nested named =>
    rw [argument_nested _ _ named] at failed
    exact nests _ _ _ (map_eq_error_iff.mp failed)
  | literal bangs begins reads =>
    have stays := reads last nested []
    rw [List.append_nil, List.append_nil, failed] at stays
    exact (literal_stops (map_eq_error_iff.mp stays.symm)).literal.unquoting

theorem arguments_unquoting
    (nests : ∀ name ts failure, nested name ts = .error failure → failure.Unquoting)
    (failed : arguments last name nested ts = .error failure) : failure.Unquoting := by
  induction ts using arguments.induct last nested with
  | case1 =>
    rw [arguments] at failed
    cases failed
    rfl
  | case2 t rest closes =>
    rw [arguments, if_pos closes] at failed
    contradiction
  | case3 t rest notClosing cause found =>
    rw [arguments, if_neg notClosing, found] at failed
    cases failed
    exact argument_unquoting nests found
  | case4 t rest notClosing node after found shorter ih =>
    rw [arguments_next notClosing found shorter] at failed
    exact ih (map_eq_error_iff.mp failed)
  | case5 t rest notClosing node after found longer =>
    rw [arguments, if_neg notClosing, found] at failed
    dsimp only at failed
    rw [if_neg longer] at failed
    cases failed
    rfl

/-- The induction is on the budget. -/
theorem expression_unquoting (failed : expression last budget name ts = .error failure) :
    failure.Unquoting := by
  induction budget generalizing name ts failure with
  | zero =>
    cases failed
    rfl
  | succ budget ih =>
    cases ts with
    | nil =>
      cases failed
      rfl
    | cons mark body =>
      dsimp only [expression] at failed
      split at failed
      · exact arguments_unquoting (fun _ _ _ => ih) (map_eq_error_iff.mp failed)
      · cases failed
        rfl

theorem expressions_unquoting {begun : Bool}
    (failed : expressions last budget begun ts = .error failure) : failure.Unquoting := by
  induction begun, ts using expressions.induct last budget with
  | case1 begun =>
    rw [expressions] at failed
    contradiction
  | case2 begun t rest named cause found =>
    rw [expressions, if_pos named, found] at failed
    cases failed
    exact expression_unquoting found
  | case3 begun t rest named e after found shorter ih =>
    rw [expressions_next named found shorter] at failed
    exact ih (map_eq_error_iff.mp failed)
  | case4 begun t rest named e after found longer =>
    rw [expressions, if_pos named, found] at failed
    dsimp only at failed
    rw [if_neg longer] at failed
    cases failed
    rfl
  | case5 begun t rest notName comma ih =>
    rw [expressions, if_neg notName, if_pos comma] at failed
    exact ih failed
  | case6 begun t rest notName notComma =>
    rw [expressions, if_neg notName, if_neg notComma] at failed
    cases failed
    rfl

end Reading

/-! ### What is wrong with a tree -/

variable {field : Field} {l : Literal} {fault : Fault} {m : Mistake} {name : String} {node : Node}
variable {nodes part : List Node} {anchor : Token}

theorem name?_of_check {span : Span} (failed : span.check field = .error fault) :
    fault.name? = none := by
  unfold Span.check at failed
  split_ifs at failed <;> cases failed <;> rfl

theorem name?_of_checkModulus (failed : checkModulus l = .error fault) : fault.name? = none := by
  unfold checkModulus at failed
  split at failed
  · split at failed
    · cases failed
      rfl
    · contradiction
  · contradiction

theorem name?_of_ofLiteral (failed : Span.ofLiteral field l = .error fault) :
    fault.name? = none := by
  unfold Span.ofLiteral at failed
  split at failed
  · contradiction
  · cases failed
    rfl
  · split at failed
    · contradiction
    · cases failed
      rfl
  · contradiction
  · split at failed <;> contradiction

theorem name?_of_finish {low high : MonthDay} {modulus : Option Int}
    (failed : ((do checkModulus l; .ok (dateRange low high modulus)) : Except Fault Range) =
      .error fault) : fault.name? = none := by
  rcases bind_eq_error_iff.mp failed with found | ⟨_, _, none⟩
  · exact name?_of_checkModulus found
  · contradiction

/-- What is wrong with a literal is told without quoting it. -/
theorem name?_of_normalize (failed : normalize field l = .error fault) : fault.name? = none := by
  unfold normalize at failed
  split at failed
  · unfold normalizeDate at failed
    -- whatever the operand gives, the modulus is checked in the same way
    split at failed
    · exact name?_of_finish failed
    · exact name?_of_finish failed
    · cases failed
      rfl
  · unfold normalizeNumber at failed
    rcases bind_eq_error_iff.mp failed with operand | ⟨_, _, tail⟩
    · exact name?_of_ofLiteral operand
    · rcases bind_eq_error_iff.mp tail with bounds | ⟨_, _, tail⟩
      · exact name?_of_check bounds
      · rcases bind_eq_error_iff.mp tail with modulus | ⟨_, _, none⟩
        · exact name?_of_checkModulus modulus
        · contradiction

theorem quotesName_of_entryOf (named : (Token.mk 0 name).isName = true)
    (failed : RuleGroup.entryOf field name node = .error m) : m.fault.QuotesName := by
  cases node with
  | expression inner first arguments =>
    cases failed
    rintro _ ⟨⟩
    exact named
  | literal l =>
    rw [RuleGroup.entryOf] at failed
    split at failed
    · contradiction
    · next fault found =>
      cases failed
      exact Fault.quotesName_of_none (name?_of_normalize found)

theorem quotesName_of_contribution (valid : node.WellFormed)
    (failed : RuleGroup.contribution node = .error m) : m.fault.QuotesName := by
  cases node with
  | literal l =>
    cases failed
    exact Fault.quotesName_of_none rfl
  | expression name first arguments =>
    rw [RuleGroup.contribution] at failed
    split at failed
    · cases failed
      exact Fault.quotesName_of_none rfl
    · split at failed
      · cases failed
        rintro _ ⟨⟩
        exact valid.1
      · obtain ⟨_, _, found⟩ := exists_of_mapM_eq_error (map_eq_error_iff.mp failed)
        exact quotesName_of_entryOf valid.1 found

theorem quotesName_of_compile (valid : Node.WellFormedAll nodes)
    (failed : RuleGroup.compile anchor nodes = .error m) : m.fault.QuotesName := by
  rw [RuleGroup.compile_eq] at failed
  split at failed
  · cases failed
    exact Fault.quotesName_of_none rfl
  · rw [RuleGroup.foldlM_addExpression, map_eq_error_iff, map_eq_error_iff] at failed
    obtain ⟨node, listed, found⟩ := exists_of_mapM_eq_error failed
    exact quotesName_of_contribution ((Node.wellFormedAll_iff _).mp valid node listed) found

/-- What is wrong with a document is wrong with a part of it, unless there is nothing in it. -/
theorem part_of_compileNodes {es : List Expression}
    (failed : compileNodes (es.map Expression.toNode) = .error m) :
    m.fault = .noRules ∨ ∃ anchor part, Part (es.map Expression.toNode) part ∧
      RuleGroup.compile anchor part = .error m := by
  rcases compileNodes_eq_error_iff.mp failed with ⟨_, rfl⟩ | ⟨before, e, after, split, _, found⟩ |
    ⟨_, _, joint⟩
  · exact .inl rfl
  · have listed : e ∈ es := by
      refine List.mem_of_mem_filter (p := Expression.isGroup) ?_
      rw [split]
      exact List.mem_append_right _ List.mem_cons_self
    exact .inr ⟨_, _, .arguments (List.mem_map_of_mem listed), found⟩
  · refine .inr ⟨⟨0, ""⟩, _, .rules, ?_⟩
    rw [filter_isRule_toNode]
    exact joint _

/-- The message of what is wrong with a text quotes nothing but a name. -/
theorem quotesName_of_mistake {config : Config} {text : String}
    (failed : compile config text = .error (.mistake m)) : m.fault.QuotesName := by
  rcases compile_eq_error_iff.mp failed with unread | ⟨document, read, _, wrong, ⟨⟩⟩
  · have unquoting : (Failure.mistake m).Unquoting := Reading.expressions_unquoting unread
    exact Fault.quotesName_of_none unquoting
  · rcases part_of_compileNodes wrong with nothing | ⟨anchor, part, isPart, found⟩
    · exact Fault.quotesName_of_none (nothing ▸ rfl)
    · exact quotesName_of_compile
        (isPart.wellFormed (Grammar.wellFormed_of_document read)) found

end Schedule
