import Schedule.Proofs.Reading.Onward

/-! # The parenthesis that is missing

Reading keeps no stack of the parentheses that are open: the expression that is being read is blamed
if the tokens run out. Whatever it has read of its arguments by then is balanced, so that the blamed
one is the last whose opening parenthesis has no match.
-/

namespace Schedule

/-- The token is a parenthesis. -/
def Token.IsParenthesis (t : Token) : Prop :=
  t.value = "(" ∨ t.value = ")"

/-- Each parenthesis among the tokens has its match among them. -/
inductive Balanced : List Token → Prop
  | nil : Balanced []
  | other {t : Token} {ts : List Token} (other : ¬ t.IsParenthesis) (rest : Balanced ts) :
      Balanced (t :: ts)
  | pair {opening closing : Token} {inner ts : List Token} (opens : opening.value = "(")
      (inside : Balanced inner) (closes : closing.value = ")") (rest : Balanced ts) :
      Balanced (opening :: (inner ++ closing :: ts))

/-- An opening parenthesis has its match among the tokens after it: a closing one, with only
balanced ones between. -/
def HasMatch (after : List Token) : Prop :=
  ∃ inner closing rest, after = inner ++ closing :: rest ∧ Balanced inner ∧ closing.value = ")"

/-- The name opens the last expression that is still open behind the tokens: its opening
parenthesis has no match, and every later one has. -/
def InnermostOpen (name : Token) (ts : List Token) : Prop :=
  ∃ before opening after, ts = before ++ name :: opening :: after ∧ name.isName = true ∧
    opening.value = "(" ∧ ¬ HasMatch after ∧
    ∀ between later rest, after = between ++ later :: rest → later.value = "(" → HasMatch rest

variable {ts us : List Token} {t name : Token}

/-! ### Balanced tokens -/

namespace Balanced

theorem append (left : Balanced ts) (right : Balanced us) : Balanced (ts ++ us) := by
  induction left with
  | nil => exact right
  | other other _ ih => exact .other other ih
  | pair opens inside closes _ _ ih =>
    rw [List.cons_append, List.append_assoc, List.cons_append]
    exact .pair opens inside closes ih

/-- Tokens without parentheses are balanced. -/
theorem of_others (others : ∀ t ∈ ts, ¬ t.IsParenthesis) : Balanced ts := by
  induction ts with
  | nil => exact .nil
  | cons t ts ih =>
    rw [List.forall_mem_cons] at others
    exact .other others.1 (ih others.2)

/-- How many more parentheses are opened than closed. -/
def excess : List Token → Int
  | [] => 0
  | t :: ts => (if t.value = "(" then 1 else if t.value = ")" then -1 else 0) + excess ts

theorem excess_append (ts us : List Token) : excess (ts ++ us) = excess ts + excess us := by
  induction ts with
  | nil => simp [excess]
  | cons t ts ih => simp [excess, ih, Int.add_assoc]

theorem excess_opening {opening : Token} (opens : opening.value = "(") (ts : List Token) :
    excess (opening :: ts) = 1 + excess ts := by
  rw [excess, if_pos opens]

theorem excess_closing {closing : Token} (closes : closing.value = ")") (ts : List Token) :
    excess (closing :: ts) = -1 + excess ts := by
  rw [excess, closes]
  rfl

theorem excess_other (other : ¬ t.IsParenthesis) (ts : List Token) :
    excess (t :: ts) = excess ts := by
  rw [Token.IsParenthesis, not_or] at other
  rw [excess, if_neg other.1, if_neg other.2, Int.zero_add]

theorem excess_eq_zero (balanced : Balanced ts) : excess ts = 0 := by
  induction balanced with
  | nil => rfl
  | other other _ ih => rw [excess_other other, ih]
  | pair opens _ closes _ ihInside ihRest =>
    rw [excess_opening opens, excess_append, excess_closing closes, ihInside, ihRest]
    rfl

/-- Balanced tokens never close more parentheses than they have opened. -/
theorem excess_nonneg (balanced : Balanced ts) {before after : List Token}
    (split : ts = before ++ after) : 0 ≤ excess before := by
  induction balanced generalizing before after with
  | nil =>
    obtain ⟨rfl, _⟩ := List.append_eq_nil_iff.mp split.symm
    exact Int.le_refl 0
  | other other _ ih =>
    cases before with
    | nil => exact Int.le_refl 0
    | cons s before =>
      obtain ⟨rfl, same⟩ := List.cons.inj split
      rw [excess_other other]
      exact ih same
  | @pair opening closing inner ts opens inside closes _ ihInside ihRest =>
    cases before with
    | nil => exact Int.le_refl 0
    | cons s before =>
      obtain ⟨rfl, same⟩ := List.cons.inj split
      rw [excess_opening opens]
      rcases List.append_eq_append_iff.mp same with ⟨more, rfl, beyond⟩ | ⟨more, rfl, _⟩
      · rw [excess_append, inside.excess_eq_zero]
        cases more with
        | nil => decide
        | cons s more =>
          obtain ⟨rfl, tail⟩ := List.cons.inj beyond
          have within := ihRest tail
          rw [excess_closing closes]
          omega
      · have within := ihInside rfl
        omega

/-- A parenthesis in front of balanced tokens has no match among them. -/
theorem not_hasMatch (balanced : Balanced ts) : ¬ HasMatch ts := by
  rintro ⟨inner, closing, rest, rfl, inside, closes⟩
  have split : inner ++ closing :: rest = inner ++ [closing] ++ rest := by simp
  have within := balanced.excess_nonneg split
  rw [excess_append, inside.excess_eq_zero, excess_closing closes] at within
  revert within
  decide

end Balanced

theorem HasMatch.append (matched : HasMatch ts) (us : List Token) : HasMatch (ts ++ us) := by
  obtain ⟨inner, closing, rest, rfl, inside, closes⟩ := matched
  exact ⟨inner, closing, rest ++ us, by simp, inside, closes⟩

/-- Every opening parenthesis among balanced tokens has its match. -/
theorem Balanced.hasMatch (balanced : Balanced ts) {before rest : List Token} {opening : Token}
    (split : ts = before ++ opening :: rest) (opens : opening.value = "(") : HasMatch rest := by
  induction balanced generalizing before rest with
  | nil => simp at split
  | other other _ ih =>
    cases before with
    | nil =>
      obtain ⟨rfl, _⟩ := List.cons.inj split
      exact absurd (.inl opens) other
    | cons s before => exact ih (List.cons.inj split).2
  | @pair first closing inner ts _ inside closes _ ihInside ihRest =>
    cases before with
    | nil =>
      obtain ⟨rfl, rfl⟩ := List.cons.inj split
      exact ⟨inner, closing, ts, rfl, inside, closes⟩
    | cons s before =>
      rcases List.append_eq_append_iff.mp (List.cons.inj split).2 with
        ⟨more, rfl, same⟩ | ⟨more, rfl, same⟩
      · cases more with
        | nil =>
          obtain ⟨rfl, _⟩ := List.cons.inj same
          rw [opens] at closes
          contradiction
        | cons s more => exact ihRest (List.cons.inj same).2
      · cases more with
        | nil =>
          obtain ⟨rfl, _⟩ := List.cons.inj same
          rw [opens] at closes
          contradiction
        | cons s more =>
          obtain ⟨rfl, rfl⟩ := List.cons.inj same
          exact (ihInside rfl).append _

/-! ### What is read is balanced -/

namespace Grammar

theorem not_isParenthesis_of_value {value : String} (same : t.value = value)
    (listed : value ∈ ["-", ",", "!", "/", "%"]) : ¬ t.IsParenthesis := by
  simp only [List.mem_cons, List.not_mem_nil, or_false] at listed
  rw [Token.IsParenthesis, same]
  rcases listed with rfl | rfl | rfl | rfl | rfl <;> decide

theorem OpensEnd.not_isParenthesis (opens : OpensEnd t) : ¬ t.IsParenthesis :=
  not_or.mpr ⟨opens.value_ne (by decide), opens.value_ne (by decide)⟩

theorem not_isParenthesis_of_isName (named : t.isName = true) : ¬ t.IsParenthesis :=
  not_or.mpr ⟨value_ne_of_isName named (by decide), value_ne_of_isName named (by decide)⟩

/-- The mark and the part that it introduces, if it is there, have no parentheses. -/
theorem marked_others {α : Type} {tokens : α → List Token} {part : Option (Token × α)}
    (value : String) (listed : value ∈ ["-", ",", "!", "/", "%"])
    (others : ∀ p ∈ part, p.1.value = value ∧ ∀ t ∈ tokens p.2, ¬ t.IsParenthesis) :
    ∀ t ∈ marked tokens part, ¬ t.IsParenthesis := by
  cases part with
  | none => simp [marked]
  | some p =>
    obtain ⟨marks, inside⟩ := others p rfl
    exact List.forall_mem_cons.mpr ⟨not_isParenthesis_of_value marks listed, inside⟩

theorem option_others {mark : Option Token} {value : String}
    (listed : value ∈ ["-", ",", "!", "/", "%"]) (marks : ∀ t ∈ mark, t.value = value) :
    ∀ t ∈ mark.toList, ¬ t.IsParenthesis :=
  fun t member => not_isParenthesis_of_value (marks t (Option.mem_toList.mp member)) listed

theorem Signed.others {s : Signed} (valid : s.Valid) : ∀ t ∈ s.tokens, ¬ t.IsParenthesis := by
  have digits {t : Token} (number : IsDigits t) : ¬ t.IsParenthesis :=
    OpensEnd.not_isParenthesis (.inr (.inl number.1))
  cases s with
  | plain t => simpa [tokens] using digits valid
  | minus sign t =>
    simpa [tokens] using
      And.intro (not_isParenthesis_of_value valid.1 (by decide)) (digits valid.2)

theorem End.others {e : End} (valid : e.Valid) : ∀ t ∈ e.tokens, ¬ t.IsParenthesis := by
  cases e with
  | weekday word day => simpa [tokens] using OpensEnd.not_isParenthesis (.inr (.inr ⟨day, valid⟩))
  | number s => exact Signed.others valid
  | date month slash day =>
    obtain ⟨months, slashed, days, _⟩ := valid
    refine List.forall_mem_append.mpr ⟨Signed.others months, List.forall_mem_cons.mpr ⟨?_, ?_⟩⟩
    · exact not_isParenthesis_of_value slashed (by decide)
    · exact Signed.others days

theorem Form.others {f : Form} (valid : f.Valid) : ∀ t ∈ f.tokens, ¬ t.IsParenthesis := by
  cases f with
  | wildcard percent part =>
    obtain ⟨percents, modulus⟩ := valid
    refine List.forall_mem_cons.mpr ⟨not_isParenthesis_of_value percents (by decide), ?_⟩
    cases part with
    | none => simp [modulusTokens]
    | some part =>
      obtain ⟨marks, value⟩ := modulus part rfl
      exact List.forall_mem_append.mpr ⟨option_others (by decide) marks, Signed.others value⟩
  | ends low high part =>
    obtain ⟨lows, highs, modulus⟩ := valid
    refine List.forall_mem_append.mpr ⟨End.others lows, List.forall_mem_append.mpr ⟨?_, ?_⟩⟩
    · refine marked_others "-" (by decide) fun p member => ?_
      exact ⟨(highs p member).1, End.others (highs p member).2.1⟩
    · refine marked_others "%" (by decide) fun p member => ?_
      exact ⟨(modulus p member).1, Signed.others (modulus p member).2⟩

theorem Arguments.balanced {a : Arguments} (valid : a.Valid) : Balanced a.tokens := by
  induction a with
  | nil => exact .nil
  | literal bang form comma rest ih =>
    obtain ⟨bangs, formed, commas, valid⟩ := valid
    refine .append (.of_others (option_others (by decide) bangs)) ?_
    refine .append (.of_others (Form.others formed)) ?_
    exact .append (.of_others (option_others (by decide) commas)) (ih valid)
  | nested name opening inner closing comma rest ihInner ihRest =>
    obtain ⟨named, opens, inners, closes, commas, valid⟩ := valid
    refine .other (not_isParenthesis_of_isName named) (.pair opens (ihInner inners) closes ?_)
    exact .append (.of_others (option_others (by decide) commas)) (ihRest valid)

theorem Phrase.balanced {p : Phrase} (valid : p.Valid) : Balanced p.tokens :=
  .other (not_isParenthesis_of_isName valid.name)
    (.pair valid.opening (Arguments.balanced valid.inner) valid.closing .nil)

end Grammar

/-! ### The expression that is blamed -/

/-- The name opens an expression behind whose opening parenthesis all is balanced. -/
def OpensBalanced (name : Token) (ts : List Token) : Prop :=
  ∃ before opening after, ts = before ++ name :: opening :: after ∧ name.isName = true ∧
    opening.value = "(" ∧ Balanced after

theorem OpensBalanced.append_left (opens : OpensBalanced name ts) (taken : List Token) :
    OpensBalanced name (taken ++ ts) := by
  obtain ⟨before, opening, after, rfl, rest⟩ := opens
  exact ⟨taken ++ before, opening, after, by simp, rest⟩

theorem OpensBalanced.innermostOpen (opens : OpensBalanced name ts) : InnermostOpen name ts := by
  obtain ⟨before, opening, after, rfl, named, opens, balanced⟩ := opens
  exact ⟨before, opening, after, rfl, named, opens, balanced.not_hasMatch,
    fun _ _ _ split opens => balanced.hasMatch split opens⟩

namespace Reading

open Grammar

variable {last token : Token} {rest after : List Token} {budget : Nat}

/-- An argument that lacks a closing parenthesis is an expression. -/
theorem argument_missingClosing
    (failed : argument last (expression last budget) ts = blame .missingClosing token) :
    ∃ name rest, ts = name :: rest ∧ name.isName = true ∧
      expression last budget name rest = blame .missingClosing token := by
  cases argumentBegins ts with
  | ranOut early =>
    rw [early] at failed
    cases failed
  | closing closes => simp [argument, closes, blame] at failed
  | refused fault blamed listed fails =>
    have stays := fails last (expression last budget) []
    rw [List.append_nil, failed] at stays
    cases stays
    exact absurd listed (by decide)
  | @nested name rest named =>
    rw [argument_nested _ _ named] at failed
    exact ⟨name, rest, rfl, named, map_eq_error_iff.mp failed⟩
  | literal _ _ reads =>
    have stays := reads last (expression last budget) []
    rw [List.append_nil, List.append_nil, failed] at stays
    exact absurd (literal_stops (map_eq_error_iff.mp stays.symm)).literal
      (by simp [Failure.InLiteral])

/-- An argument takes balanced tokens, and so does the comma behind it. -/
theorem argument_balanced {node : Option Node} (notClosing : t.value ≠ ")")
    (found : argument last (expression last budget) (t :: ts) = .ok (node, after)) :
    ∃ taken, Balanced taken ∧ t :: ts = taken ++ skipComma after := by
  obtain ⟨comma, commas, skipped⟩ := exists_comma after
  have commaBalanced : Balanced comma.toList := .of_others (option_others (by decide) commas)
  rcases of_argument found with ⟨closing, _, same, closes, _⟩ |
    ⟨bang, form, bangs, formed, _, _, _, split⟩ | ⟨name, more, e, named, split, inside, _⟩
  · exact absurd closes ((List.cons.inj same).1 ▸ notClosing)
  · have bangBalanced : Balanced bang.toList := .of_others (option_others (by decide) bangs)
    have formBalanced : Balanced form.tokens := .of_others (Form.others formed)
    refine ⟨bang.toList ++ (form.tokens ++ comma.toList),
      bangBalanced.append (formBalanced.append commaBalanced), ?_⟩
    rw [split, List.append_assoc, List.append_assoc, ← skipped]
  · obtain ⟨p, valid, _, _, _, _, whole⟩ := Phrase.of_read budget named inside
    refine ⟨p.tokens ++ comma.toList, (Phrase.balanced valid).append commaBalanced, ?_⟩
    rw [split, whole, List.append_assoc, ← skipped]

/-- The reader of expressions blames the innermost one that is open. -/
def BlamesInnermost (nested : Token → List Token → Except Failure (Read Expression)) : Prop :=
  ∀ ⦃name ts token⦄, name.isName = true → nested name ts = blame .missingClosing token →
    OpensBalanced token (name :: ts)

/-- Arguments without end blame the expression that they belong to, if they are balanced, or one
among them. The induction is on the tokens: what has been read of them is balanced. -/
theorem arguments_missingClosing (nests : BlamesInnermost (expression last budget))
    (failed : arguments last name (expression last budget) ts = blame .missingClosing token) :
    token = name ∧ Balanced ts ∨ OpensBalanced token ts := by
  induction ts using arguments.induct last (expression last budget) with
  | case1 =>
    rw [arguments] at failed
    cases failed
    exact .inl ⟨rfl, .nil⟩
  | case2 t rest closes =>
    rw [arguments, if_pos closes] at failed
    contradiction
  | case3 t rest notClosing failure found =>
    rw [arguments, if_neg notClosing, found] at failed
    cases failed
    obtain ⟨word, more, split, named, inside⟩ := argument_missingClosing found
    rw [split]
    exact .inr (nests named inside)
  | case4 t rest notClosing node after found shorter ih =>
    rw [arguments_next notClosing found shorter] at failed
    obtain ⟨taken, balanced, split⟩ := argument_balanced notClosing found
    rw [split]
    rcases ih (map_eq_error_iff.mp failed) with ⟨same, others⟩ | inside
    · exact .inl ⟨same, balanced.append others⟩
    · exact .inr (inside.append_left taken)
  | case5 t rest notClosing node after found longer =>
    obtain ⟨taken, rfl, _⟩ := argument_again notClosing found
    have most := length_skipComma_le after
    simp only [List.length_cons, List.length_append] at longer
    omega

/-- The induction is on the budget. -/
theorem expression_missingClosing (budget : Nat) : BlamesInnermost (expression last budget) := by
  induction budget with
  | zero =>
    intro name ts token _ failed
    cases failed
  | succ budget ih =>
    intro name ts token named failed
    cases ts with
    | nil => cases failed
    | cons mark body =>
      dsimp only [expression] at failed
      split at failed
      · next opens =>
        rcases arguments_missingClosing ih (map_eq_error_iff.mp failed) with
          ⟨rfl, balanced⟩ | inside
        · exact ⟨[], mark, body, rfl, named, opens, balanced⟩
        · exact inside.append_left [name, mark]
      · cases failed

theorem expressions_missingClosing {begun : Bool}
    (failed : expressions last budget begun ts = blame .missingClosing token) :
    OpensBalanced token ts := by
  induction begun, ts using expressions.induct last budget with
  | case1 begun =>
    rw [expressions] at failed
    contradiction
  | case2 begun t rest named failure found =>
    rw [expressions, if_pos named, found] at failed
    cases failed
    exact expression_missingClosing budget named found
  | case3 begun t rest named e after found shorter ih =>
    rw [expressions_next named found shorter] at failed
    obtain ⟨taken, rfl, _⟩ := expression_again named found
    exact (ih (map_eq_error_iff.mp failed)).append_left (t :: taken)
  | case4 begun t rest named e after found longer =>
    obtain ⟨taken, rfl, _⟩ := expression_again named found
    simp only [List.length_cons, List.length_append] at longer
    omega
  | case5 begun t rest notName comma ih =>
    rw [expressions, if_neg notName, if_pos comma] at failed
    exact (ih failed).append_left [t]
  | case6 begun t rest notName notComma =>
    rw [expressions, if_neg notName, if_neg notComma] at failed
    cases failed

/-- Behind expressions that are read, an expression fails as it does by itself. -/
theorem expressions_append_of_error {begun : Bool} {es : List Expression} {failure : Failure}
    {last' : Token} {more : List Token} (named : name.isName = true)
    (success : expressions last budget begun ts = .ok es)
    (failed : expression last' budget name more = .error failure) :
    expressions last' budget begun (ts ++ name :: more) = .error failure := by
  induction begun, ts using expressions.induct last budget generalizing es with
  | case1 begun => rw [List.nil_append, expressions, if_pos named, failed]
  | case2 begun t rest starts failure found =>
    rw [expressions, if_pos starts, found] at success
    contradiction
  | case3 begun t rest starts e after found shorter ih =>
    rw [expressions_next starts found shorter] at success
    obtain ⟨others, read, _⟩ := map_eq_ok_iff.mp success
    obtain ⟨taken, rfl, again⟩ := expression_again starts found
    have fewer :
        (after ++ name :: more).length < (t :: (taken ++ (after ++ name :: more))).length := by
      simp only [List.length_cons, List.length_append]
      omega
    rw [List.cons_append, List.append_assoc, expressions_next starts (again last' _) fewer, ih read]
    rfl
  | case4 begun t rest starts e after found longer =>
    rw [expressions, if_pos starts, found] at success
    dsimp only at success
    rw [if_neg longer] at success
    contradiction
  | case5 begun t rest notName comma ih =>
    rw [expressions, if_neg notName, if_pos comma] at success
    rw [List.cons_append, expressions, if_neg notName, if_pos comma, ih success]
  | case6 begun t rest notName notComma =>
    rw [expressions, if_neg notName, if_neg notComma] at success
    contradiction

/-- If a document lacks a closing parenthesis, then the innermost expression that is still open is
to blame; and behind a document that is read, a name and an opening parenthesis are one such
expression. -/
theorem missingClosing_innermost (maxDepth : Int) (ts : List Token) :
    (∀ name, document maxDepth ts = blame .missingClosing name → InnermostOpen name ts) ∧
    ∀ es, document maxDepth ts = .ok es → ∀ name opening : Token, name.isName = true →
      opening.value = "(" → 1 ≤ maxDepth →
      document maxDepth (ts ++ [name, opening]) = blame .missingClosing name := by
  constructor
  · intro name failed
    exact (expressions_missingClosing failed).innermostOpen
  · intro es success name opening named opens deep
    have opened (last : Token) :
        expression last (budget maxDepth 1) name [opening] = blame .missingClosing name := by
      obtain ⟨less, more⟩ : ∃ less, budget maxDepth 1 = less + 1 :=
        ⟨(maxDepth - 1).toNat, by unfold Reading.budget; omega⟩
      rw [more, expression_opening opens, arguments]
      rfl
    exact expressions_append_of_error named success (opened _)

/-- The group is still open behind an hour, but the minutes inside it are blamed. -/
theorem missingClosing_innermost_minutes :
    let minutes : Token := ⟨12, "min"⟩
    InnermostOpen minutes (tokenize "group(h(9), min(5") ∧
      document 1 (tokenize "h(9)" ++ [minutes, ⟨15, "("⟩]) = blame .missingClosing minutes := by
  intro minutes
  have failed : (document 16 (tokenize "group(h(9), min(5")).map (fun _ => ()) =
      blame .missingClosing minutes := by
    decide +kernel
  have read : (document 1 (tokenize "h(9)")).map List.length = .ok 1 := by decide +kernel
  obtain ⟨es, success, _⟩ := map_eq_ok_iff.mp read
  have innermost := (missingClosing_innermost 16 (tokenize "group(h(9), min(5")).1
  have behind := (missingClosing_innermost 1 (tokenize "h(9)")).2
  exact ⟨innermost minutes (map_eq_error_iff.mp failed),
    behind es success minutes ⟨15, "("⟩ (by decide) rfl (by decide)⟩

end Reading

end Schedule
