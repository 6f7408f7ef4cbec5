import Schedule.Proofs.Grammar
import Schedule.Proofs.Outcome

/-! # What is blamed when reading fails

Whatever stops a reader stands among the tokens it was given: the token of a mistake is one of them,
and a numeral that is too long to be read is the text of one. Each reader is shown to stay among its
tokens, in the order in which the readers call each other; the tokens that it leaves are among them
too, so that the next reader stays there as well.
-/

namespace Schedule

/-- The numeral has too many digits to be read although its value is small, because it begins with
zeros. -/
structure Token.IsOverlong (t : Token) : Prop where
  digits : Grammar.IsDigits t
  long : Numeral.longest < t.value.length

/-- What failed is one of the tokens: the one to blame, or a numeral that is too long to be read. -/
def Failure.IsAt (tokens : List Token) : Failure → Prop
  | mistake m => m.token ∈ tokens
  | overlong numeral => ∃ t ∈ tokens, t.IsOverlong ∧ numeral = ⟨t.value.length⟩

namespace Reading

variable {α β : Type} {tokens ts : List Token} {last first name t : Token}

/-- What is left to read is among the tokens, and so is what failed. -/
def StaysIn (tokens : List Token) : Except Failure (Read α) → Prop
  | .ok (_, rest) => rest ⊆ tokens
  | .error failure => failure.IsAt tokens

namespace StaysIn

theorem blame {fault : Fault} (inside : t ∈ tokens) :
    StaysIn tokens (Schedule.blame fault t : Except Failure (Read α)) :=
  inside

/-- Changing what was read, but not what is left, stays among the tokens. -/
theorem map {x : Except Failure (Read α)} (stays : StaysIn tokens x) {k : Read α → Read β}
    (same : ∀ a rest, (k (a, rest)).2 = rest) : StaysIn tokens (x.map k) := by
  cases x with
  | error failure => exact stays
  | ok read =>
    obtain ⟨a, rest⟩ := read
    change (k (a, rest)).2 ⊆ tokens
    rw [same]
    exact stays

/-- Readers one after the other stay among the tokens if each of them does. -/
theorem bind {x : Except Failure (Read α)} (stays : StaysIn tokens x)
    {k : Read α → Except Failure (Read β)}
    (next : ∀ a rest, rest ⊆ tokens → StaysIn tokens (k (a, rest))) : StaysIn tokens (x >>= k) := by
  cases x with
  | error failure => exact stays
  | ok read => exact next read.1 read.2 stays

end StaysIn

/-! ### Literals -/

theorem isAt_of_numeral {failure : Failure} (inside : t ∈ tokens)
    (failed : numeral t = .error failure) : failure.IsAt tokens := by
  unfold numeral at failed
  split at failed
  · cases failed
    exact inside
  · next number =>
    split at failed
    · cases failed
      exact inside
    · next short =>
      split at failed
      · contradiction
      · next overlong found =>
        cases failed
        unfold Numeral.read at found
        split at found
        · next long =>
          cases found
          rw [String.length_toList] at long
          refine ⟨t, inside, ⟨⟨by simpa using number, Nat.le_of_not_lt short⟩, long⟩, ?_⟩
          rw [String.length_toList]
        · contradiction

theorem staysIn_numeral (inside : t ∈ tokens) (left : ts ⊆ tokens) (g : Int → Int) :
    StaysIn tokens ((numeral t >>= fun n => pure (n : Int)).map fun value => (g value, ts)) := by
  cases read : numeral t with
  | error failure => exact isAt_of_numeral inside read
  | ok value => exact left

theorem staysIn_signed (atEnd : last ∈ tokens) (inside : ts ⊆ tokens) :
    StaysIn tokens (signed last ts) := by
  cases ts with
  | nil => exact .blame atEnd
  | cons t ts =>
    rw [List.cons_subset] at inside
    unfold signed
    dsimp only
    split
    · split
      · cases ts with
        | nil => exact .blame atEnd
        | cons digits rest =>
          rw [List.cons_subset] at inside
          exact staysIn_numeral inside.2.1 inside.2.2 fun value => -value
      · exact .blame inside.1
    · exact staysIn_numeral inside.1 inside.2 id

theorem staysIn_bound (atEnd : last ∈ tokens) (begins : first ∈ tokens) (inside : ts ⊆ tokens) :
    StaysIn tokens (bound last first ts) := by
  refine (staysIn_signed atEnd inside).bind fun month rest left => ?_
  cases rest with
  | nil => exact left
  | cons slash more =>
    rw [List.cons_subset] at left
    dsimp only
    split
    · split
      · exact .blame begins
      · refine (staysIn_signed atEnd left.2).bind fun day rest left => ?_
        dsimp only
        split
        · exact .blame begins
        · exact left
    · exact List.cons_subset.mpr left

theorem staysIn_endpoint (atEnd : last ∈ tokens) (begins : first ∈ tokens) (weekdays : Bool)
    (inside : ts ⊆ tokens) : StaysIn tokens (endpoint last first weekdays ts) := by
  cases ts with
  | nil => exact .blame atEnd
  | cons t ts =>
    unfold endpoint
    dsimp only
    split
    · exact (List.cons_subset.mp inside).2
    · exact (staysIn_bound atEnd begins inside).map fun _ _ => rfl

theorem staysIn_operand (atEnd : last ∈ tokens) (begins : first ∈ tokens) (inside : ts ⊆ tokens) :
    StaysIn tokens (operand last first ts) := by
  refine (staysIn_endpoint atEnd begins true inside).bind fun low rest left => ?_
  cases rest with
  | nil => exact left
  | cons dash more =>
    dsimp only
    split
    · refine (staysIn_endpoint atEnd begins _ (List.cons_subset.mp left).2).bind
        fun high rest left => ?_
      dsimp only
      split
      · exact left
      · exact .blame begins
    · exact left

theorem staysIn_modulus (atEnd : last ∈ tokens) (inside : ts ⊆ tokens) :
    StaysIn tokens (modulus last ts) := by
  cases ts with
  | nil => exact inside
  | cons t ts =>
    unfold modulus
    dsimp only
    split
    · exact (staysIn_signed atEnd (List.cons_subset.mp inside).2).map fun _ _ => rfl
    · exact inside

theorem staysIn_wildcardModulus (atEnd : last ∈ tokens) (inside : ts ⊆ tokens) :
    StaysIn tokens (wildcardModulus last ts) := by
  cases ts with
  | nil => exact inside
  | cons t ts =>
    unfold wildcardModulus
    dsimp only
    split
    · exact (staysIn_signed atEnd (List.cons_subset.mp inside).2).map fun _ _ => rfl
    · split
      · exact (staysIn_signed atEnd inside).map fun _ _ => rfl
      · exact inside

theorem staysIn_literal (atEnd : last ∈ tokens) (begins : first ∈ tokens) (exclude : Bool)
    (inside : ts ⊆ tokens) : StaysIn tokens (literal last first exclude ts) := by
  cases ts with
  | nil => exact .blame atEnd
  | cons t ts =>
    unfold literal
    dsimp only
    split
    · exact (staysIn_wildcardModulus atEnd (List.cons_subset.mp inside).2).map fun _ _ => rfl
    · refine (staysIn_operand atEnd begins inside).bind fun value rest left => ?_
      exact (staysIn_modulus atEnd left).bind fun every rest left => left

/-! ### Expressions and documents -/

/-- A reader of expressions stays among any tokens among which it is used. -/
def AlwaysStays (nested : Token → List Token → Except Failure (Read Expression)) (last : Token) :
    Prop :=
  ∀ ⦃tokens name ts⦄, last ∈ tokens → name ∈ tokens → ts ⊆ tokens →
    StaysIn tokens (nested name ts)

variable {nested : Token → List Token → Except Failure (Read Expression)}

theorem staysIn_argument (nests : AlwaysStays nested last) (atEnd : last ∈ tokens)
    (inside : ts ⊆ tokens) : StaysIn tokens (argument last nested ts) := by
  cases ts with
  | nil => exact .blame atEnd
  | cons first rest =>
    obtain ⟨begins, left⟩ := List.cons_subset.mp inside
    unfold argument
    dsimp only
    split
    · cases rest with
      | nil => exact .blame atEnd
      | cons t more =>
        dsimp only
        split
        · exact .blame begins
        · split
          · exact .blame (List.cons_subset.mp left).1
          · split
            · exact .blame begins
            · exact (staysIn_literal atEnd begins true left).map fun _ _ => rfl
    · split
      · exact inside
      · split
        · exact .blame begins
        · split
          · exact (nests atEnd begins left).map fun _ _ => rfl
          · exact (staysIn_literal atEnd begins false inside).map fun _ _ => rfl

theorem skipComma_subset (ts : List Token) : skipComma ts ⊆ ts := by
  cases ts with
  | nil => exact List.Subset.refl _
  | cons t ts =>
    rw [skipComma]
    split
    · exact List.subset_cons_self t ts
    · exact List.Subset.refl _

/-- The induction is on the tokens, which get fewer with each argument. -/
theorem staysIn_arguments (nests : AlwaysStays nested last) (atEnd : last ∈ tokens)
    (named : name ∈ tokens) (inside : ts ⊆ tokens) :
    StaysIn tokens (arguments last name nested ts) := by
  induction ts using arguments.induct last nested with
  | case1 =>
    rw [arguments]
    exact .blame named
  | case2 t rest closes =>
    rw [arguments, if_pos closes]
    exact (List.cons_subset.mp inside).2
  | case3 t rest notClosing failure found =>
    have stays := staysIn_argument nests atEnd inside
    rw [found] at stays
    rw [arguments, if_neg notClosing, found]
    exact stays
  | case4 t rest notClosing node after found shorter ih =>
    have stays := staysIn_argument nests atEnd inside
    rw [found] at stays
    rw [arguments, if_neg notClosing, found]
    dsimp only
    rw [if_pos shorter]
    exact (ih (List.Subset.trans (skipComma_subset after) stays)).map fun _ _ => rfl
  | case5 t rest notClosing node after found longer =>
    rw [arguments, if_neg notClosing, found]
    dsimp only
    rw [if_neg longer]
    exact .blame named

/-- The induction is on the budget. -/
theorem staysIn_expression (last : Token) (budget : Nat) :
    AlwaysStays (expression last budget) last := by
  induction budget with
  | zero => exact fun _ _ _ _ named _ => .blame named
  | succ budget ih =>
    intro tokens name ts atEnd named inside
    cases ts with
    | nil => exact .blame named
    | cons mark body =>
      obtain ⟨opens, left⟩ := List.cons_subset.mp inside
      unfold expression
      dsimp only
      split
      · exact (staysIn_arguments ih atEnd named left).map fun _ _ => rfl
      · exact .blame opens

theorem isAt_of_expressions {budget : Nat} {begun : Bool} {failure : Failure}
    (atEnd : last ∈ tokens) (inside : ts ⊆ tokens)
    (failed : expressions last budget begun ts = .error failure) : failure.IsAt tokens := by
  induction begun, ts using expressions.induct last budget with
  | case1 begun =>
    rw [expressions] at failed
    contradiction
  | case2 begun t rest named cause found =>
    obtain ⟨starts, left⟩ := List.cons_subset.mp inside
    have stays := staysIn_expression last budget atEnd starts left
    rw [expressions, if_pos named, found] at failed
    rw [found] at stays
    cases failed
    exact stays
  | case3 begun t rest named e after found shorter ih =>
    obtain ⟨starts, left⟩ := List.cons_subset.mp inside
    have stays := staysIn_expression last budget atEnd starts left
    rw [found] at stays
    rw [expressions, if_pos named, found] at failed
    dsimp only at failed
    rw [if_pos shorter] at failed
    exact ih stays (map_eq_error_iff.mp failed)
  | case4 begun t rest named e after found longer =>
    rw [expressions, if_pos named, found] at failed
    dsimp only at failed
    rw [if_neg longer] at failed
    cases failed
    exact (List.cons_subset.mp inside).1
  | case5 begun t rest notName comma ih =>
    rw [expressions, if_neg notName, if_pos comma] at failed
    exact ih (List.cons_subset.mp inside).2 failed
  | case6 begun t rest notName notComma =>
    rw [expressions, if_neg notName, if_neg notComma] at failed
    cases failed
    exact (List.cons_subset.mp inside).1

/-- What stops the reading of a token list is one of its tokens. -/
theorem isAt_of_document {maxDepth : Int} {failure : Failure}
    (failed : document maxDepth ts = .error failure) : failure.IsAt ts := by
  cases ts with
  | nil =>
    rw [document, expressions] at failed
    contradiction
  | cons t ts =>
    have atEnd : endToken (t :: ts) ∈ t :: ts := by
      rw [endToken, List.getLastD_cons]
      exact List.getLastD_mem_cons
    exact isAt_of_expressions atEnd (List.Subset.refl _) failed

end Reading

end Schedule
