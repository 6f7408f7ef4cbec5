import Mathlib.Tactic.Common
import Schedule.Proofs.Reading.Document
import Schedule.Reading.Cursor

/-! # Reading at an index comes to reading the rest

A parser that is told an index reads what stands from there on, so it comes to the same as reading
the tokens that are left when those before the index are dropped. `Tracks` says so of the readers of
literals, `Builds` of those that put what they read into a list, `Collects` of the loop over the
arguments of an expression. That the loop ends rests on the index: each argument moves it on, but
for the missing one before a closing parenthesis, and there the loop stops by itself. So it never
makes more rounds than there are tokens left.
-/

namespace Schedule.Reading

variable {α β : Type} {tokens : List Token} {least : Nat}

/-- The tokens have run out at an index, or one stands there before those from the next index on. -/
theorem ahead_cases (tokens : List Token) (i : Nat) :
    (tokens[i]? = none ∧ tokens.drop i = []) ∨
      ∃ t, tokens[i]? = some t ∧ i < tokens.length ∧ tokens.drop i = t :: tokens.drop (i + 1) := by
  by_cases inside : i < tokens.length
  · exact .inr ⟨_, List.getElem?_eq_getElem inside, inside, List.drop_eq_getElem_cons inside⟩
  · have beyond : tokens.length ≤ i := Nat.le_of_not_lt inside
    exact .inl ⟨List.getElem?_eq_none beyond, List.drop_eq_nil_of_le beyond⟩

/-- A reading at an index fails as the reading of a rest does, or they read the same and leave the
same tokens, which begin at the index `least` or later. -/
inductive Tracks (tokens : List Token) (least : Nat) :
    Except Failure (α × Nat) → Except Failure (Read α) → Prop where
  | ok (a : α) {next : Nat} (onward : least ≤ next) (within : next ≤ tokens.length) :
    Tracks tokens least (.ok (a, next)) (.ok (a, tokens.drop next))
  | error (failure : Failure) : Tracks tokens least (.error failure) (.error failure)

namespace Tracks

variable {x : Except Failure (α × Nat)} {y : Except Failure (Read α)}

theorem mono {more : Nat} (tracks : Tracks tokens more x y) (le : least ≤ more) :
    Tracks tokens least x y := by
  cases tracks with
  | ok a onward within => exact .ok a (Nat.le_trans le onward) within
  | error failure => exact .error failure

theorem bind (tracks : Tracks tokens least x y) {k : α × Nat → Except Failure (β × Nat)}
    {k' : Read α → Except Failure (Read β)}
    (follows : ∀ a next, least ≤ next → next ≤ tokens.length →
      Tracks tokens least (k (a, next)) (k' (a, tokens.drop next))) :
    Tracks tokens least (x >>= k) (y >>= k') := by
  cases tracks with
  | ok a onward within => exact follows a _ onward within
  | error failure => exact .error failure

end Tracks

namespace Parser

variable {p : Parser} {i : Nat} {t : Token} {value : String}

theorem require_of_some (found : p.tokens[i]? = some t) : p.require i = .ok t := by
  rw [require, found]

theorem require_bind (found : p.tokens[i]? = some t) (k : Token → Except Failure α) :
    (p.require i >>= k) = k t := by
  rw [require_of_some found]
  rfl

theorem require_of_none (missing : p.tokens[i]? = none) :
    p.require i = blame .endOfText (endToken p.tokens) := by
  rw [require, missing]

theorem hasAt_eq (inside : i < p.tokens.length) :
    p.hasAt i value = (p.tokens[i].value == value) := by
  rw [hasAt, List.getElem?_eq_getElem inside]

/-! ### Literals -/

theorem numeral_tracks (t : Token) {next : Nat} (onward : least ≤ next)
    (within : next ≤ p.tokens.length) (sign : Int → Int) :
    Tracks p.tokens least
      (numeral t >>= fun value => (pure (sign value, next) : Except Failure (Int × Nat)))
      ((numeral t).map fun value => (sign value, p.tokens.drop next)) := by
  cases numeral t with
  | error failure => exact .error failure
  | ok value => exact .ok (sign value) onward within

theorem signed_tracks (p : Parser) (i : Nat) :
    Tracks p.tokens (i + 1) (p.signed i)
      (Reading.signed (endToken p.tokens) (p.tokens.drop i)) := by
  unfold signed Reading.signed
  rcases ahead_cases p.tokens i with ⟨missing, rest⟩ | ⟨t, found, inside, rest⟩
  · rw [rest, require_of_none missing]
    exact .error _
  · rw [rest, require_bind found]
    dsimp only
    split
    · split
      · rcases ahead_cases p.tokens (i + 1) with ⟨missing, rest⟩ | ⟨digits, found, more, rest⟩
        · rw [rest, require_of_none missing]
          exact .error _
        · rw [rest, require_bind found]
          exact numeral_tracks digits (by omega) (by omega) fun value => -value
      · exact .error _
    · exact numeral_tracks t (Nat.le_refl _) inside id

/-- What a mark decides: behind it more is read, and without it reading ends. -/
theorem optional_tracks {a : α} {next : Nat} {x : Except Failure (α × Nat)}
    {k : List Token → Except Failure (Read α)} (onward : least ≤ next)
    (within : next ≤ p.tokens.length)
    (marked : next < p.tokens.length → Tracks p.tokens least x (k (p.tokens.drop (next + 1)))) :
    Tracks p.tokens least (if p.hasAt next value then x else .ok (a, next))
      (match p.tokens.drop next with
        | [] => .ok (a, [])
        | mark :: more => if mark.value = value then k more else .ok (a, mark :: more)) := by
  have ended : Tracks p.tokens least (.ok (a, next)) (.ok (a, p.tokens.drop next)) :=
    .ok a onward within
  rcases ahead_cases p.tokens next with ⟨missing, rest⟩ | ⟨mark, found, inside, rest⟩
  · rw [rest] at ended ⊢
    rwa [hasAt, missing]
  · rw [rest] at ended ⊢
    rw [hasAt, found]
    by_cases same : mark.value = value
    · simpa [same] using marked inside
    · simpa [same] using ended

theorem bound_tracks (p : Parser) (first : Token) (i : Nat) :
    Tracks p.tokens (i + 1) (p.bound first i)
      (Reading.bound (endToken p.tokens) first (p.tokens.drop i)) := by
  refine (p.signed_tracks i).bind fun month next onward within => ?_
  refine optional_tracks onward within fun inside => ?_
  cases daysInMonth month with
  | error fault => exact .error _
  | ok days =>
    refine ((p.signed_tracks (next + 1)).mono (by omega)).bind fun day next onward within => ?_
    dsimp only
    split
    · exact .error _
    · exact .ok _ onward within

theorem endpoint_tracks (p : Parser) (first : Token) (weekdays : Bool) (i : Nat) :
    Tracks p.tokens (i + 1) (p.endpoint first weekdays i)
      (Reading.endpoint (endToken p.tokens) first weekdays (p.tokens.drop i)) := by
  unfold endpoint Reading.endpoint
  have bounded := p.bound_tracks first i
  rcases ahead_cases p.tokens i with ⟨missing, rest⟩ | ⟨t, found, inside, rest⟩
  · rw [rest, require_of_none missing]
    exact .error _
  · rw [rest] at bounded ⊢
    rw [require_bind found]
    dsimp only
    cases (if weekdays then t.weekday? else none) with
    | some day => exact .ok (Endpoint.weekday day) (Nat.le_refl _) inside
    | none =>
      exact bounded.bind fun value next onward within =>
        .ok (Endpoint.ofBound value) onward within

theorem operand_tracks (p : Parser) (first : Token) (i : Nat) :
    Tracks p.tokens (i + 1) (p.operand first i)
      (Reading.operand (endToken p.tokens) first (p.tokens.drop i)) := by
  refine (p.endpoint_tracks first true i).bind fun low next onward within => ?_
  refine optional_tracks onward within fun inside => ?_
  refine ((p.endpoint_tracks first (!low.isDate) (next + 1)).mono (by omega)).bind
    fun high next onward within => ?_
  dsimp only
  cases low.upTo? high with
  | some value => exact .ok _ onward within
  | none => exact .error _

theorem someModulus_tracks (p : Parser) (i : Nat) :
    Tracks p.tokens (i + 1) (p.someModulus i)
      (Reading.someModulus (Reading.signed (endToken p.tokens) (p.tokens.drop i))) :=
  (p.signed_tracks i).bind fun _ _ onward within => .ok _ onward within

theorem modulus_tracks (p : Parser) {i : Nat} (within : i ≤ p.tokens.length) :
    Tracks p.tokens i (p.modulus i)
      (Reading.modulus (endToken p.tokens) (p.tokens.drop i)) := by
  refine optional_tracks (Nat.le_refl i) within fun inside => ?_
  exact (p.someModulus_tracks (i + 1)).mono (by omega)

theorem wildcardModulus_tracks (p : Parser) {i : Nat} (within : i ≤ p.tokens.length) :
    Tracks p.tokens i (p.wildcardModulus i)
      (Reading.wildcardModulus (endToken p.tokens) (p.tokens.drop i)) := by
  have ended : Tracks p.tokens i (.ok (none, i)) (.ok (none, p.tokens.drop i)) :=
    .ok (none : Option Int) (Nat.le_refl i) within
  have signed := (p.someModulus_tracks i).mono (Nat.le_succ i)
  unfold wildcardModulus Reading.wildcardModulus
  rcases ahead_cases p.tokens i with ⟨missing, rest⟩ | ⟨t, found, inside, rest⟩
  · rw [missing]
    rw [rest] at ended ⊢
    exact ended
  · rw [found]
    rw [rest] at ended signed ⊢
    dsimp only
    split
    · exact (p.someModulus_tracks (i + 1)).mono (by omega)
    · split
      · exact signed
      · exact ended

theorem literal_tracks (p : Parser) (first : Token) (exclude : Bool) {i : Nat}
    (inside : i < p.tokens.length) :
    Tracks p.tokens (i + 1) (p.literal first exclude i)
      (Reading.literal (endToken p.tokens) first exclude (p.tokens.drop i)) := by
  have lone := p.operand_tracks first i
  unfold literal
  rw [List.drop_eq_getElem_cons inside] at lone ⊢
  rw [Reading.literal, hasAt, List.getElem?_eq_getElem inside]
  dsimp only
  by_cases percent : p.tokens[i].value = "%"
  · rw [if_pos (by simpa using percent), if_pos percent]
    exact (p.wildcardModulus_tracks inside).bind fun every next onward within => .ok _ onward within
  · rw [if_neg (by simpa using percent), if_neg percent]
    refine lone.bind fun value next onward within => ?_
    exact ((p.modulus_tracks within).mono onward).bind fun every next onward within =>
      .ok _ onward within

/-! ### Arguments and expressions -/

/-- Building into a list comes to what is read, if every loop may make as many rounds as there are
tokens: one node is put at the end of the list and the next index is where the rest begins, at
`least` or later; or both fail alike and the list stays as it was. -/
inductive Builds (p : Parser) (least : Nat) (build : Nat → List Node → Option Built) :
    Except Failure (Read (Option Node)) → Prop where
  | built (node : Node) {next : Nat} (onward : least ≤ next) (within : next ≤ p.tokens.length)
      (builds : ∀ rounds nodes, p.tokens.length ≤ rounds →
        build rounds nodes = some ⟨.ok next, nodes ++ [node]⟩) :
      Builds p least build (.ok (some node, p.tokens.drop next))
  | failed (failure : Failure)
      (builds : ∀ rounds nodes, p.tokens.length ≤ rounds →
        build rounds nodes = some ⟨.error failure, nodes⟩) :
      Builds p least build (.error failure)

variable {nested : Nat → p.Nested}
variable {inner : Token → List Token → Except Failure (Read Expression)}

/-- Wherever an expression begins, building it comes to reading it. -/
def BuildsNested (p : Parser) (nested : Nat → p.Nested)
    (inner : Token → List Token → Except Failure (Read Expression)) : Prop :=
  ∀ i (inside : i < p.tokens.length), Builds p (i + 1) (fun rounds => nested rounds i inside)
    ((inner p.tokens[i] (p.tokens.drop (i + 1))).map fun (e, rest) => (some e.toNode, rest))

/-- What fails before anything is built leaves the list as it was. -/
theorem Builds.refused (failure : Failure) :
    Builds p least (fun _ nodes => some ⟨.error failure, nodes⟩) (.error failure) :=
  .failed failure fun _ _ _ => rfl

/-- Before a closing parenthesis nothing is built. -/
theorem argument_closing (inside : i < p.tokens.length) (closing : p.tokens[i].value = ")")
    (nested : p.Nested) (nodes : List Node) : p.argument nested i nodes = some ⟨.ok i, nodes⟩ := by
  rw [argument, require_of_some (List.getElem?_eq_getElem inside)]
  simp [inside, closing]

/-- A literal is built as it is read. -/
theorem builds_literal {x : Except Failure (Literal × Nat)} {y : Except Failure (Read Literal)}
    (tracks : Tracks p.tokens least x y) :
    Builds p least (fun _ nodes => some (.ofLiteral nodes x))
      (y.map fun (l, after) => (some (.literal l), after)) := by
  cases tracks with
  | ok l onward within => exact .built (.literal l) onward within fun _ _ _ => rfl
  | error failure => exact .refused failure

/-- Anything else that begins an argument is built as it is read. -/
theorem builds_argument (same : BuildsNested p nested inner) (inside : i < p.tokens.length)
    (something : p.tokens[i].value ≠ ")") :
    Builds p (i + 1) (fun rounds => p.argument (nested rounds) i)
      (Reading.argument (endToken p.tokens) inner (p.tokens.drop i)) := by
  have literal := p.literal_tracks p.tokens[i] false inside
  rw [List.drop_eq_getElem_cons inside] at literal ⊢
  unfold argument Reading.argument
  simp only [require_of_some (List.getElem?_eq_getElem inside)]
  by_cases bang : p.tokens[i].value = "!"
  · simp only [bang, beq_self_eq_true, if_true]
    rcases ahead_cases p.tokens (i + 1) with ⟨missing, rest⟩ | ⟨t, found, more, rest⟩
    · have beyond : ¬ i + 1 < p.tokens.length := by simpa using missing
      simp only [rest, dif_neg beyond]
      exact .refused _
    · have here : p.tokens[i + 1] = t := by simpa [more] using found
      have literal := (p.literal_tracks p.tokens[i] true more).mono (Nat.le_succ (i + 1))
      rw [rest] at literal ⊢
      simp only [dif_pos more, here]
      split_ifs
      · exact .refused _
      · exact .refused _
      · exact .refused _
      · exact builds_literal literal
  · have unbanged : (p.tokens[i].value == "!") = false := by simpa using bang
    simp only [if_neg bang, if_neg something, unbanged, Bool.false_eq_true, if_false,
      dif_pos inside]
    by_cases comma : p.tokens[i].value = ","
    · simp only [if_pos comma]
      exact .refused _
    · simp only [if_neg comma]
      by_cases isName : p.tokens[i].isName = true
      · simp only [if_pos isName]
        exact same i inside
      · simp only [if_neg isName]
        exact builds_literal literal

/-- A comma behind an argument is passed over. -/
theorem skipComma_drop (p : Parser) (i : Nat) :
    skipComma (p.tokens.drop i) = p.tokens.drop (if p.hasAt i "," then i + 1 else i) := by
  rcases ahead_cases p.tokens i with ⟨missing, rest⟩ | ⟨t, found, inside, rest⟩
  · rw [hasAt, missing, rest]
    exact rest.symm
  · rw [hasAt, found, rest, skipComma]
    by_cases comma : t.value = ","
    · simp [comma]
    · simp [comma, rest]

/-- The loop that builds arguments from an index on comes to what is read as the arguments of the
expression called `name`, if it may make a round for each token that is left: their nodes are put at
the end of the list, and it stops at the closing parenthesis before the rest. It also stops where
the tokens run out; it is the expression that is to blame then. -/
inductive Collects (p : Parser) (nested : Nat → p.Nested) (i : Nat) (name : Token) :
    Except Failure (Read (List Node)) → Prop where
  | closed (nodes : List Node) {closing : Nat} (onward : i ≤ closing)
      (inside : closing < p.tokens.length)
      (builds : ∀ rounds left before, p.tokens.length ≤ rounds → p.tokens.length - i ≤ left →
        p.arguments (nested rounds) left i before = some ⟨.ok closing, before ++ nodes⟩) :
      Collects p nested i name (.ok (nodes, p.tokens.drop (closing + 1)))
  | unclosed {stop : Nat} (beyond : p.tokens.length ≤ stop)
      (builds : ∀ rounds left before, p.tokens.length ≤ rounds → p.tokens.length - i ≤ left →
        ∃ nodes, p.arguments (nested rounds) left i before = some ⟨.ok stop, nodes⟩) :
      Collects p nested i name (blame .missingClosing name)
  | failed (failure : Failure)
      (builds : ∀ rounds left before, p.tokens.length ≤ rounds → p.tokens.length - i ≤ left →
        ∃ nodes, p.arguments (nested rounds) left i before = some ⟨.error failure, nodes⟩) :
      Collects p nested i name (.error failure)

/-- Before something other than a closing parenthesis the loop makes a round. -/
theorem arguments_round (inside : i < p.tokens.length) (something : p.tokens[i].value ≠ ")")
    {left : Nat} (enough : p.tokens.length - i ≤ left) (nested : p.Nested) (before : List Node) :
    ∃ fewer, left = fewer + 1 ∧ p.arguments nested left i before = (do
      let built ← p.argument nested i before
      match built.next with
      | .error _ => some built
      | .ok next =>
        p.arguments nested fewer (if p.hasAt next "," then next + 1 else next) built.nodes) := by
  have going : i < p.tokens.length ∧ p.hasAt i ")" = false :=
    ⟨inside, by simpa [hasAt_eq inside] using something⟩
  obtain ⟨fewer, rfl⟩ : ∃ fewer, left = fewer + 1 := ⟨left - 1, by omega⟩
  exact ⟨fewer, rfl, if_pos going⟩

/-- One argument is built and then the others, behind the comma if there is one. -/
theorem Collects.cons {name : Token} {node : Node} {next : Nat}
    {read : Except Failure (Read (List Node))}
    (inside : i < p.tokens.length) (something : p.tokens[i].value ≠ ")") (onward : i < next)
    (builds : ∀ rounds nodes, p.tokens.length ≤ rounds →
      p.argument (nested rounds) i nodes = some ⟨.ok next, nodes ++ [node]⟩)
    (others : Collects p nested (if p.hasAt next "," then next + 1 else next) name read) :
    Collects p nested i name (read.map fun (nodes, rest) => (node :: nodes, rest)) := by
  have further : i < if p.hasAt next "," then next + 1 else next := by
    split <;> omega
  generalize after : (if p.hasAt next "," then next + 1 else next) = j at others further
  have step (rounds left : Nat) (before : List Node) (many : p.tokens.length ≤ rounds)
      (enough : p.tokens.length - i ≤ left) : ∃ fewer, p.tokens.length - j ≤ fewer ∧
        p.arguments (nested rounds) left i before =
          p.arguments (nested rounds) fewer j (before ++ [node]) := by
    obtain ⟨fewer, rfl, round⟩ := arguments_round inside something enough (nested rounds) before
    refine ⟨fewer, by omega, round.trans ?_⟩
    rw [builds rounds before many, ← after]
    rfl
  cases others with
  | closed nodes past inside builds =>
    refine .closed (node :: nodes) (by omega) inside fun rounds left before many enough => ?_
    obtain ⟨fewer, still, step⟩ := step rounds left before many enough
    rw [step, builds rounds fewer _ many still, List.append_assoc]
    rfl
  | unclosed beyond builds =>
    refine .unclosed beyond fun rounds left before many enough => ?_
    obtain ⟨fewer, still, step⟩ := step rounds left before many enough
    rw [step]
    exact builds rounds fewer _ many still
  | failed failure builds =>
    refine .failed failure fun rounds left before many enough => ?_
    obtain ⟨fewer, still, step⟩ := step rounds left before many enough
    rw [step]
    exact builds rounds fewer _ many still

/-- The arguments of an expression are built as they are read. -/
theorem collects_arguments (same : BuildsNested p nested inner) (name : Token) (i : Nat) :
    Collects p nested i name
      (Reading.arguments (endToken p.tokens) name inner (p.tokens.drop i)) := by
  by_cases inside : i < p.tokens.length
  · have starts := List.drop_eq_getElem_cons inside
    by_cases closing : p.tokens[i].value = ")"
    · rw [starts, Reading.arguments, if_pos closing]
      refine .closed [] (Nat.le_refl i) inside fun rounds left before _ _ => ?_
      rw [arguments.eq_def, if_neg (by simp [hasAt_eq inside, closing]), List.append_nil]
    · have built := builds_argument same inside closing
      rw [starts] at built ⊢
      generalize found : Reading.argument (endToken p.tokens) inner _ = read at built
      cases built with
      | @built node next onward within builds =>
        -- The index has moved on, so fewer tokens are left for the others.
        have further : i < if p.hasAt next "," then next + 1 else next := by
          split <;> omega
        have shorter : (skipComma (p.tokens.drop next)).length <
            (p.tokens[i] :: p.tokens.drop (i + 1)).length := by
          rw [p.skipComma_drop next, ← starts, List.length_drop, List.length_drop]
          omega
        rw [Grammar.arguments_next closing found shorter, p.skipComma_drop next]
        exact .cons inside closing onward builds (collects_arguments same name _)
      | failed failure builds =>
        rw [Reading.arguments, if_neg closing, found]
        refine .failed failure fun rounds left before many enough => ⟨before, ?_⟩
        obtain ⟨fewer, -, round⟩ := arguments_round inside closing enough (nested rounds) before
        rw [round, builds rounds before many]
        rfl
  · rw [List.drop_eq_nil_of_le (Nat.le_of_not_lt inside), Reading.arguments]
    refine .unclosed (Nat.le_of_not_lt inside) fun rounds left before _ _ => ⟨before, ?_⟩
    rw [arguments.eq_def, if_neg fun going => inside going.1]
termination_by p.tokens.length - i

theorem budget_eq_zero_iff {maxDepth depth : Int} :
    budget maxDepth depth = 0 ↔ maxDepth < depth := by
  unfold budget
  omega

theorem budget_succ {maxDepth depth : Int} (allowed : ¬ maxDepth < depth) :
    budget maxDepth depth = budget maxDepth (depth + 1) + 1 := by
  unfold budget
  omega

/-- An expression is built as it is read within the bound on the nesting. -/
theorem builds_expression (p : Parser) (depth : Int) :
    BuildsNested p (fun rounds i inside nodes => p.buildExpression rounds i inside nodes depth)
      (expression (endToken p.tokens) (budget p.maxDepth depth)) := by
  induction left : budget p.maxDepth depth generalizing depth with
  | zero =>
    intro i inside
    unfold buildExpression
    simp only [if_pos (budget_eq_zero_iff.mp left)]
    exact .refused _
  | succ count ih =>
    intro i inside
    have allowed : ¬ p.maxDepth < depth := fun deep =>
      Nat.succ_ne_zero count (left.symm.trans (budget_eq_zero_iff.mpr deep))
    have same := ih (depth + 1) (Nat.succ.inj ((budget_succ allowed).symm.trans left))
    unfold buildExpression
    simp only [if_neg allowed]
    rcases ahead_cases p.tokens (i + 1) with ⟨missing, rest⟩ | ⟨opening, found, more, rest⟩
    · simp only [missing, rest]
      exact .refused _
    · simp only [found, rest]
      by_cases opens : opening.value = "("
      · simp only [if_pos opens]
        have collects := collects_arguments same p.tokens[i] (i + 2)
        rw [Grammar.expression_opening opens]
        generalize Reading.arguments (endToken p.tokens) p.tokens[i] _ _ = read at collects
        cases collects with
        | @closed arguments closing onward within builds =>
          refine .built (.expression p.tokens[i].value p.tokens[i] arguments)
            (Nat.le_trans (by omega) (Nat.le_succ_of_le onward)) within fun rounds nodes many => ?_
          simp only [builds rounds rounds [] many (by omega), Option.bind_eq_bind,
            Option.bind_some, if_neg (Nat.not_le_of_lt within), List.nil_append]
        | unclosed beyond builds =>
          refine .failed _ fun rounds nodes many => ?_
          obtain ⟨arguments, builds⟩ := builds rounds rounds [] many (by omega)
          simp only [builds, Option.bind_eq_bind, Option.bind_some, if_pos beyond]
          rfl
        | failed failure builds =>
          refine .failed failure fun rounds nodes many => ?_
          obtain ⟨arguments, builds⟩ := builds rounds rounds [] many (by omega)
          simp only [builds, Option.bind_eq_bind, Option.bind_some]
      · have refused : expression (endToken p.tokens) (count + 1) p.tokens[i]
            (opening :: p.tokens.drop (i + 1 + 1)) = blame .expectedOpening opening := if_neg opens
        simp only [if_neg opens, refused]
        exact .refused _

/-! ### What stands before an index

Nothing of what a parser finds at an index depends on the tokens before it.
-/

/-- The parser of the tokens from an index on. -/
def drop (p : Parser) (i : Nat) : Parser :=
  ⟨p.tokens.drop i, p.maxDepth⟩

theorem length_drop (p : Parser) (i : Nat) : (p.drop i).tokens.length = p.tokens.length - i :=
  List.length_drop

theorem drop_inside (inside : i < p.tokens.length) : 0 < (p.drop i).tokens.length := by
  rw [length_drop]
  omega

theorem getElem_drop (inside : i < p.tokens.length) (left : 0 < (p.drop i).tokens.length) :
    (p.drop i).tokens[0] = p.tokens[i] := by
  simp [drop]

theorem endToken_drop (inside : i < p.tokens.length) :
    endToken (p.drop i).tokens = endToken p.tokens := by
  simp [endToken, drop, List.getLastD_eq_getLast?, List.getLast?_drop,
    Nat.not_le_of_lt inside]

/-- How building at the index `i` of `size` tokens ends, and how it ends at the index 0 of the same
tokens without those before `i`. Either one node is put at the end of both lists, and the next index
is one of those behind `i` or the end, with `i` taken away from it for the fewer tokens; or both
fail alike, and both lists are as they were. -/
inductive Ends (i size : Nat) (nodes nodes' : List Node) : Built → Built → Prop where
  | built (node : Node) {next : Nat} (onward : i < next) (within : next ≤ size) :
      Ends i size nodes nodes' ⟨.ok next, nodes ++ [node]⟩ ⟨.ok (next - i), nodes' ++ [node]⟩
  | failed (failure : Failure) :
      Ends i size nodes nodes' ⟨.error failure, nodes⟩ ⟨.error failure, nodes'⟩

/-- Building at the index `i` and at the index 0 of the tokens from there on ends with outcomes that
go together, if every loop may make as many rounds as there are tokens, or more. -/
def EndAlike (p : Parser) (i : Nat) (build build' : Nat → List Node → Option Built)
    (nodes nodes' : List Node) : Prop :=
  ∃ built built', Ends i p.tokens.length nodes nodes' built built' ∧
    ∀ rounds, p.tokens.length ≤ rounds →
      build rounds nodes = some built ∧ build' rounds nodes' = some built'

namespace EndAlike

variable {build build' : Nat → List Node → Option Built} {nodes nodes' : List Node} {rounds : Nat}

/-- If building fails, no node is left over in the list. -/
theorem of_error (alike : EndAlike p i build build' nodes nodes') {failure : Failure}
    (enough : p.tokens.length ≤ rounds)
    (failed : (build rounds nodes).map Built.next = some (.error failure)) :
    build rounds nodes = some ⟨.error failure, nodes⟩ ∧
      build' rounds nodes' = some ⟨.error failure, nodes'⟩ := by
  obtain ⟨built, built', ends, builds⟩ := alike
  obtain ⟨here, there⟩ := builds rounds enough
  rw [here, Option.map_some, Option.some_inj] at failed
  cases ends with
  | built node onward within => cases failed
  | failed failure =>
    cases failed
    exact ⟨here, there⟩

/-- If building goes on to a next index, that is further on, and one node has been built. -/
theorem of_ok (alike : EndAlike p i build build' nodes nodes') {next : Nat}
    (enough : p.tokens.length ≤ rounds)
    (passed : (build rounds nodes).map Built.next = some (.ok next)) :
    i < next ∧ next ≤ p.tokens.length ∧ ∃ node,
      build rounds nodes = some ⟨.ok next, nodes ++ [node]⟩ ∧
      build' rounds nodes' = some ⟨.ok (next - i), nodes' ++ [node]⟩ := by
  obtain ⟨built, built', ends, builds⟩ := alike
  obtain ⟨here, there⟩ := builds rounds enough
  rw [here, Option.map_some, Option.some_inj] at passed
  cases ends with
  | built node onward within =>
    cases passed
    exact ⟨onward, within, node, here, there⟩
  | failed failure => cases passed

end EndAlike

/-- What comes to the same reading ends alike. -/
theorem Builds.endAlike {build build' : Nat → List Node → Option Built}
    {read : Except Failure (Read (Option Node))}
    (whole : Builds p (i + 1) build read) (part : Builds (p.drop i) 1 build' read)
    (nodes nodes' : List Node) : EndAlike p i build build' nodes nodes' := by
  have fewer {rounds : Nat} (many : p.tokens.length ≤ rounds) :
      (p.drop i).tokens.length ≤ rounds := by
    rw [length_drop]
    omega
  cases whole with
  | @built node next onward within builds =>
    generalize same : Except.ok (some node, p.tokens.drop next) = read at part
    cases part with
    | @built node' next' onward' within' builds' =>
      obtain ⟨rfl, rest⟩ : node = node' ∧ p.tokens.drop next = (p.drop i).tokens.drop next' := by
        simpa using same
      -- As many tokens are left of the whole list as of its part, which fixes the next index.
      have left := congrArg List.length rest
      rw [List.length_drop, List.length_drop, length_drop] at left
      rw [length_drop] at within'
      obtain rfl : next' = next - i := by omega
      exact ⟨_, _, .built node onward within, fun rounds many =>
        ⟨builds rounds nodes many, builds' rounds nodes' (fewer many)⟩⟩
    | failed failure builds' => cases same
  | failed failure builds =>
    cases part with
    | failed _ builds' =>
      exact ⟨_, _, .failed failure, fun rounds many =>
        ⟨builds rounds nodes many, builds' rounds nodes' (fewer many)⟩⟩

/-- Building an expression at an index ends, and how it ends does not depend on the tokens before
it. So it is with an argument, except that nothing is built before a closing parenthesis. -/
theorem build_ends (p : Parser) {i : Nat} (inside : i < p.tokens.length)
    (nodes nodes' : List Node) (depth : Int) :
    EndAlike p i (fun rounds nodes => p.buildExpression rounds i inside nodes depth)
      (fun rounds nodes => (p.drop i).buildExpression rounds 0 (drop_inside inside) nodes depth)
      nodes nodes' ∧
    (p.tokens[i].value ≠ ")" →
      EndAlike p i (fun rounds nodes => p.buildArgument rounds i nodes depth)
        (fun rounds nodes => (p.drop i).buildArgument rounds 0 nodes depth) nodes nodes') ∧
    (p.tokens[i].value = ")" → ∀ rounds,
      p.buildArgument rounds i nodes depth = some ⟨.ok i, nodes⟩ ∧
      (p.drop i).buildArgument rounds 0 nodes' depth = some ⟨.ok 0, nodes'⟩) := by
  have left := drop_inside inside
  have first := getElem_drop inside left
  refine ⟨?_, fun something => ?_, fun closing rounds => ⟨?_, ?_⟩⟩
  · have whole := builds_expression p depth i inside
    have part := builds_expression (p.drop i) depth 0 left
    have rest : (p.drop i).tokens.drop (0 + 1) = p.tokens.drop (i + 1) := List.drop_drop
    rw [endToken_drop inside, first, rest] at part
    exact whole.endAlike part nodes nodes'
  · have whole := builds_argument (p.builds_expression (depth + 1)) inside something
    have part := builds_argument ((p.drop i).builds_expression (depth + 1)) left
      (first ▸ something)
    rw [endToken_drop inside] at part
    exact whole.endAlike part nodes nodes'
  · exact argument_closing inside closing _ nodes
  · exact argument_closing left (first ▸ closing) _ nodes'

/-- An expression behind a comma, of which two arguments are built before the third is refused; in
the list stays what was in it. At its own index the second argument is built. -/
theorem build_ends_third_argument :
    let p : Parser := ⟨[⟨0, ","⟩, ⟨1, "hour"⟩, ⟨5, "("⟩, ⟨6, "1"⟩, ⟨7, ","⟩, ⟨8, "%"⟩, ⟨9, "2"⟩,
      ⟨10, "!"⟩, ⟨11, ")"⟩], 3⟩
    let before : List Node := [.literal ⟨.number 0, ⟨0, "0"⟩, false, none⟩]
    let failure : Failure := .mistake ⟨.emptyArgument, ⟨10, "!"⟩⟩
    (∃ inside : 1 < p.tokens.length,
        p.buildExpression 9 1 inside before 1 = some ⟨.error failure, before⟩ ∧
        (p.drop 1).buildExpression 9 0 (drop_inside inside) [] 1 = some ⟨.error failure, []⟩) ∧
      (∃ _ : 5 < p.tokens.length, p.tokens[5].value ≠ ")" ∧ ∃ node,
        p.buildArgument 9 5 before 1 = some ⟨.ok 7, before ++ [node]⟩ ∧
        (p.drop 5).buildArgument 9 0 [] 1 = some ⟨.ok 2, [node]⟩) ∧
      ∃ _ : 8 < p.tokens.length, p.tokens[8].value = ")" ∧
        p.buildArgument 9 8 before 1 = some ⟨.ok 8, before⟩ ∧
        (p.drop 8).buildArgument 9 0 [] 1 = some ⟨.ok 0, []⟩ := by
  intro p before failure
  have first : 1 < p.tokens.length := by decide
  have second : 5 < p.tokens.length := by decide
  have last : 8 < p.tokens.length := by decide
  have something : p.tokens[5].value ≠ ")" := show "%" ≠ ")" by decide
  have enough : p.tokens.length ≤ 9 := by decide
  have refused :
      (p.buildExpression 9 1 (by decide) before 1).map Built.next = some (.error failure) := by
    decide +kernel
  have passed : (p.buildArgument 9 5 before 1).map Built.next = some (.ok 7) := by decide +kernel
  have expression := (p.build_ends first before [] 1).1.of_error enough refused
  have argument := ((p.build_ends second before [] 1).2.1 something).of_ok enough passed
  exact ⟨⟨first, expression⟩, ⟨second, something, argument.2.2⟩,
    last, rfl, (p.build_ends last before [] 1).2.2 rfl 9⟩

end Parser

end Schedule.Reading
