import Schedule.Proofs.Outcome
import Schedule.Proofs.TokenCase
import Schedule.Reading.Expression

/-! # Reading does not depend on place or letter case

If tokens are moved to other places and the case of their letters is changed, they are read as
before: to the same tree with its tokens moved, or to the same fault at the moved token. Each reader
is shown to carry a change of its tokens over to what it gives, in the order in which the readers
call each other.
-/

namespace Schedule

/-- A change of tokens in place and letter case. -/
structure Relabelling where
  apply : Token → Token
  alike (t : Token) : (apply t).Alike t

namespace Relabelling

variable (f : Relabelling) (t : Token)

@[simp] theorem isMark_apply : (f.apply t).isMark = t.isMark := (f.alike t).isMark_eq

@[simp] theorem isNumber_apply : (f.apply t).isNumber = t.isNumber := (f.alike t).isNumber_eq

@[simp] theorem weekday?_apply : (f.apply t).weekday? = t.weekday? := (f.alike t).weekday?_eq

@[simp] theorem isName_apply : (f.apply t).isName = t.isName := (f.alike t).isName_eq

theorem value_apply_iff {mark : String} (listed : mark ∈ ["(", ")", "-", ",", "!", "/", "%"]) :
    (f.apply t).value = mark ↔ t.value = mark :=
  (f.alike t).value_eq_iff listed

@[simp] theorem opening_apply : (f.apply t).value = "(" ↔ t.value = "(" :=
  f.value_apply_iff t (by decide)

@[simp] theorem closing_apply : (f.apply t).value = ")" ↔ t.value = ")" :=
  f.value_apply_iff t (by decide)

@[simp] theorem dash_apply : (f.apply t).value = "-" ↔ t.value = "-" :=
  f.value_apply_iff t (by decide)

@[simp] theorem comma_apply : (f.apply t).value = "," ↔ t.value = "," :=
  f.value_apply_iff t (by decide)

@[simp] theorem bang_apply : (f.apply t).value = "!" ↔ t.value = "!" :=
  f.value_apply_iff t (by decide)

@[simp] theorem slash_apply : (f.apply t).value = "/" ↔ t.value = "/" :=
  f.value_apply_iff t (by decide)

@[simp] theorem percent_apply : (f.apply t).value = "%" ↔ t.value = "%" :=
  f.value_apply_iff t (by decide)

end Relabelling

def Mistake.relabel (f : Relabelling) (m : Mistake) : Mistake :=
  ⟨m.fault, f.apply m.token⟩

def Failure.relabel (f : Relabelling) : Failure → Failure
  | mistake m => mistake (m.relabel f)
  | overlong numeral => overlong numeral

def Literal.relabel (f : Relabelling) (l : Literal) : Literal :=
  { l with first := f.apply l.first }

namespace Node

mutual

/-- The node with its tokens changed. A name is changed as the token that spells it. -/
def relabel (f : Relabelling) : Node → Node
  | literal l => literal (l.relabel f)
  | expression name first arguments =>
    expression (f.apply ⟨first.index, name⟩).value (f.apply first) (relabelAll f arguments)

/-- Some nodes with their tokens changed. -/
def relabelAll (f : Relabelling) : List Node → List Node
  | [] => []
  | node :: nodes => relabel f node :: relabelAll f nodes

end

theorem relabelAll_eq (f : Relabelling) (nodes : List Node) :
    relabelAll f nodes = nodes.map (relabel f) := by
  induction nodes with
  | nil => rfl
  | cons node nodes ih => rw [relabelAll, ih, List.map_cons]

end Node

def Expression.relabel (f : Relabelling) (e : Expression) : Expression :=
  ⟨(f.apply ⟨e.first.index, e.name⟩).value, f.apply e.first, Node.relabelAll f e.arguments⟩

namespace Reading

variable {α β γ δ : Type} {f : Relabelling} {last first name : Token} {ts : List Token}

/-- The outcome of a reader when its tokens are changed: what it read is changed by `g`. -/
def carry (f : Relabelling) (g : α → β) : Except Failure (Read α) → Except Failure (Read β)
  | .ok (a, rest) => .ok (g a, rest.map f.apply)
  | .error failure => .error (failure.relabel f)

@[simp] theorem carry_ok (g : α → β) (a : α) (rest : List Token) :
    carry f g (.ok (a, rest)) = .ok (g a, rest.map f.apply) := rfl

/-- Readers one after the other carry a change over if each of them does. -/
theorem carry_bind {g : α → β} {h : γ → δ} {x : Except Failure (Read α)}
    {k : Read α → Except Failure (Read γ)} {k' : Read β → Except Failure (Read δ)}
    (next : ∀ a rest, k' (g a, rest.map f.apply) = carry f h (k (a, rest))) :
    carry f g x >>= k' = carry f h (x >>= k) := by
  cases x with
  | error failure => rfl
  | ok read => exact next read.1 read.2

theorem carry_map {g : α → β} {h : γ → δ} (x : Except Failure (Read α))
    {k : Read α → Read γ} {k' : Read β → Read δ}
    (next : ∀ a rest, k' (g a, rest.map f.apply) =
      (h (k (a, rest)).1, (k (a, rest)).2.map f.apply)) :
    (carry f g x).map k' = carry f h (x.map k) := by
  cases x with
  | error failure => rfl
  | ok read => exact congrArg Except.ok (next read.1 read.2)

/-! ### Literals -/

theorem numeral_relabel (f : Relabelling) (t : Token) :
    numeral (f.apply t) = (numeral t).mapError (Failure.relabel f) := by
  unfold numeral
  rw [f.isNumber_apply]
  cases number : t.isNumber with
  | false => rfl
  | true =>
    rw [(f.alike t).value_eq number]
    simp only [Bool.not_true, Bool.false_eq_true, if_false]
    split
    · rfl
    · cases Numeral.read t.value.toList <;> rfl

/-- A number token that is taken off the front carries a change over. -/
theorem numeral_map (f : Relabelling) (t : Token) (g : Int → α) (rest : List Token) :
    ((numeral (f.apply t) >>= fun n => pure (n : Int)).map fun value =>
        (g value, rest.map f.apply)) =
      carry f id ((numeral t >>= fun n => pure (n : Int)).map fun value => (g value, rest)) := by
  rw [numeral_relabel]
  cases numeral t <;> rfl

theorem signed_relabel (f : Relabelling) (last : Token) (ts : List Token) :
    signed (f.apply last) (ts.map f.apply) = carry f id (signed last ts) := by
  cases ts with
  | nil => rfl
  | cons t ts =>
    unfold signed
    simp only [List.map_cons, f.isMark_apply]
    split
    · simp only [f.dash_apply]
      split
      · cases ts with
        | nil => rfl
        | cons digits rest => exact numeral_map f digits (fun value => -value) rest
      · rfl
    · exact numeral_map f t id ts

theorem bound_relabel (f : Relabelling) (last first : Token) (ts : List Token) :
    bound (f.apply last) (f.apply first) (ts.map f.apply) = carry f id (bound last first ts) := by
  unfold bound
  rw [signed_relabel]
  refine carry_bind fun month rest => ?_
  cases rest with
  | nil => rfl
  | cons slash more =>
    simp only [List.map_cons, f.slash_apply, id_eq]
    split
    · cases daysInMonth month with
      | error => rfl
      | ok days =>
        dsimp only
        rw [signed_relabel]
        refine carry_bind fun day rest => ?_
        simp only [id_eq]
        split <;> rfl
    · rfl

theorem endpoint_relabel (f : Relabelling) (last first : Token) (weekdays : Bool)
    (ts : List Token) :
    endpoint (f.apply last) (f.apply first) weekdays (ts.map f.apply) =
      carry f id (endpoint last first weekdays ts) := by
  cases ts with
  | nil => rfl
  | cons t ts =>
    rw [List.map_cons, endpoint, endpoint, f.weekday?_apply, ← List.map_cons]
    split
    · rfl
    · rw [bound_relabel]
      exact carry_map _ fun _ _ => rfl

theorem operand_relabel (f : Relabelling) (last first : Token) (ts : List Token) :
    operand (f.apply last) (f.apply first) (ts.map f.apply) =
      carry f id (operand last first ts) := by
  unfold operand
  rw [endpoint_relabel]
  refine carry_bind fun low rest => ?_
  cases rest with
  | nil => rfl
  | cons dash more =>
    simp only [List.map_cons, f.dash_apply, id_eq]
    split
    · rw [endpoint_relabel]
      refine carry_bind fun high rest => ?_
      simp only [id_eq]
      cases low.upTo? high <;> rfl
    · rfl

theorem someModulus_relabel (x : Except Failure (Read Int)) :
    someModulus (carry f id x) = carry f id (someModulus x) :=
  carry_map x fun _ _ => rfl

theorem modulus_relabel (f : Relabelling) (last : Token) (ts : List Token) :
    modulus (f.apply last) (ts.map f.apply) = carry f id (modulus last ts) := by
  cases ts with
  | nil => rfl
  | cons t ts =>
    rw [List.map_cons, modulus, modulus]
    simp only [f.percent_apply]
    split
    · rw [signed_relabel, someModulus_relabel]
    · rfl

theorem wildcardModulus_relabel (f : Relabelling) (last : Token) (ts : List Token) :
    wildcardModulus (f.apply last) (ts.map f.apply) = carry f id (wildcardModulus last ts) := by
  cases ts with
  | nil => rfl
  | cons t ts =>
    rw [List.map_cons, wildcardModulus, wildcardModulus, ← List.map_cons]
    simp only [f.percent_apply, f.isNumber_apply, f.dash_apply]
    split
    · rw [signed_relabel, someModulus_relabel]
    · split
      · rw [signed_relabel, someModulus_relabel]
      · rfl

theorem literal_relabel (f : Relabelling) (last first : Token) (exclude : Bool) (ts : List Token) :
    literal (f.apply last) (f.apply first) exclude (ts.map f.apply) =
      carry f (Literal.relabel f) (literal last first exclude ts) := by
  cases ts with
  | nil => rfl
  | cons t ts =>
    rw [List.map_cons, literal, literal, ← List.map_cons]
    simp only [f.percent_apply]
    split
    · rw [wildcardModulus_relabel]
      exact carry_map _ fun _ _ => rfl
    · rw [operand_relabel]
      refine carry_bind fun value rest => ?_
      dsimp only
      rw [modulus_relabel]
      exact carry_bind fun every rest => rfl

/-! ### Expressions and documents -/

/-- A reader of expressions carries a change over. -/
def Carries (f : Relabelling)
    (nested nested' : Token → List Token → Except Failure (Read Expression)) : Prop :=
  ∀ name ts, nested' (f.apply name) (ts.map f.apply) =
    carry f (Expression.relabel f) (nested name ts)

variable {nested nested' : Token → List Token → Except Failure (Read Expression)}

theorem argument_relabel (f : Relabelling) (carries : Carries f nested nested') (last : Token)
    (ts : List Token) :
    argument (f.apply last) nested' (ts.map f.apply) =
      carry f (Option.map (Node.relabel f)) (argument last nested ts) := by
  have written (first : Token) (exclude : Bool) (ts : List Token) :
      ((literal (f.apply last) (f.apply first) exclude (ts.map f.apply)).map fun read =>
          (some (Node.literal read.1), read.2)) =
        carry f (Option.map (Node.relabel f))
          ((literal last first exclude ts).map fun read =>
            (some (Node.literal read.1), read.2)) := by
    rw [literal_relabel]
    exact carry_map _ fun _ _ => rfl
  cases ts with
  | nil => rfl
  | cons first rest =>
    unfold argument
    simp only [List.map_cons, f.bang_apply, f.closing_apply, f.comma_apply, f.isName_apply]
    split
    · cases rest with
      | nil => rfl
      | cons t more =>
        simp only [List.map_cons, f.closing_apply, f.comma_apply, f.isName_apply]
        split
        · rfl
        · split
          · rfl
          · split
            · rfl
            · exact written first true (t :: more)
    · split
      · rfl
      · split
        · rfl
        · split
          · rw [carries]
            exact carry_map _ fun _ _ => rfl
          · exact written first false (first :: rest)

theorem skipComma_relabel (f : Relabelling) (ts : List Token) :
    skipComma (ts.map f.apply) = (skipComma ts).map f.apply := by
  cases ts with
  | nil => rfl
  | cons t ts =>
    simp only [List.map_cons, skipComma, f.comma_apply]
    split <;> rfl

theorem arguments_relabel (f : Relabelling) (carries : Carries f nested nested')
    (last name : Token) (ts : List Token) :
    arguments (f.apply last) (f.apply name) nested' (ts.map f.apply) =
      carry f (Node.relabelAll f) (arguments last name nested ts) := by
  induction ts using arguments.induct last nested with
  | case1 =>
    rw [List.map_nil, arguments, arguments]
    rfl
  | case2 t rest closes =>
    rw [List.map_cons, arguments, arguments, if_pos closes, if_pos ((f.closing_apply t).mpr closes)]
    rfl
  | case3 t rest notClosing failure found =>
    have carried := argument_relabel f carries last (t :: rest)
    rw [List.map_cons] at carried ⊢
    rw [arguments, arguments, if_neg notClosing, if_neg (mt (f.closing_apply t).mp notClosing),
      carried, found]
    rfl
  | case4 t rest notClosing node after found shorter ih =>
    have carried := argument_relabel f carries last (t :: rest)
    rw [List.map_cons] at carried ⊢
    rw [arguments, arguments, if_neg notClosing, if_neg (mt (f.closing_apply t).mp notClosing),
      carried, found]
    have moved :
        (skipComma (after.map f.apply)).length < (f.apply t :: rest.map f.apply).length := by
      simpa [skipComma_relabel] using shorter
    simp only [carry_ok]
    rw [if_pos shorter, if_pos moved, skipComma_relabel, ih]
    refine carry_map _ fun nodes after => ?_
    cases node <;> simp [Node.relabelAll_eq]
  | case5 t rest notClosing node after found longer =>
    have carried := argument_relabel f carries last (t :: rest)
    rw [List.map_cons] at carried ⊢
    rw [arguments, arguments, if_neg notClosing, if_neg (mt (f.closing_apply t).mp notClosing),
      carried, found]
    have moved :
        ¬ (skipComma (after.map f.apply)).length < (f.apply t :: rest.map f.apply).length := by
      simpa [skipComma_relabel] using longer
    simp only [carry_ok]
    rw [if_neg longer, if_neg moved]
    rfl

theorem expression_relabel (f : Relabelling) (last : Token) (budget : Nat) :
    Carries f (expression last budget) (expression (f.apply last) budget) := by
  induction budget with
  | zero => exact fun _ _ => rfl
  | succ budget ih =>
    intro name ts
    cases ts with
    | nil => rfl
    | cons mark body =>
      unfold expression
      simp only [List.map_cons, f.opening_apply]
      split
      · rw [arguments_relabel f ih]
        exact carry_map _ fun _ _ => rfl
      · rfl

theorem expressions_relabel (f : Relabelling) (last : Token) (budget : Nat) (begun : Bool)
    (ts : List Token) :
    expressions (f.apply last) budget begun (ts.map f.apply) =
      ((expressions last budget begun ts).map fun es => es.map (Expression.relabel f)).mapError
        (Failure.relabel f) := by
  induction begun, ts using expressions.induct last budget with
  | case1 begun =>
    rw [List.map_nil, expressions, expressions]
    rfl
  | case2 begun t rest named failure found =>
    have carried := expression_relabel f last budget t rest
    rw [List.map_cons, expressions, expressions, if_pos named,
      if_pos ((f.isName_apply t).trans named), carried, found]
    rfl
  | case3 begun t rest named e after found shorter ih =>
    have carried := expression_relabel f last budget t rest
    rw [List.map_cons, expressions, expressions, if_pos named,
      if_pos ((f.isName_apply t).trans named), carried, found]
    simp only [carry_ok]
    rw [if_pos shorter, if_pos (by simpa using shorter), ih]
    cases expressions last budget true after <;> rfl
  | case4 begun t rest named e after found longer =>
    have carried := expression_relabel f last budget t rest
    rw [List.map_cons, expressions, expressions, if_pos named,
      if_pos ((f.isName_apply t).trans named), carried, found]
    simp only [carry_ok]
    rw [if_neg longer, if_neg (by simpa using longer)]
    rfl
  | case5 begun t rest notName comma ih =>
    have moved : (begun && (f.apply t).value == ",") = true := by
      simpa [f.comma_apply] using comma
    rw [List.map_cons, expressions, expressions, if_neg notName, if_pos comma,
      if_neg (by rwa [f.isName_apply]), if_pos moved, ih]
  | case6 begun t rest notName notComma =>
    have moved : ¬ (begun && (f.apply t).value == ",") = true := by
      simpa [f.comma_apply] using notComma
    rw [List.map_cons, expressions, expressions, if_neg notName, if_neg notComma,
      if_neg (by rwa [f.isName_apply]), if_neg moved]
    rfl

/-- A document with its tokens changed in place and letter case is read to the tree, or the fault,
with its tokens changed in the same way. -/
theorem document_relabel (f : Relabelling) (maxDepth : Int) (ts : List Token) :
    document maxDepth (ts.map f.apply) =
      ((document maxDepth ts).map fun es => es.map (Expression.relabel f)).mapError
        (Failure.relabel f) := by
  cases ts with
  | nil => simp [document, expressions, Except.map, Except.mapError]
  | cons t ts =>
    have last : endToken ((t :: ts).map f.apply) = f.apply (endToken (t :: ts)) := by
      rw [endToken, endToken, List.map_cons, List.getLastD_cons, List.getLastD_cons,
        List.getLastD_eq_getLast?, List.getLastD_eq_getLast?, List.getLast?_map]
      cases ts.getLast? <;> rfl
    rw [document, document, last, expressions_relabel]

end Reading

end Schedule
