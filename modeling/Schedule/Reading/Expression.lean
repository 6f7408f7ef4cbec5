import Schedule.Reading.Literal

/-! # Reading expressions and documents

An expression is a name and, in parentheses, its arguments; a comma may follow each argument. An
argument is a literal, excluded if `!` comes first, or an expression again, down to a bound on
the nesting. A document is a list of expressions, and any number of commas may follow each of
them.

How deep expressions may still nest is handed down as a budget, which the recursion is on. Within
one expression the arguments are read until the closing parenthesis; that this ends rests on the
tokens getting fewer, which each round checks.
-/

namespace Schedule.Reading

/-- How many expressions may be nested at `depth`, of `maxDepth` in all. -/
def budget (maxDepth depth : Int) : Nat :=
  (maxDepth - depth + 1).toNat

/-- The token blamed when the tokens run out: the last one, or an empty one at the start. -/
def endToken (tokens : List Token) : Token :=
  tokens.getLastD ⟨0, ""⟩

/-- What stands in the place of one argument: a literal, an expression as `nested` reads it from
its name and the tokens after that, or nothing before a closing parenthesis. -/
def argument (last : Token)
    (nested : Token → List Token → Except Failure (Read Expression)) :
    List Token → Except Failure (Read (Option Node))
  | [] => blame .endOfText last
  | first :: rest =>
    if first.value = "!" then
      match rest with
      | [] => blame .endOfText last
      | t :: _ =>
        if t.value = ")" then blame .emptyArgument first
        else if t.value = "," then blame .emptyArgument t
        else if t.isName then blame .unexpectedToken first
        else (literal last first true rest).map fun (l, after) => (some (.literal l), after)
    else if first.value = ")" then .ok (none, first :: rest)
    else if first.value = "," then blame .emptyArgument first
    else if first.isName then (nested first rest).map fun (e, after) => (some e.toNode, after)
    else
      (literal last first false (first :: rest)).map fun (l, after) => (some (.literal l), after)

/-- The tokens after a comma, if one comes first. -/
def skipComma : List Token → List Token
  | [] => []
  | t :: ts => if t.value = "," then ts else t :: ts

theorem length_skipComma_le (ts : List Token) : (skipComma ts).length ≤ ts.length := by
  cases ts with
  | nil => exact Nat.le_refl _
  | cons t ts =>
    rw [skipComma]
    split <;> simp

/-- The arguments up to the closing parenthesis and the tokens after that. `name` is blamed if it
is missing. -/
def arguments (last name : Token)
    (nested : Token → List Token → Except Failure (Read Expression)) (ts : List Token) :
    Except Failure (Read (List Node)) :=
  match ts with
  | [] => blame .missingClosing name
  | t :: rest =>
    if t.value = ")" then .ok ([], rest)
    else
      match argument last nested (t :: rest) with
      | .error failure => .error failure
      | .ok (node, after) =>
        if (skipComma after).length < (t :: rest).length then
          (arguments last name nested (skipComma after)).map fun (nodes, after) =>
            (node.toList ++ nodes, after)
        else blame .missingClosing name
termination_by ts.length
decreasing_by assumption

/-- The expression with the given name, read from the tokens after the name. -/
def expression (last : Token) :
    (budget : Nat) → (name : Token) → List Token → Except Failure (Read Expression)
  | 0, name, _ => blame .nestedTooDeep name
  | budget + 1, name, ts =>
    match ts with
    | [] => blame .missingOpening name
    | mark :: body =>
      if mark.value = "(" then
        (arguments last name (expression last budget) body).map fun (nodes, after) =>
          (⟨name.value, name, nodes⟩, after)
      else blame .expectedOpening mark

/-- The expressions of a document. A comma is allowed once something has been read. -/
def expressions (last : Token) (budget : Nat) (begun : Bool) (ts : List Token) :
    Except Failure (List Expression) :=
  match ts with
  | [] => .ok []
  | t :: rest =>
    if t.isName then
      match expression last budget t rest with
      | .error failure => .error failure
      | .ok (e, after) =>
        if after.length < (t :: rest).length then
          (expressions last budget true after).map (e :: ·)
        else blame .missingClosing t
    else if begun && t.value == "," then expressions last budget true rest
    else blame .expectedExpression t
termination_by ts.length
decreasing_by
  · assumption
  · exact Nat.lt_succ_self _

/-- Reads a token list as a document whose expressions nest at most `maxDepth` deep. -/
def document (maxDepth : Int) (tokens : List Token) : Except Failure (List Expression) :=
  expressions (endToken tokens) (budget maxDepth 1) false tokens

end Schedule.Reading
