import Schedule.Reading.Expression

/-! # Reading at an index

A part of a token list can be read by itself. A parser is bound to the whole list and is told the
index to begin at; a reader gives what it read and the index of the first token after that. The
readers that build arguments and expressions put their node at the end of a list that they are
handed, and whatever stands in this list when a reader fails stays there. The arguments of an
expression are collected in a list of their own first.

How deep expressions nest is checked against a bound. How many arguments they have is not: they are
built one after another until the closing parenthesis or the end of the tokens, and no round checks
that the index has moved on. So it is said with how many rounds every such loop has to get by, and
nothing is built if one of them needs more.
-/

namespace Schedule.Reading

/-- The tokens to read from, and how deep expressions may nest in them. -/
structure Parser where
  tokens : List Token
  maxDepth : Int
  deriving DecidableEq, Repr

/-- How building ends: with the index of the next token or with a failure, and in either case with
the nodes that stand in the list by then. -/
structure Built where
  next : Except Failure Nat
  nodes : List Node
  deriving Repr

/-- How building a literal into a list ends. -/
def Built.ofLiteral (nodes : List Node) : Except Failure (Literal × Nat) → Built
  | .error failure => ⟨.error failure, nodes⟩
  | .ok (l, next) => ⟨.ok next, nodes ++ [.literal l]⟩

namespace Parser

/-- The token at an index. If the tokens have run out, the last of them is to blame. -/
def require (p : Parser) (i : Nat) : Except Failure Token :=
  match p.tokens[i]? with
  | some t => .ok t
  | none => blame .endOfText (endToken p.tokens)

/-- There is a token at the index, and this is its value. -/
def hasAt (p : Parser) (i : Nat) (value : String) : Bool :=
  match p.tokens[i]? with
  | some t => t.value == value
  | none => false

/-- A number with or without a minus sign. -/
def signed (p : Parser) (i : Nat) : Except Failure (Int × Nat) := do
  let t ← p.require i
  if t.isMark then
    if t.value = "-" then
      let digits ← p.require (i + 1)
      let value ← numeral digits
      return (-(value : Int), i + 2)
    else blame .unexpectedToken t
  else
    let value ← numeral t
    return ((value : Int), i + 1)

/-- A number, or a date if a slash follows the number. -/
def bound (p : Parser) (first : Token) (i : Nat) : Except Failure (Bound × Nat) := do
  let (month, i) ← p.signed i
  if p.hasAt i "/" then
    match daysInMonth month with
    | .error _ => blame .invalidMonth first
    | .ok days =>
      let (day, i) ← p.signed (i + 1)
      if day < 1 ∨ days < day then blame .invalidDate first
      else return (.date ⟨month, day⟩, i)
  else return (.number month, i)

/-- One end of a literal; a weekday only where `weekdays` allows one. -/
def endpoint (p : Parser) (first : Token) (weekdays : Bool) (i : Nat) :
    Except Failure (Endpoint × Nat) := do
  let t ← p.require i
  match if weekdays then t.weekday? else none with
  | some day => return (.weekday day, i + 1)
  | none =>
    let (value, i) ← p.bound first i
    return (.ofBound value, i)

/-- One end, or two with a dash between. -/
def operand (p : Parser) (first : Token) (i : Nat) : Except Failure (Operand × Nat) := do
  let (low, i) ← p.endpoint first true i
  if p.hasAt i "-" then
    let (high, i) ← p.endpoint first (!low.isDate) (i + 1)
    match low.upTo? high with
    | some value => return (value, i)
    | none => blame .mixedRange first
  else return (low.alone, i)

/-- The number at an index as a modulus that is present. -/
def someModulus (p : Parser) (i : Nat) : Except Failure (Option Int × Nat) := do
  let (value, i) ← p.signed i
  return (some value, i)

/-- The modulus after an operand: a number if `%` comes first, else none. -/
def modulus (p : Parser) (i : Nat) : Except Failure (Option Int × Nat) :=
  if p.hasAt i "%" then p.someModulus (i + 1) else return (none, i)

/-- The modulus after a wildcard: a number with or without another `%` before it, else none. -/
def wildcardModulus (p : Parser) (i : Nat) : Except Failure (Option Int × Nat) :=
  match p.tokens[i]? with
  | none => return (none, i)
  | some t =>
    if t.value = "%" then p.someModulus (i + 1)
    else if t.isNumber ∨ t.value = "-" then p.someModulus i
    else return (none, i)

/-- A literal argument whose argument began with the token `first`. -/
def literal (p : Parser) (first : Token) (exclude : Bool) (i : Nat) :
    Except Failure (Literal × Nat) := do
  if p.hasAt i "%" then
    let (every, i) ← p.wildcardModulus (i + 1)
    return (⟨.wildcard, first, exclude, every⟩, i)
  else
    let (value, i) ← p.operand first i
    let (every, i) ← p.modulus i
    return (⟨value, first, exclude, every⟩, i)

/-- How an expression inside an argument is built: from its index on, into a list. -/
abbrev Nested (p : Parser) : Type :=
  (i : Nat) → i < p.tokens.length → List Node → Option Built

/-- Builds the argument at an index. Before a closing parenthesis there is none to build. -/
def argument (p : Parser) (nested : p.Nested) (i : Nat) (nodes : List Node) : Option Built :=
  match p.require i with
  | .error failure => some ⟨.error failure, nodes⟩
  | .ok first =>
    let exclude := first.value == "!"
    let i := if exclude then i + 1 else i
    if inside : i < p.tokens.length then
      let t := p.tokens[i]
      if t.value = ")" then
        some ⟨if exclude then blame .emptyArgument first else .ok i, nodes⟩
      else if t.value = "," then some ⟨blame .emptyArgument t, nodes⟩
      else if t.isName then
        if exclude then some ⟨blame .unexpectedToken first, nodes⟩
        else nested i inside nodes
      else some (.ofLiteral nodes (p.literal first exclude i))
    else some ⟨blame .endOfText (endToken p.tokens), nodes⟩

/-- Builds arguments from an index on, each perhaps with a comma behind it, up to a closing
parenthesis or the end of the tokens, unless that takes more rounds than may be made. -/
def arguments (p : Parser) (nested : p.Nested) (rounds i : Nat) (nodes : List Node) :
    Option Built :=
  if i < p.tokens.length ∧ p.hasAt i ")" = false then
    match rounds with
    | 0 => none
    | rounds + 1 => do
      let built ← p.argument nested i nodes
      match built.next with
      | .error _ => some built
      | .ok next =>
        p.arguments nested rounds (if p.hasAt next "," then next + 1 else next) built.nodes
  else some ⟨.ok i, nodes⟩

/-- Builds the expression whose name is the token at an index and which is nested that deep. -/
def buildExpression (p : Parser) (rounds i : Nat) (inside : i < p.tokens.length)
    (nodes : List Node) (depth : Int) : Option Built :=
  let name := p.tokens[i]
  if p.maxDepth < depth then some ⟨blame .nestedTooDeep name, nodes⟩
  else
    match p.tokens[i + 1]? with
    | none => some ⟨blame .missingOpening name, nodes⟩
    | some opening =>
      if opening.value = "(" then do
        let nested : p.Nested := fun i inside nodes =>
          p.buildExpression rounds i inside nodes (depth + 1)
        let arguments ← p.arguments nested rounds (i + 2) []
        match arguments.next with
        | .error failure => some ⟨.error failure, nodes⟩
        | .ok closing =>
          if p.tokens.length ≤ closing then some ⟨blame .missingClosing name, nodes⟩
          else
            some ⟨.ok (closing + 1), nodes ++ [.expression name.value name arguments.nodes]⟩
      else some ⟨blame .expectedOpening opening, nodes⟩
termination_by budget p.maxDepth depth
decreasing_by
  unfold budget
  omega

/-- Builds the argument at an index, of an expression that is nested that deep. -/
def buildArgument (p : Parser) (rounds i : Nat) (nodes : List Node) (depth : Int) :
    Option Built :=
  p.argument (fun i inside nodes => p.buildExpression rounds i inside nodes (depth + 1)) i nodes

end Parser

end Schedule.Reading
