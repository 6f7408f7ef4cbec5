import Schedule.Fault
import Schedule.Node
import Schedule.Range

/-! # Reading literal arguments

A literal is `%` for every value, or one or two ends with a dash between, and then perhaps a
modulus after `%`. An end is a number, a date `month/day` or a weekday. Every function here reads
from the front of a token list and gives what it read and the tokens that follow; each takes as
much as it can, looking one token ahead. `last` is the token blamed when the tokens run out.

The dash is both a sign and the mark of a range, and `%` both a wildcard and the mark of a
modulus, so `1--2` is a range and `%%5` a wildcard with a modulus.
-/

namespace Schedule.Reading

/-- Something read from the front of a token list, and the tokens after it. -/
abbrev Read (α : Type) := α × List Token

/-- The most digits of a number, not counting the zeros it begins with. -/
def longestNumber : Nat := 9

/-- The value of a number token. -/
def numeral (t : Token) : Except Failure Nat :=
  if !t.isNumber then blame .expectedNumber t
  else if longestNumber < (t.value.toList.dropWhile (· == '0')).length then
    blame .numberTooLarge t
  else match Numeral.read t.value.toList with
    | .ok value => .ok value
    | .error numeral => .error (.overlong numeral)

/-- A number with or without a minus sign. -/
def signed (last : Token) : List Token → Except Failure (Read Int)
  | [] => blame .endOfText last
  | t :: ts =>
    if t.isMark then
      if t.value = "-" then
        match ts with
        | [] => blame .endOfText last
        | digits :: rest => (numeral digits).map fun value => (-(value : Int), rest)
      else blame .unexpectedToken t
    else (numeral t).map fun value => ((value : Int), ts)

/-- A number, or a date if a slash follows the number. A date must exist; `first` is blamed if it
does not. -/
def bound (last first : Token) (ts : List Token) : Except Failure (Read Bound) := do
  let (month, rest) ← signed last ts
  match rest with
  | [] => .ok (.number month, [])
  | slash :: more =>
    if slash.value = "/" then
      match daysInMonth month with
      | .error _ => blame .invalidMonth first
      | .ok days =>
        let (day, rest) ← signed last more
        if day < 1 ∨ days < day then blame .invalidDate first
        else .ok (.date ⟨month, day⟩, rest)
    else .ok (.number month, slash :: more)

/-- One end of a literal. -/
inductive Endpoint where
  | number (value : Int)
  | date (value : MonthDay)
  | weekday (day : Weekday)
  deriving DecidableEq, Repr

namespace Endpoint

/-- A number or date as an end. -/
def ofBound : Bound → Endpoint
  | .number value => .number value
  | .date value => .date value

/-- The end is a date. -/
def isDate : Endpoint → Bool
  | date _ => true
  | _ => false

/-- The literal that has this end only. -/
def alone : Endpoint → Operand
  | number value => .number value
  | date value => .dates value value
  | weekday day => .days day.ordinal day.ordinal

/-- The literal from one end to another. A weekday at either end makes the other number a weekday
too; a date goes with a date only. -/
def upTo? : Endpoint → Endpoint → Option Operand
  | number low, number high => some (.range low high)
  | number low, weekday high => some (.days low high.ordinal)
  | weekday low, number high => some (.days low.ordinal high)
  | weekday low, weekday high => some (.days low.ordinal high.ordinal)
  | date low, date high => some (.dates low high)
  | date _, _ => none
  | _, date _ => none

end Endpoint

/-- One end of a literal; a weekday only where `weekdays` allows one. -/
def endpoint (last first : Token) (weekdays : Bool) : List Token → Except Failure (Read Endpoint)
  | [] => blame .endOfText last
  | t :: ts =>
    match if weekdays then t.weekday? else none with
    | some day => .ok (.weekday day, ts)
    | none => (bound last first (t :: ts)).map fun (value, rest) => (.ofBound value, rest)

/-- One end, or two with a dash between. After a date no weekday is read. -/
def operand (last first : Token) (ts : List Token) : Except Failure (Read Operand) := do
  let (low, rest) ← endpoint last first true ts
  match rest with
  | [] => .ok (low.alone, [])
  | dash :: more =>
    if dash.value = "-" then
      let (high, rest) ← endpoint last first (!low.isDate) more
      match low.upTo? high with
      | some value => .ok (value, rest)
      | none => blame .mixedRange first
    else .ok (low.alone, dash :: more)

/-- The number as a modulus that is present. -/
def someModulus (read : Except Failure (Read Int)) : Except Failure (Read (Option Int)) :=
  read.map fun (value, rest) => (some value, rest)

/-- The modulus after an operand: a number if `%` comes first, else none. -/
def modulus (last : Token) : List Token → Except Failure (Read (Option Int))
  | [] => .ok (none, [])
  | t :: ts => if t.value = "%" then someModulus (signed last ts) else .ok (none, t :: ts)

/-- The modulus after a wildcard: a number with or without another `%` before it, else none. -/
def wildcardModulus (last : Token) : List Token → Except Failure (Read (Option Int))
  | [] => .ok (none, [])
  | t :: ts =>
    if t.value = "%" then someModulus (signed last ts)
    else if t.isNumber ∨ t.value = "-" then someModulus (signed last (t :: ts))
    else .ok (none, t :: ts)

/-- A literal argument whose argument began at `first`. -/
def literal (last first : Token) (exclude : Bool) : List Token → Except Failure (Read Literal)
  | [] => blame .endOfText last
  | t :: ts =>
    if t.value = "%" then
      (wildcardModulus last ts).map fun (every, rest) =>
        (⟨.wildcard, first, exclude, every⟩, rest)
    else do
      let (value, rest) ← operand last first (t :: ts)
      let (every, rest) ← modulus last rest
      .ok (⟨value, first, exclude, every⟩, rest)

end Schedule.Reading
