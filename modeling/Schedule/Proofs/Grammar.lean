import Mathlib.Tactic.Common
import Schedule.Reading.Expression

/-! # The grammar of schedules

A derivation shows how a token list is made up by the grammar: a document is empty or an expression
followed by commas and expressions; an expression is a name with its arguments in parentheses, each
of them perhaps followed by a comma; an argument is an expression or a literal, excluded if `!`
comes first; a literal is `%`, perhaps with a modulus, or one or two ends and perhaps a modulus.

A derivation is kept apart from what it yields: `tokens` is the list it derives, `tree` what that
list means, `Valid` says that each token is of the kind its place asks for. One list can have
several valid derivations, as `1 - 5` may be one argument or two. `Greedy` singles out those in
which every literal takes as much as it can.
-/

namespace Schedule

/-- The date exists, months counting from 1 and February having 29 days. -/
def MonthDay.Exists (date : MonthDay) : Prop :=
  ∃ days, daysInMonth date.month = .ok days ∧ 1 ≤ date.day ∧ date.day ≤ days

namespace Reading.Endpoint

/-- The number by which an end counts among weekdays. A date has no such number. -/
def ordinal : Endpoint → Int
  | number value => value
  | weekday day => day.ordinal
  | date value => value.day

/-- The literal between two ends of one kind: of dates, of numbers, or of weekdays if one of the
ends is a weekday. -/
def through : Endpoint → Endpoint → Operand
  | date low, date high => .dates low high
  | number low, number high => .range low high
  | low, high => .days low.ordinal high.ordinal

/-- Two ends make a literal if both or neither are dates. -/
theorem upTo?_eq_some_iff (low high : Endpoint) (value : Operand) :
    low.upTo? high = some value ↔ low.isDate = high.isDate ∧ low.through high = value := by
  cases low <;> cases high <;> simp [upTo?, isDate, through, ordinal]

end Reading.Endpoint

namespace Grammar

/-- The token is a number of at most nine digits after its leading zeros. -/
def IsDigits (t : Token) : Prop :=
  t.isNumber = true ∧ (t.value.toList.dropWhile (· == '0')).length ≤ 9

/-- No number among the tokens has more digits, leading zeros included, than are ever read. -/
def Readable (ts : List Token) : Prop :=
  ∀ t ∈ ts, t.isNumber = true → t.value.length ≤ Numeral.longest

@[simp] theorem readable_nil : Readable [] := by simp [Readable]

@[simp] theorem readable_cons (t : Token) (ts : List Token) :
    Readable (t :: ts) ↔ (t.isNumber = true → t.value.length ≤ Numeral.longest) ∧ Readable ts :=
  List.forall_mem_cons

@[simp] theorem readable_append (xs ys : List Token) :
    Readable (xs ++ ys) ↔ Readable xs ∧ Readable ys :=
  List.forall_mem_append

/-- The first of some tokens, if there is one, is as `p` says. -/
def Ahead (p : Token → Prop) (after : List Token) : Prop :=
  ∀ t ∈ after.head?, p t

@[simp] theorem ahead_nil (p : Token → Prop) : Ahead p [] := by simp [Ahead]

@[simp] theorem ahead_cons (p : Token → Prop) (t : Token) (ts : List Token) :
    Ahead p (t :: ts) ↔ p t := by simp [Ahead]

/-- The tokens of a part that a mark introduces, if it is there. -/
def marked {α : Type} (tokens : α → List Token) : Option (Token × α) → List Token
  | none => []
  | some (mark, part) => mark :: tokens part

/-- A number: its digits, perhaps with a minus sign before them. -/
inductive Signed where
  | plain (digits : Token)
  | minus (sign digits : Token)
  deriving DecidableEq, Repr

namespace Signed

def first : Signed → Token
  | plain digits => digits
  | minus sign _ => sign

def tokens : Signed → List Token
  | plain digits => [digits]
  | minus sign digits => [sign, digits]

def Valid : Signed → Prop
  | plain digits => IsDigits digits
  | minus sign digits => sign.value = "-" ∧ IsDigits digits

def value : Signed → Int
  | plain digits => Numeral.value digits.value.toList
  | minus _ digits => -(Numeral.value digits.value.toList : Int)

end Signed

/-- An end of a literal: a word for a weekday, a number, or a month and a day with a slash
between. -/
inductive End where
  | weekday (word : Token) (day : Weekday)
  | number (value : Signed)
  | date (month : Signed) (slash : Token) (day : Signed)
  deriving DecidableEq, Repr

namespace End

def first : End → Token
  | weekday word _ => word
  | number value => value.first
  | date month _ _ => month.first

def tokens : End → List Token
  | weekday word _ => [word]
  | number value => value.tokens
  | date month slash day => month.tokens ++ slash :: day.tokens

def Valid : End → Prop
  | weekday word day => word.weekday? = some day
  | number value => value.Valid
  | date month slash day =>
    month.Valid ∧ slash.value = "/" ∧ day.Valid ∧ MonthDay.Exists ⟨month.value, day.value⟩

def value : End → Reading.Endpoint
  | weekday _ day => .weekday day
  | number value => .number value.value
  | date month _ day => .date ⟨month.value, day.value⟩

end End

/-- A literal without its `!`. The modulus of a wildcard may have a `%` of its own, that of ends
must have one. -/
inductive Form where
  | wildcard (percent : Token) (modulus : Option (Option Token × Signed))
  | ends (low : End) (high : Option (Token × End)) (modulus : Option (Token × Signed))
  deriving DecidableEq, Repr

namespace Form

def first : Form → Token
  | wildcard percent _ => percent
  | ends low _ _ => low.first

/-- The tokens of a wildcard's modulus. -/
def modulusTokens : Option (Option Token × Signed) → List Token
  | none => []
  | some (percent, modulus) => percent.toList ++ modulus.tokens

def tokens : Form → List Token
  | wildcard percent modulus => percent :: modulusTokens modulus
  | ends low high modulus => low.tokens ++ (marked End.tokens high ++ marked Signed.tokens modulus)

def Valid : Form → Prop
  | wildcard percent modulus =>
    percent.value = "%" ∧
      ∀ part ∈ modulus, (∀ mark ∈ part.1, mark.value = "%") ∧ part.2.Valid
  | ends low high modulus =>
    low.Valid ∧
      (∀ part ∈ high, part.1.value = "-" ∧ part.2.Valid ∧
        low.value.isDate = part.2.value.isDate) ∧
      ∀ part ∈ modulus, part.1.value = "%" ∧ part.2.Valid

/-- The literal could not have taken the next token too: a lone end is not followed by a dash, an
end without modulus not by `%`, and a bare `%` by neither of them and by no number. -/
def Greedy (after : List Token) : Form → Prop
  | wildcard _ none =>
    Ahead (fun t => t.isNumber = false ∧ t.value ≠ "-" ∧ t.value ≠ "%") after
  | ends _ none none => Ahead (fun t => t.value ≠ "-" ∧ t.value ≠ "%") after
  | ends _ (some _) none => Ahead (fun t => t.value ≠ "%") after
  | _ => True

def operand : Form → Operand
  | wildcard _ _ => .wildcard
  | ends low none _ => low.value.alone
  | ends low (some (_, high)) _ => low.value.through high.value

def modulus : Form → Option Int
  | wildcard _ modulus => modulus.map fun part => part.2.value
  | ends _ _ modulus => modulus.map fun part => part.2.value

/-- The literal as an argument; it is excluded if there is a `!` before it. -/
def literal (bang : Option Token) (form : Form) : Literal :=
  ⟨form.operand, bang.getD form.first, bang.isSome, form.modulus⟩

end Form

/-- The arguments of an expression, each perhaps with a comma after it. -/
inductive Arguments where
  | nil
  | literal (bang : Option Token) (form : Form) (comma : Option Token) (rest : Arguments)
  | nested (name opening : Token) (inner : Arguments) (closing : Token) (comma : Option Token)
    (rest : Arguments)
  deriving DecidableEq, Repr

namespace Arguments

def tokens : Arguments → List Token
  | nil => []
  | literal bang form comma rest =>
    bang.toList ++ (form.tokens ++ (comma.toList ++ rest.tokens))
  | nested name opening inner closing comma rest =>
    name :: opening :: (inner.tokens ++ closing :: (comma.toList ++ rest.tokens))

def Valid : Arguments → Prop
  | nil => True
  | literal bang form comma rest =>
    (∀ mark ∈ bang, mark.value = "!") ∧ form.Valid ∧ (∀ mark ∈ comma, mark.value = ",") ∧
      rest.Valid
  | nested name opening inner closing comma rest =>
    name.isName = true ∧ opening.value = "(" ∧ inner.Valid ∧ closing.value = ")" ∧
      (∀ mark ∈ comma, mark.value = ",") ∧ rest.Valid

/-- Every literal is greedy, `after` being what follows the arguments. -/
def Greedy (after : List Token) : Arguments → Prop
  | nil => True
  | literal _ form comma rest =>
    form.Greedy (comma.toList ++ (rest.tokens ++ after)) ∧ rest.Greedy after
  | nested _ _ inner closing _ rest => inner.Greedy [closing] ∧ rest.Greedy after

/-- How deep expressions are nested among the arguments. -/
def depth : Arguments → Nat
  | nil => 0
  | literal _ _ _ rest => rest.depth
  | nested _ _ inner _ _ rest => max (inner.depth + 1) rest.depth

def tree : Arguments → List Node
  | nil => []
  | literal bang form _ rest => .literal (form.literal bang) :: rest.tree
  | nested name _ inner _ _ rest => .expression name.value name inner.tree :: rest.tree

end Arguments

/-- An expression: its name, and its arguments in parentheses. -/
structure Phrase where
  name : Token
  opening : Token
  inner : Arguments
  closing : Token
  deriving DecidableEq, Repr

namespace Phrase

def tokens (p : Phrase) : List Token :=
  p.name :: p.opening :: (p.inner.tokens ++ [p.closing])

structure Valid (p : Phrase) : Prop where
  name : p.name.isName = true
  opening : p.opening.value = "("
  inner : p.inner.Valid
  closing : p.closing.value = ")"

/-- Every literal is greedy, the last of them before the closing parenthesis. -/
def Greedy (p : Phrase) : Prop := p.inner.Greedy [p.closing]

def depth (p : Phrase) : Nat := p.inner.depth + 1

def tree (p : Phrase) : Expression := ⟨p.name.value, p.name, p.inner.tree⟩

end Phrase

/-- What stands in a document after its first expression: commas and expressions. -/
inductive Item where
  | comma (mark : Token)
  | phrase (p : Phrase)
  deriving DecidableEq, Repr

namespace Item

def tokens : Item → List Token
  | comma mark => [mark]
  | phrase p => p.tokens

def phrase? : Item → Option Phrase
  | comma _ => none
  | phrase p => some p

def Valid : Item → Prop
  | comma mark => mark.value = ","
  | phrase p => p.Valid

end Item

/-- A document: empty, or an expression followed by commas and expressions. -/
inductive Document where
  | empty
  | starting (p : Phrase) (items : List Item)
  deriving DecidableEq, Repr

namespace Document

def items : Document → List Item
  | empty => []
  | starting p items => .phrase p :: items

def tokens (d : Document) : List Token := d.items.flatMap Item.tokens

/-- The expressions of the document, in order. -/
def phrases (d : Document) : List Phrase := d.items.filterMap Item.phrase?

def tree (d : Document) : List Expression := d.phrases.map Phrase.tree

/-- The derivation is one of the given tokens: each is of the kind its place asks for, and every
literal takes as many as it can. -/
structure Derives (d : Document) (ts : List Token) : Prop where
  tokens : d.tokens = ts
  valid : ∀ item ∈ d.items, item.Valid
  greedy : ∀ p ∈ d.phrases, p.Greedy

/-- Expressions are nested no deeper than `maxDepth`. -/
def Within (d : Document) (maxDepth : Int) : Prop :=
  ∀ p ∈ d.phrases, (p.depth : Int) ≤ maxDepth

end Document

end Grammar

end Schedule
