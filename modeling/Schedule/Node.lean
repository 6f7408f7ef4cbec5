import Schedule.Calendar
import Schedule.Field
import Schedule.Token

/-! # Trees of a schedule

A schedule reads as a list of expressions `name(argument, …)`. An argument is a literal or an
expression again. Every node keeps the token it began with, so that later complaints can point
at it.
-/

namespace Schedule

/-- What a literal argument denotes. Numbers of a range are in no order; the ends of a range of
weekdays are given as ordinals from Monday = 1, months count from 1. -/
inductive Operand where
  | number (value : Int)
  | range (low high : Int)
  | days (low high : Int)
  | dates (low high : MonthDay)
  | wildcard
  deriving DecidableEq, Repr

/-- A literal argument: its operand, the token it began with, whether it is excluded, and its
modulus. -/
structure Literal where
  operand : Operand
  first : Token
  exclude : Bool := false
  modulus : Option Int := none
  deriving DecidableEq, Repr

/-- A node of the tree: a literal, or an expression with its name, first token and arguments. -/
inductive Node where
  | literal (literal : Literal)
  | expression (name : String) (first : Token) (arguments : List Node)
  deriving Repr, Inhabited

namespace Node

/-- The token the node began with. -/
def first : Node → Token
  | literal l => l.first
  | expression _ first _ => first

mutual

/-- How many expressions are nested in one another at the deepest place of a node. -/
def depth : Node → Nat
  | literal _ => 0
  | expression _ _ arguments => depthAll arguments + 1

/-- The greatest depth among some nodes. -/
def depthAll : List Node → Nat
  | [] => 0
  | node :: nodes => max (depth node) (depthAll nodes)

end

end Node

/-- An expression, taken by itself. -/
structure Expression where
  name : String
  first : Token
  arguments : List Node
  deriving Repr, Inhabited

namespace Expression

/-- The expression as a node. -/
def toNode (e : Expression) : Node :=
  .expression e.name e.first e.arguments

/-- The expression opens a group. -/
def isGroup (e : Expression) : Bool :=
  isGroupName e.name

end Expression

end Schedule
