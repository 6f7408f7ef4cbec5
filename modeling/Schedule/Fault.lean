import Schedule.Field
import Schedule.Numeral
import Schedule.Token

/-! # What can be wrong with a schedule

A schedule that does not compile has a mistake: a fault and the token to blame for it. One thing
can stop the reading without being anyone's mistake: a numeral with more digits than are ever
read, which can be small in value when it begins with zeros.
-/

namespace Schedule

/-- The faults of a schedule. The first thirteen are found when it is read, the others when its
tree is compiled. -/
inductive Fault where
  | endOfText
  | expectedExpression
  | nestedTooDeep
  | missingOpening
  | expectedOpening
  | missingClosing
  | emptyArgument
  | unexpectedToken
  | mixedRange
  | expectedNumber
  | numberTooLarge
  | invalidMonth
  | invalidDate
  | looseArgument
  | expectedRule
  | nestedGroup
  | unknownExpression (name : String)
  | nestedExpression (name : String)
  | noRules
  | misplacedDate
  | misplacedWeekday
  | belowLeast (field : Field)
  | aboveGreatest (field : Field)
  | dayZero
  | expectedDate
  | negativeModulus
  deriving DecidableEq, Repr

/-- The text shown for a fault. -/
def Fault.message : Fault → String
  | endOfText => "Unexpected end of format string."
  | expectedExpression => "Unexpected token. Expected an expression."
  | nestedTooDeep => "Expressions are nested too deeply."
  | missingOpening => "Expression has no opening parenthesis."
  | expectedOpening => "Unexpected token. Expected an opening parenthesis."
  | missingClosing => "Expression is missing a closing parenthesis."
  | emptyArgument => "Empty argument."
  | unexpectedToken => "Unexpected token in argument."
  | mixedRange => "Cannot mix numeric and date ranges."
  | expectedNumber => "Unknown argument syntax. Expected a number."
  | numberTooLarge => "Number is too large."
  | invalidMonth => "Invalid Month"
  | invalidDate => "Invalid Date"
  | looseArgument => "Syntax tree is invalid. Top-level item is not an expression."
  | expectedRule => "Expected an expression argument."
  | nestedGroup => "Groups cannot be nested."
  | unknownExpression name => "Unknown expression " ++ name
  | nestedExpression name =>
    "Invalid argument. Expressions cannot be nested inside " ++ name ++ "."
  | noRules => "No rules in schedule."
  | misplacedDate => "Invalid argument. Dates can only be used inside dates expressions."
  | misplacedWeekday => "Weekday names can only be used inside days_of_week expressions."
  | belowLeast field => "Minimum " ++ field.name ++ " value is " ++ toString field.least
  | aboveGreatest field => "Maximum " ++ field.name ++ " value is " ++ toString field.greatest
  | dayZero => "Day of month cannot be zero."
  | expectedDate => "Invalid argument. Expected a date."
  | negativeModulus => "Modulus value cannot be negative."

/-- A fault and the token to blame for it. -/
structure Mistake where
  fault : Fault
  token : Token
  deriving DecidableEq, Repr

/-- Why a schedule was not compiled. -/
inductive Failure where
  | mistake (mistake : Mistake)
  | overlong (numeral : Numeral.Overlong)
  deriving DecidableEq, Repr

/-- The outcome of a mistake at a token. -/
def blame {α : Type} (fault : Fault) (token : Token) : Except Failure α :=
  .error (.mistake ⟨fault, token⟩)

end Schedule
