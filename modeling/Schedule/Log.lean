import Schedule.Text.Quoted
import Schedule.Text.Upper

/-! # Log records

Reading and compiling leave records of what was done. Which of them are shown depends on the level
of the log: a record is shown if it is at least as severe. A log with level 0 has no level of its
own and shows warnings and worse.
-/

namespace Schedule

/-- How severe a record is. -/
inductive Severity where
  | debug | error
  deriving DecidableEq, Repr

namespace Severity

/-- The name of a severity. -/
def name : Severity → String
  | debug => "DEBUG"
  | error => "ERROR"

/-- The level that a severity stands for. -/
def level : Severity → Int
  | debug => 10
  | error => 40

end Severity

/-- The part of the program that a record comes from. -/
inductive Channel where
  | session | reading | compiling | command
  deriving DecidableEq, Repr

/-- The name under which a part of the program logs. -/
def Channel.name : Channel → String
  | session => "schedlang.builder"
  | reading => "schedlang.parser"
  | compiling => "schedlang.compiler"
  | command => "schedlang.cli_errors"

/-- One record of the log. -/
structure Record where
  severity : Severity
  channel : Channel
  message : String
  deriving DecidableEq, Repr

/-- A level as it is asked for: by name or by number. -/
inductive LevelChoice where
  | name (name : String)
  | number (level : Int)
  deriving DecidableEq, Repr

/-- A level name that stands for no level, in capitals. -/
structure UnknownLevel where
  name : String
  deriving DecidableEq, Repr

/-- The text shown for a name that stands for no level. -/
def UnknownLevel.message (fault : UnknownLevel) : String :=
  "Unknown level: " ++ Text.quote ("Level " ++ fault.name)

namespace LevelChoice

/-- The names of levels. -/
def names : List (String × Int) :=
  [("NOTSET", 0), ("DEBUG", 10), ("INFO", 20), ("WARN", 30), ("WARNING", 30), ("ERROR", 40),
    ("FATAL", 50), ("CRITICAL", 50)]

/-- The level that is asked for. Names are taken in any letter case, numbers as they are. -/
def level : LevelChoice → Except UnknownLevel Int
  | number level => .ok level
  | name text =>
    match names.lookup (Text.upper text) with
    | some level => .ok level
    | none => .error ⟨Text.upper text⟩

end LevelChoice

/-- The state of the log: its level and how many outputs it has. -/
structure Log where
  level : Int := 30
  outputs : Nat := 0
  deriving DecidableEq, Repr

namespace Log

/-- Sets the level and makes sure of an output. A log never gets a second one. -/
def configure (log : Log) (choice : LevelChoice) : Except UnknownLevel Log :=
  choice.level.map fun level => ⟨level, max log.outputs 1⟩

/-- The least level that is shown. -/
def threshold (log : Log) : Int :=
  if log.level = 0 then 30 else log.level

/-- The log shows a record. -/
def shows (log : Log) (record : Record) : Bool :=
  log.threshold ≤ record.severity.level

end Log

end Schedule
