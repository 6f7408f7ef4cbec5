import Schedule.Config.Load
import Schedule.RuleGroup.Table
import Schedule.Session

/-! # The command line

Three commands: `compile` prints the rule groups of a schedule as tables, `validate` says how many
there are, and `fields` lists the fields. A command ends with an exit code that tells what went
wrong, prints errors and hints for mending them, and never prints part of a result. How an error is
coloured and what of that reaches the error output is up to the terminal.
-/

namespace Schedule

/-- What a failed command tells by its exit code. -/
inductive ExitCode where
  | generalError | fileNotFound | validationFailed | configInvalid
  deriving DecidableEq, Repr

/-- The number of an exit code. -/
def ExitCode.number : ExitCode → Nat
  | generalError => 1
  | fileNotFound => 10
  | validationFailed => 20
  | configInvalid => 31

/-- An error that ends a command: what happened, its exit code, and how it may be mended. -/
structure CommandError where
  message : String
  code : ExitCode := .generalError
  hint : Option String := none
  deriving DecidableEq, Repr

namespace CommandError

/-- The hint, if there is one that says anything. -/
def usefulHint? (error : CommandError) : Option String :=
  error.hint.filter (!·.isEmpty)

/-- The error with its hint on a line below. -/
def text (error : CommandError) : String :=
  match error.usefulHint? with
  | some hint => error.message ++ "\nHint: " ++ hint
  | none => error.message

/-- The error of a schedule with a mistake. -/
def invalidSchedule (report : Report) : CommandError :=
  ⟨report.text, .validationFailed, none⟩

/-- The error of a configuration that cannot be used. -/
def configuration (message : String) : CommandError :=
  ⟨message, .configInvalid, some "Check the configuration file format and values."⟩

/-- The error of a file that is not there. -/
def fileNotFound (path : String) : CommandError :=
  ⟨"File not found: " ++ path, .fileNotFound,
    some "Check that the file exists and the path is correct."⟩

end CommandError

/-- Why a command failed: with an error that is made for its reader, or with any other. -/
inductive CommandFault where
  | expected (error : CommandError)
  | unexpected (message : String)
  deriving DecidableEq, Repr

/-- What a configuration error means for a command. An error that does not come from the settings
or the form of the file is not expected. -/
def ConfigError.fault (error : ConfigError) : CommandFault :=
  match error with
  | .undecodable _ | .unread _ _ | .unusable _ | .nullInPath => .unexpected error.message
  | _ => .expected (.configuration error.message)

/-- What a failed compilation means for a command. -/
def Failure.fault (report : Mistake → Report) : Failure → CommandFault
  | .mistake m => .expected (.invalidSchedule (report m))
  | .overlong numeral => .unexpected numeral.message

/-- What a command prints and how it ends. -/
structure Outcome where
  exitCode : Nat := 0
  stdout : String := ""
  stderr : String := ""
  tables : List Table := []
  records : List Record := []
  deriving DecidableEq, Repr

/-- The colours in which lines are printed on the error output. -/
inductive Colour where
  | red | yellow
  deriving DecidableEq, Repr

/-- How a text is given a colour, and what is written on the error output for such a line. -/
structure Terminal where
  style : Colour → String → String
  echo : String → String

/-- A terminal without colours. -/
def Terminal.colourless : Terminal := ⟨fun _ text => text, (· ++ "\n")⟩

/-- The circumstances of a command: the files it can read, how it reads documents, its environment
and its terminal. -/
structure Setup where
  files : Files
  read : DocumentReader
  environment : List (String × String) := []
  terminal : Terminal := .colourless

/-- What a command that compiles a schedule is asked for. -/
structure Request where
  expression : String
  configPath : Option String := none
  verbose : Bool := false
  deriving DecidableEq, Repr

namespace Command

/-- A line on the error output in a colour. -/
def errorLine (terminal : Terminal) (colour : Colour) (text : String) : String :=
  terminal.echo (terminal.style colour text)

/-- The record of an error that was not expected. -/
def unexpectedRecord : Record :=
  ⟨.error, .command, "Unexpected error"⟩

/-- How a command ends that failed, after it left some records. -/
def failed (terminal : Terminal) (log : Log) (records : List Record) : CommandFault → Outcome
  | .expected error =>
    { exitCode := error.code.number
      stderr := errorLine terminal .red ("Error: " ++ error.message) ++
        match error.usefulHint? with
        | some hint => errorLine terminal .yellow ("Hint: " ++ hint)
        | none => ""
      records := records.filter log.shows }
  | .unexpected message =>
    { exitCode := ExitCode.generalError.number
      stderr := errorLine terminal .red ("Error: " ++ message)
      records := (records ++ [unexpectedRecord]).filter log.shows }

/-- The configuration that a request names, resolved. The file has to be there. -/
def configuration (setup : Setup) (request : Request) : Except CommandFault Config := do
  match request.configPath with
  | none => pure ()
  | some path =>
    let path := Path.plain path
    match setup.files.has path with
    | .ok true => pure ()
    | .ok false => .error (.expected (.fileNotFound path))
    | .error fault => .error (.unexpected fault.message)
  (Config.load setup.files setup.read request.configPath setup.environment).mapError
    ConfigError.fault

/-- The log level that a request asks for. -/
def levelChoice (request : Request) (config : Config) : LevelChoice :=
  .name (if request.verbose then "DEBUG" else config.logLevel)

/-- Compiles what a request asks for and ends as `finish` says. -/
def compileWith (finish : List RuleGroup → Outcome) (setup : Setup) (request : Request) :
    Outcome :=
  let log : Log := {}
  let failed := failed setup.terminal
  match configuration setup request with
  | .error fault => failed log [] fault
  | .ok config =>
    match log.configure (levelChoice request config) with
    | .error fault => failed log [] (.unexpected fault.message)
    | .ok log =>
      let session := Session.start request.expression config
      let stage := session.compile
      match stage.outcome with
      | .ok groups => { finish groups with records := stage.records.filter log.shows }
      | .error failure => failed log stage.records (failure.fault session.report)

/-- The tables of some groups, numbered from 1. -/
def groupTables (groups : List RuleGroup) : List Table :=
  groups.mapIdx fun n group => group.table (n + 1 : Nat)

/-- Prints the rule groups of a schedule. -/
def compile : Setup → Request → Outcome :=
  compileWith fun groups => { tables := groupTables groups }

/-- The line that says that a schedule is valid. -/
def validLine (count : Nat) : String :=
  "Valid (" ++ toString count ++ " rule group" ++ (if count = 1 then "" else "s") ++ ")\n"

/-- Says whether a schedule is valid. -/
def validate : Setup → Request → Outcome :=
  compileWith fun groups => { stdout := validLine groups.length }

/-- Lists the fields. -/
def fields : Outcome :=
  { tables := [Field.table] }

end Command

end Schedule
