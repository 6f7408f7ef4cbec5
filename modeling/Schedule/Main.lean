import Schedule.Command.Arguments
import Schedule.Yaml

/-! # The program

Reads the one file and the variables that a command line depends on, carries it out, and prints
what comes of it. Everything else is pure.
-/

namespace Schedule

/-- The code of a fault of the system and its name. -/
def systemFault : IO.Error → UInt32 × String
  | .alreadyExists _ code name | .otherError code name | .resourceBusy code name
  | .resourceVanished code name | .unsupportedOperation code name | .hardwareFault code name
  | .unsatisfiedConstraints code name | .illegalOperation code name | .protocolError code name
  | .timeExpired code name | .interrupted _ code name | .noFileOrDirectory _ code name
  | .invalidArgument _ code name | .permissionDenied _ code name | .resourceExhausted _ code name
  | .inappropriateType _ code name | .noSuchThing _ code name => (code, name)
  | .unexpectedEof => (0, "Unexpected end of file")
  | .userError message => (0, message)

/-- The fault with a number, known by the name that the program has for it or else by the given
one. -/
def namedFault (number : Nat) (name path : String) : FileFault :=
  let known := [FileFault.missing path, FileFault.notDirectory path, FileFault.isDirectory path,
    FileFault.nameTooLong path]
  (known.find? (·.number == number)).getD (.ofError number name path)

/-- The files of the system, of which only the one at the path is looked at. It is looked up before
it is read; the code of a fault in looking up is negative. -/
def systemFiles (path : String) : IO Files := do
  try
    let content ← IO.FS.readBinFile path
    return ⟨fun _ => .ok (), fun _ => .ok content⟩
  catch error =>
    let (code, name) := systemFault error
    if code < 0x80000000 then
      let fault := namedFault code.toNat name path
      return ⟨fun _ => .ok (), fun _ => .error fault⟩
    else
      let fault := namedFault (0 - code).toNat name path
      return ⟨fun _ => .error fault, fun _ => .error fault⟩

/-- The variables of the environment that hold settings. -/
def readEnvironment : IO (List (String × String)) :=
  Setting.all.filterMapM fun setting => do
    let name := Config.variableName setting
    return (← IO.getEnv name).map fun value => (name, value)

/-- Prints an outcome: its records and errors on the error output, all else on the other. -/
def printOutcome (outcome : Outcome) : IO Unit := do
  for record in outcome.records do
    IO.eprintln (record.severity.name ++ " " ++ record.channel.name ++ ": " ++ record.message)
  for table in outcome.tables do
    IO.println table.text
  IO.print outcome.stdout
  IO.eprint outcome.stderr

/-- Runs a command line and gives its exit code, which is 2 if it asks for nothing. -/
def runProgram (arguments : List String) : IO UInt32 := do
  match Command.Invocation.ofArguments? arguments with
  | none =>
    IO.eprintln Command.usage
    return 2
  | some invocation =>
    let files ← match invocation.configPath? with
      | some path => systemFiles (Path.plain path)
      | none => pure (Entry.directory []).files
    let outcome := invocation.run ⟨files, Yaml.reader, ← readEnvironment, .colourless⟩
    printOutcome outcome
    return outcome.exitCode.toUInt32

end Schedule

/-- Runs the program. -/
def main (arguments : List String) : IO UInt32 :=
  Schedule.runProgram arguments
