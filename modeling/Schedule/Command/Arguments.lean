import Schedule.Command

/-! # Arguments of the command line

A command line is a command and what it is asked for: an expression, perhaps a configuration file
after `--config` or `-c`, and perhaps `--verbose` or `-v`. After `--` nothing is an option.
-/

namespace Schedule.Command

/-- What a command line asks for. -/
inductive Invocation where
  | compile (request : Request)
  | validate (request : Request)
  | fields
  deriving DecidableEq, Repr

/-- The line shown for a command line that asks for nothing. -/
def usage : String :=
  "usage: compile|validate [--config PATH] [--verbose] EXPRESSION, or fields"

/-- What has been read of a request: the expression may still be missing. -/
structure Draft where
  expression : Option String := none
  configPath : Option String := none
  verbose : Bool := false

namespace Draft

/-- Takes an expression, of which there may be one only. -/
def withExpression? (draft : Draft) (expression : String) : Option Draft :=
  match draft.expression with
  | none => some { draft with expression := some expression }
  | some _ => none

/-- Reads the arguments after the command. `plain` says that no options are left. -/
def read? (draft : Draft) (plain : Bool) : List String → Option Draft
  | [] => some draft
  | argument :: rest =>
    if plain ∨ !argument.startsWith "-" ∨ argument = "-" then
      match draft.withExpression? argument with
      | some draft => draft.read? plain rest
      | none => none
    else if argument = "--" then draft.read? true rest
    else if argument = "--verbose" ∨ argument = "-v" then
      { draft with verbose := true }.read? plain rest
    else if argument = "--config" ∨ argument = "-c" then
      match rest with
      | path :: rest => { draft with configPath := some path }.read? plain rest
      | [] => none
    else none

/-- The request, if it has an expression. -/
def request? (draft : Draft) : Option Request :=
  draft.expression.map fun expression => ⟨expression, draft.configPath, draft.verbose⟩

end Draft

/-- The request that the arguments after a command make. -/
def request? (arguments : List String) : Option Request :=
  (Draft.read? {} false arguments).bind Draft.request?

/-- What a command line asks for, if it asks for anything. -/
def Invocation.ofArguments? : List String → Option Invocation
  | "compile" :: arguments => (request? arguments).map .compile
  | "validate" :: arguments => (request? arguments).map .validate
  | ["fields"] => some .fields
  | _ => none

/-- The configuration file that a command line names. -/
def Invocation.configPath? : Invocation → Option String
  | .compile request | .validate request => request.configPath
  | .fields => none

/-- Carries out what a command line asks for. -/
def Invocation.run (setup : Setup) : Invocation → Outcome
  | .compile request => Command.compile setup request
  | .validate request => Command.validate setup request
  | .fields => Command.fields

end Schedule.Command
