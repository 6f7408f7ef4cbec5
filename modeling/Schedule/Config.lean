import Schedule.Diagnostic
import Schedule.Log
import Schedule.Numeral
import Schedule.Text.Blank
import Schedule.Token
import Schedule.Value

/-! # Configuration

Four settings govern a compilation: how deep expressions may nest, how much text a diagnostic shows
before and after a token, and the level of the log. A configuration is made from the built-in one
by merging mappings into it; what a mapping says of a setting replaces what was there. A
configuration whose settings are out of their bounds is never handed out: all its problems are
reported together.
-/

namespace Schedule

/-- The settings, in the order in which they are checked. -/
inductive Setting where
  | maxDepth | contextBefore | contextAfter | logLevel
  deriving DecidableEq, Repr

namespace Setting

/-- The settings in order. -/
def all : List Setting := [maxDepth, contextBefore, contextAfter, logLevel]

/-- The key under which a mapping holds a setting. -/
def key : Setting → String
  | maxDepth => "max_depth"
  | contextBefore => "context_before"
  | contextAfter => "context_after"
  | logLevel => "log_level"

end Setting

/-- The settings of a compilation, with their built-in values. -/
structure Config where
  maxDepth : Int := 16
  contextBefore : Int := 10
  contextAfter : Int := 20
  logLevel : String := "WARNING"
  deriving DecidableEq, Repr

/-- What is wrong with one setting. A level that is a broken text is unknown too. -/
inductive Problem where
  | tooShallow (depth : Int)
  | tooDeep (depth : Int)
  | negative (setting : Setting) (value : Int)
  | unknownLevel (level : String)
  | brokenLevel (codes : List Nat)
  | notInteger (setting : Setting) (value : Value)

/-- The greatest depth that may be allowed. -/
def greatestDepth : Int := 256

/-- The names of the levels that a configuration may choose. -/
def levelNames : List String := ["DEBUG", "INFO", "WARNING", "ERROR", "CRITICAL"]

namespace Problem

/-- The text shown for a problem of the level, of which the quoted form is given. -/
def levelMessage (quoted : String) : String :=
  "log_level must be one of " ++ ", ".intercalate levelNames ++ ", got " ++ quoted

/-- The text shown for a problem. -/
def message : Problem → String
  | tooShallow depth => "max_depth must be at least 1, got " ++ toString depth
  | tooDeep depth =>
    "max_depth cannot exceed " ++ toString greatestDepth ++ ", got " ++ toString depth
  | negative setting value => setting.key ++ " cannot be negative, got " ++ toString value
  | unknownLevel level => levelMessage (Text.quote level)
  | brokenLevel codes => levelMessage (Text.quoteCodes codes)
  | notInteger setting value => setting.key ++ " must be an integer, got " ++ value.describe

/-- Every number that the text of a problem shows is short enough to be written. -/
def isWritable : Problem → Bool
  | tooShallow value | tooDeep value | negative _ value => Numeral.isWritable value
  | unknownLevel _ | brokenLevel _ => true
  | notInteger _ value => value.isWritable

/-- The value is of the wrong kind, whatever its bounds. -/
def isKind : Problem → Bool
  | notInteger _ _ => true
  | _ => false

end Problem

namespace Config

/-- The window of diagnostics. -/
def window (config : Config) : Window :=
  ⟨config.contextBefore, config.contextAfter⟩

/-- Everything that is wrong with the settings, in order. -/
def problems (config : Config) : List Problem :=
  (if config.maxDepth < 1 then [.tooShallow config.maxDepth]
    else if greatestDepth < config.maxDepth then [.tooDeep config.maxDepth] else []) ++
  (if config.contextBefore < 0 then [.negative .contextBefore config.contextBefore] else []) ++
  (if config.contextAfter < 0 then [.negative .contextAfter config.contextAfter] else []) ++
  (if levelNames.contains (Text.upper config.logLevel) then []
    else [.unknownLevel config.logLevel])

/-- Replaces an integer setting. The level of the log is not one. -/
def withInteger (config : Config) (setting : Setting) (value : Int) : Config :=
  match setting with
  | .maxDepth => { config with maxDepth := value }
  | .contextBefore => { config with contextBefore := value }
  | .contextAfter => { config with contextAfter := value }
  | .logLevel => config

end Config

/-- Why there is no configuration. The file of an unreadable, malformed or misshapen one is named
by its path. The last four do not say what is wrong with the settings or the form of the file: its
bytes encode no text, reading it fails in another way, a value cannot be used or shown, or the path
has a null character. -/
inductive ConfigError where
  | invalid (problems : List Problem)
  | unreadable (path reason : String)
  | malformed (path reason : String)
  | notMapping (path : String)
  | undecodable (reason : String)
  | unread (kind reason : String)
  | unusable (fault : ValueFault)
  | nullInPath

/-- The error for some problems, if all of them can be shown. -/
def ConfigError.ofProblems (problems : List Problem) : ConfigError :=
  if problems.all Problem.isWritable then invalid problems else unusable .unwritable

/-- The digits of an integer setting that is written as a text, with its sign: an optional sign and
1 to 18 digits between padding. -/
def integerDigits? (text : String) : Option (Bool × List Char) :=
  let signed := Text.strip text.toList
  let (negative, digits) := match signed with
    | '+' :: digits => (false, digits)
    | '-' :: digits => (true, digits)
    | digits => (false, digits)
  if !digits.isEmpty ∧ digits.all isDigit ∧ digits.length ≤ 18 then some (negative, digits)
  else none

namespace Value

/-- The whole number that a value gives for an integer setting, if it gives one: a whole number, or
a text of digits. Padding of information separators around the digits is an error of its own. -/
def asInteger : Value → Except ValueFault (Option Int)
  | integer value => .ok (some value)
  | text value =>
    match integerDigits? value with
    | none => .ok none
    | some (negative, digits) =>
      if value.toList.any Text.isSeparator then .error (.badNumeral 10 value)
      else
        let magnitude : Int := Numeral.value digits
        .ok (some (if negative then -magnitude else magnitude))
  | _ => .ok none

end Value

namespace Mapping

/-- What the mapping gives for a setting. Nothing counts as not given. -/
def given? (entries : Mapping) (setting : Setting) : Option Value :=
  match entries.find? (.text setting.key) with
  | some .null => none
  | given => given

end Mapping

namespace Config

/-- The configuration if nothing is wrong with it and nothing was found before. -/
def settle (config : Config) (found : List Problem) : Except ConfigError Config :=
  match config.problems ++ found with
  | [] => .ok config
  | problems => .error (.ofProblems problems)

/-- The configuration if nothing is wrong with it. -/
def check (config : Config) : Except ConfigError Config :=
  config.settle []

/-- Takes over what a mapping gives for one setting, or notes what is wrong with it already. -/
def absorb (entries : Mapping) (state : Config × List Problem) (setting : Setting) :
    Except ConfigError (Config × List Problem) :=
  match entries.given? setting, setting with
  | none, _ => .ok state
  | some (.brokenText codes), .logLevel => .ok (state.1, state.2 ++ [.brokenLevel codes])
  | some value, .logLevel =>
    if value.isWritable then .ok ({ state.1 with logLevel := value.asText }, state.2)
    else .error (.unusable .unwritable)
  | some value, setting =>
    match value.asInteger with
    | .error fault => .error (.unusable fault)
    | .ok none =>
      if value.isWritable then .ok (state.1, state.2 ++ [.notInteger setting value])
      else .error (.unusable .unwritable)
    | .ok (some number) => .ok (state.1.withInteger setting number, state.2)

/-- The configuration with the settings that a mapping gives. Values of the wrong kind are reported
before any value is checked against its bounds. -/
def merge (config : Config) (entries : Mapping) : Except ConfigError Config := do
  let (merged, found) ← Setting.all.foldlM (absorb entries) (config, [])
  match found.filter Problem.isKind with
  | [] => merged.settle found
  | kinds => .error (.invalid kinds)

/-- The built-in configuration with the settings that a mapping gives. -/
def ofMapping (entries : Mapping) : Except ConfigError Config :=
  merge {} entries

/-- The variable of the environment that holds a setting. -/
def variableName (setting : Setting) : String :=
  "SCHEDLANG_" ++ Text.upper setting.key

/-- The settings that the environment gives. -/
def environmentMapping (environment : List (String × String)) : Mapping :=
  Setting.all.filterMap fun setting =>
    (environment.lookup (variableName setting)).map fun value => (.text setting.key, .text value)

/-- The built-in configuration with the settings that the environment gives. -/
def ofEnvironment (environment : List (String × String)) : Except ConfigError Config :=
  ofMapping (environmentMapping environment)

end Config

namespace ConfigError

/-- The problems of the settings, if the settings are what is wrong. -/
def problems? : ConfigError → Option (List String)
  | invalid problems => some (problems.map Problem.message)
  | _ => none

/-- The text shown for an error. -/
def message : ConfigError → String
  | invalid problems =>
    "Configuration validation failed: " ++ ", ".intercalate (problems.map Problem.message)
  | unreadable path reason => "Cannot read configuration file " ++ path ++ ": " ++ reason
  | malformed path reason => "Invalid YAML in " ++ path ++ ": " ++ reason
  | notMapping path => "Configuration file " ++ path ++ " must contain a mapping"
  | undecodable reason => reason
  | unread _ reason => reason
  | unusable fault => fault.message
  | nullInPath => "embedded null byte"

end ConfigError

end Schedule
