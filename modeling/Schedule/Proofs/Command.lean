import Schedule.Command
import Schedule.Proofs.Config.Load
import Schedule.Proofs.Files
import Schedule.Proofs.Session

/-! # What the commands report

The commands that compile a schedule come to one ruling: the groups, or why there are none. It
decides the exit code and the error output of both, and they differ only in what they print of the
groups; if there are none, neither prints anything. How much is logged is no part of it.

A file that is asked for and is not there is told by an exit code of its own, unless looking it up
fails by a fault that does not tell this, such as that of a name that is too long.
-/

namespace Schedule

/-- On the error output, lines are printed without their colours. A line with an escape character of
its own may be printed in any way. -/
def Terminal.IsPlain (terminal : Terminal) : Prop :=
  ∀ colour text, '\x1b' ∉ text.toList → terminal.echo (terminal.style colour text) = text ++ "\n"

theorem Terminal.colourless_isPlain : colourless.IsPlain :=
  fun _ _ _ => rfl

namespace ConfigError

/-- The error tells what is wrong with the settings or the form of the file. -/
def isExpected : ConfigError → Bool
  | invalid _ | unreadable _ _ | malformed _ _ | notMapping _ => true
  | undecodable _ | unread _ _ | unusable _ | nullInPath => false

theorem fault_eq (error : ConfigError) :
    error.fault =
      if error.isExpected then .expected (.configuration error.message)
      else .unexpected error.message := by
  cases error <;> rfl

end ConfigError

namespace Command

variable {setup : Setup} {request : Request} {config : Config}

/-- The configuration file that is asked for is not there. -/
def Missing (setup : Setup) (request : Request) : Prop :=
  ∃ path, request.configPath = some path ∧ setup.files.Lacks (Path.plain path)

/-- Looking up the configuration file that is asked for fails by a fault that does not tell that it
is not there, be it there or not. -/
def Unclear (setup : Setup) (request : Request) : Prop :=
  ∃ path fault, request.configPath = some path ∧ setup.files.Hides (Path.plain path) fault

/-- The configuration file is neither missing nor unclear: it is there, if one is asked for. -/
def Found (setup : Setup) (request : Request) : Prop :=
  ¬ Missing setup request ∧ ¬ Unclear setup request

/-- What loading the configuration comes to. -/
def load (setup : Setup) (request : Request) : Except ConfigError Config :=
  Config.load setup.files setup.read request.configPath setup.environment

/-- The configuration file, if one is asked for, is there, and this is the configuration. -/
def Configured (setup : Setup) (request : Request) (config : Config) : Prop :=
  Found setup request ∧ load setup request = .ok config

/-- What a request comes to, whatever is printed of it: its groups, or why there are none. -/
def ruling (setup : Setup) (request : Request) : Except CommandFault (List RuleGroup) := do
  let config ← configuration setup request
  (Schedule.compile config request.expression).mapError
    (Failure.fault fun m => m.report request.expression config.window)

/-- How a command ends with a ruling, records apart. -/
def ending (terminal : Terminal) (finish : List RuleGroup → Outcome) :
    Except CommandFault (List RuleGroup) → Outcome
  | .ok groups => { finish groups with records := [] }
  | .error fault => { failed terminal {} [] fault with records := [] }

/-! ### Finding the configuration -/

theorem found_iff : Found setup request ↔
    ∀ path, request.configPath = some path → setup.files.Finds (Path.plain path) := by
  constructor
  · rintro ⟨there, clear⟩ path named
    exact Files.finds_iff.mpr ⟨fun lacks => there ⟨path, named, lacks⟩,
      fun fault hides => clear ⟨path, fault, named, hides⟩⟩
  · intro finds
    constructor
    · rintro ⟨path, named, lacks⟩
      exact (Files.finds_iff.mp (finds path named)).1 lacks
    · rintro ⟨path, fault, named, hides⟩
      exact (Files.finds_iff.mp (finds path named)).2 fault hides

/-- A configuration file that is found is there. -/
theorem found_of_finds {path : String} (named : request.configPath = some path)
    (finds : setup.files.Finds (Path.plain path)) : Found setup request :=
  found_iff.mpr fun other asked => by
    cases named.symm.trans asked
    exact finds

theorem configuration_of_found (there : Found setup request) :
    configuration setup request = (load setup request).mapError ConfigError.fault := by
  unfold configuration load
  cases named : request.configPath with
  | none => rfl
  | some path =>
    have found : setup.files.has (Path.plain path) = .ok true :=
      Files.has_eq_true_iff.mpr (found_iff.mp there path named)
    simp only [found]

theorem configuration_of_missing (missing : Missing setup request)
    (clear : ¬ Unclear setup request) :
    ∃ path, configuration setup request = .error (.expected (.fileNotFound path)) := by
  obtain ⟨path, named, lacks⟩ := missing
  have found : setup.files.has (Path.plain path) = .ok false :=
    Files.has_eq_false_iff.mpr ⟨lacks, fun fault hides => clear ⟨path, fault, named, hides⟩⟩
  refine ⟨Path.plain path, ?_⟩
  unfold configuration
  simp only [named, found]
  rfl

theorem configuration_of_unclear (unclear : Unclear setup request) :
    ∃ message, configuration setup request = .error (.unexpected message) := by
  obtain ⟨path, fault, named, hides⟩ := unclear
  refine ⟨fault.message, ?_⟩
  unfold configuration
  simp only [named, Files.has_eq_error_iff.mpr hides]
  rfl

theorem configuration_eq_ok_iff :
    configuration setup request = .ok config ↔ Configured setup request config := by
  constructor
  · intro found
    by_cases unclear : Unclear setup request
    · obtain ⟨message, failed⟩ := configuration_of_unclear unclear
      rw [failed] at found
      contradiction
    by_cases missing : Missing setup request
    · obtain ⟨path, failed⟩ := configuration_of_missing missing unclear
      rw [failed] at found
      contradiction
    rw [configuration_of_found ⟨missing, unclear⟩] at found
    exact ⟨⟨missing, unclear⟩, mapError_eq_ok_iff.mp found⟩
  · rintro ⟨there, loaded⟩
    rw [configuration_of_found there, loaded]
    rfl

/-! ### The ruling -/

/-- The ways in which a ruling comes about. -/
inductive Rules (setup : Setup) (request : Request) :
    Except CommandFault (List RuleGroup) → Prop where
  | unclear {message : String} (unclear : Unclear setup request) :
      Rules setup request (.error (.unexpected message))
  | missing {path : String} (missing : Missing setup request) (clear : ¬ Unclear setup request) :
      Rules setup request (.error (.expected (.fileNotFound path)))
  | unloaded {error : ConfigError} (there : Found setup request)
      (unloaded : load setup request = .error error) : Rules setup request (.error error.fault)
  | configured {config : Config} (configured : Configured setup request config) :
      Rules setup request ((Schedule.compile config request.expression).mapError
        (Failure.fault fun m => m.report request.expression config.window))

theorem ruling_of_configured (configured : Configured setup request config) :
    ruling setup request = (Schedule.compile config request.expression).mapError
      (Failure.fault fun m => m.report request.expression config.window) := by
  unfold ruling
  rw [configuration_eq_ok_iff.mpr configured]
  rfl

theorem rules_ruling (setup : Setup) (request : Request) :
    Rules setup request (ruling setup request) := by
  by_cases unclear : Unclear setup request
  · obtain ⟨message, found⟩ := configuration_of_unclear unclear
    rw [ruling, found]
    exact .unclear unclear
  by_cases missing : Missing setup request
  · obtain ⟨path, found⟩ := configuration_of_missing missing unclear
    rw [ruling, found]
    exact .missing missing unclear
  cases loaded : load setup request with
  | error error =>
    rw [ruling, configuration_of_found ⟨missing, unclear⟩, loaded]
    exact .unloaded ⟨missing, unclear⟩ loaded
  | ok config =>
    have configured : Configured setup request config := ⟨⟨missing, unclear⟩, loaded⟩
    rw [ruling_of_configured configured]
    exact .configured configured

/-! ### The log is no part of the ruling -/

theorem failed_records (terminal : Terminal) (log log' : Log) (records records' : List Record)
    (fault : CommandFault) :
    { failed terminal log records fault with records := [] } =
      { failed terminal log' records' fault with records := [] } := by
  cases fault <;> rfl

/-- The level of a valid configuration is one that the log can be set to. -/
theorem configure_levelChoice (valid : config.Valid) (request : Request) (log : Log) :
    ∃ log', log.configure (levelChoice request config) = .ok log' := by
  have level {name : String}
      (known : Text.upper name ∈ ["DEBUG", "INFO", "WARNING", "ERROR", "CRITICAL"]) :
      ∃ log', log.configure (.name name) = .ok log' := by
    simp only [List.mem_cons, List.not_mem_nil, or_false] at known
    unfold Log.configure LevelChoice.level
    dsimp only
    rcases known with same | same | same | same | same <;> rw [same] <;> exact ⟨_, rfl⟩
  unfold levelChoice
  split
  · exact level (by decide +kernel)
  · exact level valid.level

/-- Both commands end as the ruling says. -/
theorem compileWith_eq (finish : List RuleGroup → Outcome) (setup : Setup) (request : Request) :
    { compileWith finish setup request with records := [] } =
      ending setup.terminal finish (ruling setup request) := by
  unfold compileWith
  cases found : configuration setup request with
  | error fault =>
    rw [ruling, found]
    exact failed_records ..
  | ok config =>
    have configured := configuration_eq_ok_iff.mp found
    have outcome : (Session.start request.expression config).compile.outcome =
        Schedule.compile config request.expression := Session.compile_outcome _
    obtain ⟨log, level⟩ := configure_levelChoice (Config.valid_of_load configured.2) request {}
    rw [ruling_of_configured configured]
    dsimp only
    rw [level]
    dsimp only
    rw [outcome]
    cases Schedule.compile config request.expression with
    | ok groups => rfl
    | error failure => exact failed_records ..

/-! ### What is reported -/

/-- How the exit code of a command tells what a request comes to. A configuration file that is not
there comes before anything that is wrong with the configuration, and that before the schedule. -/
structure Told (setup : Setup) (request : Request) (code : Nat) : Prop where
  notFound : code = 10 ↔ Missing setup request ∧ ¬ Unclear setup request
  misconfigured : code = 31 ↔
    Found setup request ∧ ∃ error, load setup request = .error error ∧ error.isExpected = true
  unexpected : code = 1 ↔ Unclear setup request ∨
    (Found setup request ∧
      ∃ error, load setup request = .error error ∧ error.isExpected = false) ∨
    ∃ config numeral, Configured setup request config ∧
      Schedule.compile config request.expression = .error (.overlong numeral)
  mistaken : code = 20 ↔ ∃ config m, Configured setup request config ∧
    Schedule.compile config request.expression = .error (.mistake m)
  succeeded : code = 0 ↔ ∃ config groups, Configured setup request config ∧
    Schedule.compile config request.expression = .ok groups

/-- How the commands `compile` and `validate` report on a request. -/
structure Reported (setup : Setup) (request : Request) (compiled validated : Outcome) : Prop
    extends Told setup request compiled.exitCode where
  sameCode : compiled.exitCode = validated.exitCode
  sameErrors : compiled.stderr = validated.stderr
  /-- A mistake is shown as in its report. -/
  diagnostic : ∀ config m, Configured setup request config →
    Schedule.compile config request.expression = .error (.mistake m) →
    let text := "Error: " ++ (m.report request.expression config.window).text
    compiled.stderr = setup.terminal.echo (setup.terminal.style .red text) ∧
      (setup.terminal.IsPlain → '\x1b' ∉ text.toList → compiled.stderr = text ++ "\n")
  printed : ∀ config groups, Configured setup request config →
    Schedule.compile config request.expression = .ok groups →
    compiled.tables = groups.mapIdx (fun n group => group.table (n + 1 : Nat)) ∧
      compiled.tables.map Table.title =
        (List.range groups.length).map (fun n => "Group " ++ toString (n + 1)) ∧
      compiled.stdout = "" ∧ validated.tables = [] ∧
      validated.stdout = "Valid (" ++ toString groups.length ++ " rule group" ++
        (if groups.length = 1 then "" else "s") ++ ")\n"
  nothingPartial : compiled.exitCode ≠ 0 → compiled.tables = [] ∧ compiled.stdout = "" ∧
    validated.tables = [] ∧ validated.stdout = ""

/-- The exit code that tells a ruling. -/
def code : Except CommandFault (List RuleGroup) → Nat
  | .ok _ => 0
  | .error (.expected error) => error.code.number
  | .error (.unexpected _) => ExitCode.generalError.number

theorem told_code {ruling : Except CommandFault (List RuleGroup)}
    (rules : Rules setup request ruling) : Told setup request (code ruling) := by
  cases rules with
  | unclear unclear =>
    change Told setup request 1
    constructor <;> simp [Configured, Found, unclear]
  | missing missing clear =>
    change Told setup request 10
    constructor <;> simp [Configured, Found, missing, clear]
  | @unloaded error found unloaded =>
    obtain ⟨there, clear⟩ := found
    rw [ConfigError.fault_eq]
    cases expected : error.isExpected with
    | true =>
      change Told setup request 31
      constructor <;> simp [Configured, Found, there, clear, unloaded, expected]
    | false =>
      change Told setup request 1
      constructor <;> simp [Configured, Found, there, clear, unloaded, expected]
  | @configured config configured =>
    obtain ⟨⟨there, clear⟩, loaded⟩ := configured
    rcases outcome : Schedule.compile config request.expression with (m | numeral) | groups
    · change Told setup request 20
      constructor <;> simp [Configured, Found, there, clear, loaded, outcome]
    · change Told setup request 1
      constructor <;> simp [Configured, Found, there, clear, loaded, outcome]
    · change Told setup request 0
      constructor <;> simp [Configured, Found, there, clear, loaded, outcome]

theorem exitCode_compileWith {finish : List RuleGroup → Outcome}
    (fine : ∀ groups, (finish groups).exitCode = 0) (setup : Setup) (request : Request) :
    (compileWith finish setup request).exitCode = code (ruling setup request) := by
  refine (congrArg Outcome.exitCode (compileWith_eq finish setup request)).trans ?_
  rcases ruling setup request with (error | message) | groups
  · rfl
  · rfl
  · exact fine groups

theorem exitCode_compile (setup : Setup) (request : Request) :
    (compile setup request).exitCode = code (ruling setup request) :=
  exitCode_compileWith (fun _ => rfl) setup request

theorem exitCode_validate (setup : Setup) (request : Request) :
    (validate setup request).exitCode = code (ruling setup request) :=
  exitCode_compileWith (fun _ => rfl) setup request

theorem stderr_congr {finish finish' : List RuleGroup → Outcome}
    (same : ∀ groups, (finish groups).stderr = (finish' groups).stderr) (setup : Setup)
    (request : Request) :
    (compileWith finish setup request).stderr = (compileWith finish' setup request).stderr := by
  have left := congrArg Outcome.stderr (compileWith_eq finish setup request)
  have right := congrArg Outcome.stderr (compileWith_eq finish' setup request)
  refine left.trans (Eq.trans ?_ right.symm)
  cases ruling setup request with
  | ok groups => exact same groups
  | error fault => rfl

theorem compileWith_of_ruling_error {fault : CommandFault}
    (ruled : ruling setup request = .error fault) (finish : List RuleGroup → Outcome) :
    { compileWith finish setup request with records := [] } =
      { failed setup.terminal {} [] fault with records := [] } := by
  rw [compileWith_eq, ruled, ending]

theorem compileWith_of_groups {groups : List RuleGroup}
    (configured : Configured setup request config)
    (compiled : Schedule.compile config request.expression = .ok groups)
    (finish : List RuleGroup → Outcome) :
    { compileWith finish setup request with records := [] } =
      { finish groups with records := [] } := by
  rw [compileWith_eq, ruling_of_configured configured, compiled]
  rfl

theorem stderr_of_mistake {m : Mistake} (configured : Configured setup request config)
    (failed : Schedule.compile config request.expression = .error (.mistake m))
    (finish : List RuleGroup → Outcome) :
    (compileWith finish setup request).stderr =
      errorLine setup.terminal .red
        ("Error: " ++ (m.report request.expression config.window).text) := by
  have ruled : ruling setup request =
      .error (.expected (.invalidSchedule (m.report request.expression config.window))) := by
    rw [ruling_of_configured configured, failed]
    rfl
  exact (congrArg Outcome.stderr (compileWith_of_ruling_error ruled finish)).trans
    String.append_empty

/-- A command that fails prints nothing but errors. -/
theorem prints_nothing_of_failure (failure : code (ruling setup request) ≠ 0)
    (finish : List RuleGroup → Outcome) :
    (compileWith finish setup request).tables = [] ∧
      (compileWith finish setup request).stdout = "" := by
  cases ruled : ruling setup request with
  | ok groups =>
    rw [ruled] at failure
    exact absurd rfl failure
  | error fault =>
    have outcome := compileWith_of_ruling_error ruled finish
    have printed := congrArg Outcome.tables outcome
    have said := congrArg Outcome.stdout outcome
    cases fault <;> exact ⟨printed, said⟩

/-- The flag for more records is no part of what a request comes to. -/
theorem compileWith_verbose (finish : List RuleGroup → Outcome) (setup : Setup) (request : Request)
    (verbose : Bool) :
    { compileWith finish setup { request with verbose } with records := [] } =
      { compileWith finish setup request with records := [] } := by
  rw [compileWith_eq, compileWith_eq]
  rfl

theorem titles_groupTables (groups : List RuleGroup) :
    (groupTables groups).map Table.title =
      (List.range groups.length).map fun n => "Group " ++ toString (n + 1) := by
  refine List.ext_getElem (by simp [groupTables]) fun n _ _ => ?_
  simp only [groupTables, List.getElem_map, List.getElem_mapIdx, List.getElem_range]
  rfl

/-- Both commands report alike, and asking for more records changes nothing but the records. -/
theorem commands_report (setup : Setup) (request : Request) :
    Reported setup request (compile setup request) (validate setup request) ∧
    ∀ verbose,
      { compile setup { request with verbose } with records := [] } =
        { compile setup request with records := [] } ∧
      { validate setup { request with verbose } with records := [] } =
        { validate setup request with records := [] } := by
  have codes := exitCode_compile setup request
  have sameErrors : (compile setup request).stderr = (validate setup request).stderr :=
    stderr_congr
      (show ∀ groups, ({ tables := groupTables groups } : Outcome).stderr =
        ({ stdout := validLine groups.length } : Outcome).stderr from fun _ => rfl) setup request
  refine ⟨?_, fun verbose => ⟨compileWith_verbose .., compileWith_verbose ..⟩⟩
  exact
    { toTold := codes ▸ told_code (rules_ruling setup request)
      sameCode := codes.trans (exitCode_validate setup request).symm
      sameErrors := sameErrors
      diagnostic := fun config m configured failed => by
        have shown := stderr_of_mistake configured failed
        exact ⟨shown _, fun plain text => (shown _).trans (plain _ _ text)⟩
      printed := fun config groups configured compiled => by
        have outcome := compileWith_of_groups configured compiled
        have tables : (compile setup request).tables = groupTables groups :=
          congrArg Outcome.tables (outcome _)
        exact ⟨tables, tables ▸ titles_groupTables groups, congrArg Outcome.stdout (outcome _),
          congrArg Outcome.tables (outcome _), congrArg Outcome.stdout (outcome _)⟩
      nothingPartial := fun failure => by
        have nothing := prints_nothing_of_failure (codes ▸ failure)
        exact ⟨(nothing _).1, (nothing _).2, (nothing _).1, (nothing _).2⟩ }

/-- In an empty directory: two groups, a field that does not exist, and a file that is not there. -/
theorem commands_report_two_groups :
    let setup : Setup := { files := Entry.files (.directory []), read := Yaml.reader }
    let paired : Request := { expression := "group(hour(1)) min(5)" }
    let unknown : Request := { expression := "foo(1)" }
    let lost : Request := { expression := "foo(1)", configPath := some "none.yaml" }
    ((compile setup paired).exitCode = 0 ∧
      (compile setup paired).tables.map Table.title = ["Group 1", "Group 2"] ∧
      (validate setup paired).stdout = "Valid (2 rule groups)\n") ∧
    ((validate setup unknown).exitCode = 20 ∧ (validate setup unknown).stdout = "" ∧
      (validate setup unknown).stderr =
        "Error: Unknown expression foo\n    foo(1)\n    ^     \n") ∧
    (compile setup lost).exitCode = 10 := by
  intro setup paired unknown lost
  have configured (expression : String) : Configured setup { expression } {} := by
    refine ⟨found_iff.mpr fun _ named => ?_, rfl⟩
    contradiction
  refine ⟨?_, ?_, ?_⟩
  · obtain ⟨groups, compiled, two⟩ : ∃ groups,
        Schedule.compile {} paired.expression = .ok groups ∧ groups.length = 2 :=
      ⟨[{ includes := { seconds := some [.single 0], minutes := some [.single 0],
                        hours := some [.single 1], daysOfWeek := none, daysOfMonth := none,
                        dates := none } },
        { includes := { seconds := some [.single 0], minutes := some [.single 5], hours := none,
                        daysOfWeek := none, daysOfMonth := none, dates := none } }],
        by decide +kernel, rfl⟩
    have reported := (commands_report setup paired).1
    obtain ⟨_, titles, _, _, valid⟩ := reported.printed {} groups (configured _) compiled
    rw [two] at titles valid
    exact ⟨reported.succeeded.mpr ⟨_, _, configured _, compiled⟩, titles, valid⟩
  · have failed : Schedule.compile {} unknown.expression =
        .error (.mistake ⟨.unknownExpression "foo", ⟨0, "foo"⟩⟩) := by decide +kernel
    have reported := (commands_report setup unknown).1
    have code := reported.mistaken.mpr ⟨_, _, configured _, failed⟩
    have nothing := reported.nothingPartial (by rw [code]; decide)
    have shown := (reported.diagnostic _ _ (configured _) failed).2 Terminal.colourless_isPlain
      (by decide +kernel)
    refine ⟨reported.sameCode ▸ code, nothing.2.2.2, reported.sameErrors ▸ shown.trans ?_⟩
    decide +kernel
  · have has : setup.files.has (Path.plain "none.yaml") = .ok false := by
      have named : Path.IsName "none.yaml" := by constructor <;> decide +kernel
      have noNull : "none.yaml".contains '\x00' = false :=
        Path.contains_null_eq_false (by decide +kernel)
      rw [named.plain_eq, Files.has, if_neg (by simp [noNull])]
      rfl
    obtain ⟨missing, shown⟩ := Files.has_eq_false_iff.mp has
    refine (commands_report setup lost).1.notFound.mpr ⟨⟨_, rfl, missing⟩, ?_⟩
    rintro ⟨_, fault, named, hides⟩
    cases named
    exact shown fault hides

/-- A name of 256 letters in an empty directory: nothing is there, but the exit code is another. -/
theorem long_name_not_told_missing :
    let setup : Setup := { files := Entry.files (.directory []), read := Yaml.reader }
    let request : Request :=
      { expression := "hour(1)", configPath := some (String.ofList (List.replicate 256 'a')) }
    ¬ ((compile setup request).exitCode = 10 ↔ Missing setup request) ∧
      ¬ ((validate setup request).exitCode = 10 ↔ Missing setup request) := by
  intro setup request
  have other (c : Char) (differs : c ≠ 'a') :
      c ∉ (String.ofList (List.replicate 256 'a')).toList := by
    rw [String.toList_ofList]
    exact fun member => differs (List.eq_of_mem_replicate member)
  have long : Path.IsLongName (String.ofList (List.replicate 256 'a')) :=
    ⟨other _ (by decide), by decide +kernel⟩
  have plain := long.isName.plain_eq.symm
  have unclear : Unclear setup request :=
    ⟨_, _, rfl, plain ▸ long.hides (other _ (by decide)) []⟩
  have missing : Missing setup request := ⟨_, rfl, plain ▸ long.lacks []⟩
  have told := told_code (rules_ruling setup request)
  have code : code (ruling setup request) ≠ 10 := fun ten => (told.notFound.mp ten).2 unclear
  rw [exitCode_compile, exitCode_validate]
  exact ⟨fun same => code (same.mpr missing), fun same => code (same.mpr missing)⟩

end Command

end Schedule
