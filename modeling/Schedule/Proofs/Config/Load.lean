import Schedule.Config.Load
import Schedule.Proofs.Config.Merge
import Schedule.Proofs.Files
import Schedule.Yaml

/-! # Where a loaded configuration comes from

A file that gives a valid configuration by itself and an environment that does so by itself give one
together. Every setting of it comes from the environment if that has its variable, else from the
file if that gives it, else it is the built-in one. A file that gives no valid configuration by
itself cannot be mended by the environment.
-/

namespace Schedule

theorem Setting.key_injective {a b : Setting} (same : a.key = b.key) : a = b := by
  revert same
  cases a <;> cases b <;> decide

/-- The file at the path is read as the document. -/
def Files.Holds (files : Files) (read : DocumentReader) (path : String) (document : Value) : Prop :=
  (Path.plain path).contains '\x00' = false ∧
    ∃ content, files.read (Path.plain path) = .ok content ∧ read content = .ok document

namespace Config

variable {config merged : Config} {entries : Mapping} {setting : Setting} {document : Value}
variable {files : Files} {read : DocumentReader} {path : String}
variable {environment : List (String × String)}

/-- A document gives these settings: those under its key `schedlang` if that is a mapping, whatever
else the document holds, or else those of the document itself if it is one. A document that says
nothing gives none. -/
inductive Gives : Value → Mapping → Prop where
  | nested {document nested : Mapping}
      (found : document.find? (.text "schedlang") = some (.mapping nested)) :
      Gives (.mapping document) nested
  | top {document : Mapping}
      (other : ∀ nested, document.find? (.text "schedlang") ≠ some (.mapping nested)) :
      Gives (.mapping document) document
  | nothing {document : Value} (void : document.isVoid = true) : Gives document []

/-- An empty mapping gives itself, so that it need not be told from other mappings. -/
theorem documentMapping_mapping (path : String) (document : Mapping) :
    documentMapping path (.mapping document) =
      match document.find? (.text "schedlang") with
      | some (.mapping nested) => .ok nested
      | _ => .ok document := by
  cases document with
  | nil => rfl
  | cons entry rest =>
    unfold documentMapping
    exact if_neg (by simp [Value.isVoid])

theorem documentMapping_eq_ok_iff :
    documentMapping path document = .ok entries ↔ Gives document entries := by
  constructor
  · intro success
    unfold documentMapping at success
    split at success
    · next void =>
      cases success
      exact .nothing void
    · split at success
      · split at success
        · next nested found =>
          cases success
          exact .nested found
        · next other =>
          cases success
          exact .top other
      · contradiction
  · intro gives
    cases gives with
    | nested found => rw [documentMapping_mapping, found]
    | top other =>
      rw [documentMapping_mapping]
      split
      · next nested found => exact absurd found (other nested)
      · rfl
    | nothing void =>
      unfold documentMapping
      rw [if_pos void]

/-- What a file gives is what its document gives. -/
theorem ofFile_eq (holds : files.Holds read path document) :
    ofFile files read path = (documentMapping (Path.plain path) document).bind ofMapping := by
  obtain ⟨plain, content, found, reads⟩ := holds
  unfold ofFile
  dsimp only
  rw [if_neg (by simp [plain]), found]
  simp only [Except.mapError, bind, Except.bind, reads]

/-! ### The environment -/

/-- The entry of the environment for a setting, if its variable is set. -/
def variablePair? (environment : List (String × String)) (setting : Setting) :
    Option (Value × Value) :=
  (environment.lookup (variableName setting)).map fun value => (.text setting.key, .text value)

theorem given?_variablePairs (environment : List (String × String))
    (settings : List Setting) (setting : Setting) :
    Mapping.given? (settings.filterMap (variablePair? environment)) setting =
      if setting ∈ settings then (environment.lookup (variableName setting)).map .text
      else none := by
  induction settings with
  | nil => rfl
  | cons first settings ih =>
    rw [List.filterMap_cons]
    by_cases same : setting = first
    · subst same
      rw [if_pos List.mem_cons_self]
      cases found : environment.lookup (variableName setting) with
      | none => simp [variablePair?, found, ih]
      | some value =>
        simp only [variablePair?, found, Option.map_some]
        exact Mapping.given?_cons_same _ rfl
    · have kept : setting ∈ first :: settings ↔ setting ∈ settings := by simp [same]
      simp only [kept, ← ih]
      cases found : environment.lookup (variableName first) with
      | none => simp only [variablePair?, found, Option.map_none]
      | some value =>
        simp only [variablePair?, found, Option.map_some]
        apply Mapping.given?_cons_other
        intro key
        exact same (Setting.key_injective (Value.text.inj key)).symm

/-- The environment gives a setting the text of its variable. -/
theorem given?_environmentMapping (environment : List (String × String)) (setting : Setting) :
    (environmentMapping environment).given? setting =
      (environment.lookup (variableName setting)).map .text :=
  (given?_variablePairs environment Setting.all setting).trans (if_pos setting.mem_all)

/-! ### What can be merged -/

/-- A setting may have a value that it has in some valid configuration. -/
def Admits (setting : Setting) (value : Value) : Prop :=
  ∃ config : Config, config.Valid ∧ config.get setting = value

/-- Whether a value is within its bounds does not depend on the other settings. -/
theorem valid_iff_admits : config.Valid ↔ ∀ setting, Admits setting (config.get setting) := by
  constructor
  · exact fun valid setting => ⟨config, valid, rfl⟩
  · intro admits
    obtain ⟨_, deep, depth⟩ := admits .maxDepth
    obtain ⟨_, back, before⟩ := admits .contextBefore
    obtain ⟨_, ahead, after⟩ := admits .contextAfter
    obtain ⟨_, known, level⟩ := admits .logLevel
    have depth := Value.integer.inj depth
    have before := Value.integer.inj before
    have after := Value.integer.inj after
    have level := Value.text.inj level
    exact ⟨depth ▸ deep.shallowest, depth ▸ deep.deepest, before ▸ back.before,
      after ▸ ahead.after, level ▸ known.level⟩

/-- There is a configuration with any values that its settings may have. -/
theorem exists_get {values : Setting → Value}
    (admits : ∀ setting, Admits setting (values setting)) :
    ∃ config : Config, ∀ setting, config.get setting = values setting := by
  choose configs _ same using admits
  refine ⟨⟨(configs .maxDepth).maxDepth, (configs .contextBefore).contextBefore,
    (configs .contextAfter).contextAfter, (configs .logLevel).logLevel⟩, fun setting => ?_⟩
  rw [← same setting]
  cases setting <;> rfl

/-- A mapping can be merged if every setting resolves to a value that it may have. -/
theorem exists_merge_iff : (∃ merged, config.merge entries = .ok merged) ↔
    ∀ setting, ∃ value, config.resolve? entries setting = some value ∧ Admits setting value := by
  constructor
  · rintro ⟨merged, success⟩ setting
    obtain ⟨valid, resolves⟩ := merge_eq_ok_iff.mp success
    exact ⟨_, resolves setting, valid_iff_admits.mp valid setting⟩
  · intro resolves
    choose values resolved admits using resolves
    obtain ⟨merged, same⟩ := exists_get admits
    refine ⟨merged, merge_eq_ok_iff.mpr ⟨valid_iff_admits.mpr fun setting => ?_, fun setting => ?_⟩⟩
    · rw [same]
      exact admits setting
    · rw [same, resolved]

/-- What can be merged into one configuration can be merged into any that is valid. -/
theorem exists_merge_of_valid {base : Config} (valid : config.Valid)
    (alone : ∃ merged, base.merge entries = .ok merged) :
    ∃ merged, config.merge entries = .ok merged := by
  rw [exists_merge_iff] at alone ⊢
  intro setting
  cases gives : entries.given? setting with
  | none => exact ⟨_, resolve?_of_none gives, valid_iff_admits.mp valid setting⟩
  | some given =>
    obtain ⟨value, resolved, admits⟩ := alone setting
    rw [resolve?_of_given gives] at resolved
    exact ⟨value, by rw [resolve?_of_given gives, resolved], admits⟩

/-- What is loaded is valid, the environment being merged last. -/
theorem valid_of_load {path : Option String}
    (success : load files read path environment = .ok config) : config.Valid := by
  cases path with
  | none => exact valid_of_merge success
  | some path =>
    obtain ⟨_, _, merged⟩ := bind_eq_ok_iff.mp success
    exact valid_of_merge merged

/-- A file and an environment that are valid by themselves are loaded together: every setting is
that of the environment, else that of the file, else the built-in one. A file that is not valid by
itself is not loaded under any environment. -/
theorem load_layered (files : Files) (read : DocumentReader) (path : String) (document : Value)
    (holds : files.Holds read path document) (environment : List (String × String)) :
    (∀ entries, Gives document entries → (∃ filed, ofMapping entries = .ok filed) →
      (∃ alone, ofEnvironment environment = .ok alone) →
      ∃ config, load files read (some path) environment = .ok config ∧ ∀ setting : Setting,
        (match environment.lookup (variableName setting), entries.given? setting with
          | some text, _ => setting.convert? (.text text)
          | none, some given => setting.convert? given
          | none, none => some (get {} setting)) = some (config.get setting)) ∧
    ((∀ entries, Gives document entries → ∃ error, ofMapping entries = .error error) →
      ∃ error, ofFile files read path = .error error ∧
        load files read (some path) environment = .error error) := by
  constructor
  · rintro entries gives ⟨filed, success⟩ alone
    have file : ofFile files read path = .ok filed := by
      rw [ofFile_eq holds, documentMapping_eq_ok_iff.mpr gives]
      exact success
    obtain ⟨config, merged⟩ := exists_merge_of_valid (valid_of_merge success) alone
    refine ⟨config, ?_, fun setting => ?_⟩
    · rw [load]
      simp only [file]
      exact merged
    · have given := given?_environmentMapping environment setting
      cases found : environment.lookup (variableName setting) with
      | some text =>
        rw [found, Option.map_some] at given
        exact get_of_merge merged given
      | none =>
        rw [found, Option.map_none] at given
        rw [get_of_merge_none merged given]
        cases given' : entries.given? setting with
        | some value => exact get_of_merge success given'
        | none => rw [get_of_merge_none success given']
  · intro invalid
    have file : ∃ error, ofFile files read path = .error error := by
      rw [ofFile_eq holds]
      cases outcome : documentMapping (Path.plain path) document with
      | error error => exact ⟨error, rfl⟩
      | ok entries => exact invalid entries (documentMapping_eq_ok_iff.mp outcome)
    obtain ⟨error, failed⟩ := file
    refine ⟨error, failed, ?_⟩
    rw [load]
    simp only [failed]
    rfl

example : Setting.all.map variableName = ["SCHEDLANG_MAX_DEPTH", "SCHEDLANG_CONTEXT_BEFORE",
    "SCHEDLANG_CONTEXT_AFTER", "SCHEDLANG_LOG_LEVEL"] := by decide +kernel

/-- A depth that the environment replaces: the file is loaded if its own is valid, and not if it is
too small. -/
theorem load_layered_depth :
    let path := "schedlang.yaml"
    let bytes := "'schedlang':\n 'max_depth': '5'\n'a': ''".toUTF8
    let bytes' := "'max_depth': '0'".toUTF8
    let files := Entry.files (.directory [(path, .file bytes)])
    let files' := Entry.files (.directory [(path, .file bytes')])
    let given : Mapping := [(.text "max_depth", .text "5")]
    let given' : Mapping := [(.text "max_depth", .text "0")]
    let document : Value := .mapping [(.text "schedlang", .mapping given), (.text "a", .text "")]
    let environment := [("SCHEDLANG_MAX_DEPTH", "7")]
    (files.Holds Yaml.reader path document ∧ Gives document given ∧
      ofMapping given = .ok { maxDepth := 5 } ∧
      ofEnvironment environment = .ok { maxDepth := 7 } ∧
      ∃ config, load files Yaml.reader (some path) environment = .ok config ∧
        some (Value.integer 7) = some (config.get .maxDepth)) ∧
    (files'.Holds Yaml.reader path (.mapping given') ∧
      (∀ entries, Gives (.mapping given') entries → ∃ error, ofMapping entries = .error error) ∧
      ∃ error, load files' Yaml.reader (some path) environment = .error error) := by
  intro path bytes bytes' files files' given given' document environment
  have gives : Gives document given := .nested rfl
  have alone : ofMapping given = .ok { maxDepth := 5 } := rfl
  have alone' : ofEnvironment environment = .ok { maxDepth := 7 } := rfl
  have invalid : ∀ entries, Gives (.mapping given') entries →
      ∃ error, ofMapping entries = .error error := by
    intro entries gives
    cases gives with
    | nested found => contradiction
    | top other => exact ⟨_, rfl⟩
    | nothing void => contradiction
  have named : Path.IsName path := by constructor <;> decide +kernel
  have fits : path.utf8ByteSize ≤ Path.longestName := by decide +kernel
  have noNull : (Path.plain path).contains '\x00' = false := by
    rw [named.plain_eq]
    exact Path.contains_null_eq_false (by decide +kernel)
  let quoted (text : String) : Yaml.Lexeme := .quoted (text.toList.map Char.toNat)
  have reads : Yaml.reader bytes = .ok document := by
    have text : Yaml.Source.ofBytes bytes =
        ⟨"'schedlang':\n 'max_depth': '5'\n'a': ''".toList, none⟩ := by decide +kernel
    have lexemes : Yaml.lex ⟨"'schedlang':\n 'max_depth': '5'\n'a': ''".toList, none⟩ =
        ⟨[.blockMapping, .key, quoted "schedlang", .value, .blockMapping, .key, quoted "max_depth",
          .value, quoted "5", .blockEnd, .key, quoted "a", .value, quoted "", .blockEnd],
          none⟩ := by
      decide +kernel
    rw [Yaml.reader_eq text lexemes]
    rfl
  have reads' : Yaml.reader bytes' = .ok (.mapping given') := by
    have text : Yaml.Source.ofBytes bytes' = ⟨"'max_depth': '0'".toList, none⟩ := by
      decide +kernel
    have lexemes : Yaml.lex ⟨"'max_depth': '0'".toList, none⟩ =
        ⟨[.blockMapping, .key, quoted "max_depth", .value, quoted "0", .blockEnd], none⟩ := by
      decide +kernel
    rw [Yaml.reader_eq text lexemes]
    rfl
  have holds : files.Holds Yaml.reader path document :=
    ⟨noNull, bytes, named.read_eq fits rfl, reads⟩
  have holds' : files'.Holds Yaml.reader path (.mapping given') :=
    ⟨noNull, bytes', named.read_eq fits rfl, reads'⟩
  obtain ⟨config, loaded, settings⟩ :=
    (load_layered files Yaml.reader path document holds environment).1 given gives
      ⟨_, alone⟩ ⟨_, alone'⟩
  obtain ⟨error, _, failed⟩ :=
    (load_layered files' Yaml.reader path _ holds' environment).2 invalid
  exact ⟨⟨holds, gives, alone, alone', config, loaded, settings .maxDepth⟩,
    holds', invalid, error, failed⟩

end Config

end Schedule
