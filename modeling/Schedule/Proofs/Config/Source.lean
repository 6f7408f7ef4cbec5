import Schedule.Proofs.Command
import Schedule.Proofs.Config.IntegerText
import Schedule.Proofs.Yaml.Fault

/-! # Files that give no configuration

A file gives a configuration exactly if nothing is wrong with it. Otherwise it is rejected by an
error of the configuration: it cannot be read, it is malformed, it is no mapping, or what is wrong
with its settings is reported; and each of these is told of no other file. Two kinds of files are
not rejected like this. Of bytes that encode no text only that is told, and a number that is too
long to be written can be neither used nor reported.
-/

namespace Schedule

/-- A file holds at most one document. -/
theorem Files.Holds.unique {files : Files} {read : DocumentReader} {path : String} {a b : Value}
    (first : files.Holds read path a) (second : files.Holds read path b) : a = b := by
  obtain ⟨_, content, found, reads⟩ := first
  obtain ⟨_, content', found', reads'⟩ := second
  cases found.symm.trans found'
  exact Except.ok.inj (reads.symm.trans reads')

/-- What is reported of a mapping with something wrong: what is of the wrong kind, if anything is,
or else all of it. -/
def Mapping.reported (entries : Mapping) : List Problem :=
  if entries.complaints.any Problem.isKind then entries.complaints.filter Problem.isKind
  else entries.complaints

namespace Config

/-- A document gives the settings of one mapping at most. -/
theorem Gives.unique {document : Value} {a b : Mapping} (first : Gives document a)
    (second : Gives document b) : a = b :=
  have success (entries : Mapping) (gives : Gives document entries) :
      documentMapping "" document = .ok entries := documentMapping_eq_ok_iff.mpr gives
  Except.ok.inj ((success a first).symm.trans (success b second))

variable {files : Files} {read : DocumentReader} {path : String} {document : Value}
variable {entries : Mapping} {config : Config} {error : ConfigError} {setting : Setting}
variable {problems : List Problem}

/-- What is wrong with a file that gives no configuration, and the error that it is rejected by. -/
inductive Rejected (files : Files) (read : DocumentReader) (path : String) :
    ConfigError → Prop where
  | unreadable {fault : FileFault} (failed : files.read (Path.plain path) = .error fault) :
      Rejected files read path (.unreadable (Path.plain path) fault.message)
  | malformed {content : ByteArray} {reason : String}
      (found : files.read (Path.plain path) = .ok content)
      (failed : read content = .error (.malformed reason)) :
      Rejected files read path (.malformed (Path.plain path) reason)
  | notMapping {document : Value} (holds : files.Holds read path document)
      (notVoid : document.isVoid = false) (other : ∀ entries, document ≠ .mapping entries) :
      Rejected files read path (.notMapping (Path.plain path))
  | invalid {document : Value} {entries : Mapping} (holds : files.Holds read path document)
      (gives : Gives document entries) (wrong : ∃ setting, entries.Wrong setting) :
      Rejected files read path (.invalid entries.reported)

/-- A file with nothing wrong, and the configuration that it gives: every setting is what the file
gives for it, or else the built-in one. -/
structure Accepted (files : Files) (read : DocumentReader) (path : String) (config : Config) :
    Prop where
  valid : config.Valid
  settings : ∃ document entries, files.Holds read path document ∧ Gives document entries ∧
    (∀ setting, ¬ entries.Wrong setting) ∧
    ∀ setting : Setting,
      (match entries.given? setting with
        | some given => setting.convert? given
        | none => some (get {} setting)) = some (config.get setting)

/-- What comes of a file: the configuration that it gives, or an error that rejects the file, or
another error if its bytes encode no text or a number in it is too long to be written. -/
inductive FileOutcome (files : Files) (read : DocumentReader) (path : String) :
    Except ConfigError Config → Prop where
  | accepted {config : Config} (accepted : Accepted files read path config) :
      FileOutcome files read path (.ok config)
  | rejected {error : ConfigError} (rejected : Rejected files read path error) :
      FileOutcome files read path (.error error)
  | undecodable {content : ByteArray} {reason : String}
      (found : files.read (Path.plain path) = .ok content) (noText : ¬ content.IsValidUTF8) :
      FileOutcome files read path (.error (.undecodable reason))
  | unwritable {document : Value} {entries : Mapping} {fault : ValueFault}
      (holds : files.Holds read path document) (gives : Gives document entries)
      (unwritable : ¬ entries.Writable) : FileOutcome files read path (.error (.unusable fault))

theorem Rejected.isExpected (rejected : Rejected files read path error) :
    error.isExpected = true := by
  cases rejected <;> rfl

/-! ### What a mapping comes to -/

theorem documentMapping_eq_error_iff :
    documentMapping path document = .error error ↔ error = .notMapping path ∧
      document.isVoid = false ∧ ∀ entries, document ≠ .mapping entries := by
  constructor
  · intro failed
    unfold documentMapping at failed
    split at failed
    · contradiction
    · next notVoid =>
      split at failed
      · split at failed <;> contradiction
      · next other =>
        cases failed
        exact ⟨rfl, Bool.eq_false_iff.mpr notVoid, other⟩
  · rintro ⟨rfl, notVoid, other⟩
    unfold documentMapping
    rw [notVoid, if_neg Bool.false_ne_true]
    split
    · next entries => exact absurd rfl (other entries)
    · rfl

/-- A mapping with nothing wrong is taken as it is, and one that is taken has nothing wrong. -/
theorem not_wrong_of_merge {merged : Config} (success : config.merge entries = .ok merged)
    (setting : Setting) : ¬ entries.Wrong setting := by
  rintro ⟨given, gives, wrong⟩
  exact wrong _ (get_of_merge success gives) (valid_iff_admits.mp (valid_of_merge success) setting)

/-- The problems that an error reports are those of the mapping, in which something is wrong. -/
theorem reported_of_merge (valid : config.Valid)
    (failed : config.merge entries = .error (.invalid problems)) :
    problems = entries.reported ∧ ∃ setting, entries.Wrong setting := by
  obtain ⟨reportable, some, reported⟩ := problems_of_merge valid failed
  refine ⟨reported, ?_⟩
  obtain ⟨problem, listed⟩ := List.exists_mem_of_ne_nil _ some
  have complaint : problem ∈ entries.complaints := by
    rw [reported] at listed
    split at listed
    · exact List.mem_of_mem_filter listed
    · exact listed
  exact ⟨_, (wrong_iff reportable).mpr (List.mem_map_of_mem complaint)⟩

/-- A mapping with something wrong is reported, unless a number is padded with separators or too
long to be written. -/
theorem merge_of_wrong (valid : config.Valid) (writable : entries.Writable)
    (intact : ¬ entries.Separated) (wrong : entries.Wrong setting) :
    config.merge entries = .error (.invalid entries.reported) := by
  cases outcome : config.merge entries with
  | ok merged => exact absurd wrong (not_wrong_of_merge outcome setting)
  | error error =>
    obtain ⟨problems, rfl⟩ := exists_invalid valid writable intact outcome
    rw [(reported_of_merge valid outcome).1]

theorem invalid_or_unusable (valid : config.Valid) (failed : config.merge entries = .error error) :
    (∃ problems, error = .invalid problems) ∨ ∃ fault, error = .unusable fault := by
  cases mergeOutcome valid entries with
  | faulty _ _ fails =>
    rw [fails] at failed
    cases failed
    exact .inr ⟨_, rfl⟩
  | kinds _ _ fails =>
    rw [fails] at failed
    cases failed
    exact .inl ⟨_, rfl⟩
  | complaints _ _ _ fails =>
    rw [fails, ConfigError.ofProblems] at failed
    split at failed
    · cases failed
      exact .inl ⟨_, rfl⟩
    · cases failed
      exact .inr ⟨_, rfl⟩
  | merged _ _ success =>
    rw [success] at failed
    cases failed

/-- An empty mapping changes nothing. -/
theorem merge_nil (valid : config.Valid) : config.merge [] = .ok config :=
  merge_eq_ok_iff.mpr ⟨valid, fun _ => resolve?_of_none rfl⟩

/-! ### What a file comes to -/

theorem valid_of_ofFile (success : ofFile files read path = .ok config) : config.Valid := by
  unfold ofFile at success
  dsimp only at success
  split at success
  · contradiction
  · obtain ⟨_, _, success⟩ := bind_eq_ok_iff.mp success
    obtain ⟨_, _, success⟩ := bind_eq_ok_iff.mp success
    obtain ⟨_, _, merged⟩ := bind_eq_ok_iff.mp success
    exact valid_of_merge merged

/-- In an empty environment the file alone counts. -/
theorem load_nil (files : Files) (read : DocumentReader) (path : String) :
    load files read (some path) [] = ofFile files read path := by
  have environment : environmentMapping [] = [] := rfl
  rw [load, environment]
  cases outcome : ofFile files read path with
  | error error => rfl
  | ok config => exact merge_nil (valid_of_ofFile outcome)

theorem ofFile_of_unread (noNull : (Path.plain path).contains '\x00' = false) {fault : FileFault}
    (failed : files.read (Path.plain path) = .error fault) :
    ofFile files read path = .error (.unreadable (Path.plain path) fault.message) := by
  unfold ofFile
  dsimp only
  rw [if_neg (by simp [noNull]), failed]
  rfl

theorem ofFile_of_fault (noNull : (Path.plain path).contains '\x00' = false) {content : ByteArray}
    {fault : DocumentFault} (found : files.read (Path.plain path) = .ok content)
    (failed : read content = .error fault) :
    ofFile files read path = .error (ofFault (Path.plain path) fault) := by
  unfold ofFile
  dsimp only
  rw [if_neg (by simp [noNull]), found]
  simp only [Except.mapError, bind, Except.bind, failed]

theorem ofFile_of_gives (holds : files.Holds read path document) (gives : Gives document entries) :
    ofFile files read path = ofMapping entries := by
  rw [ofFile_eq holds, documentMapping_eq_ok_iff.mpr gives]
  rfl

theorem accepted_of_merge (holds : files.Holds read path document) (gives : Gives document entries)
    (success : ofMapping entries = .ok config) : Accepted files read path config :=
  ⟨valid_of_merge success, document, entries, holds, gives, not_wrong_of_merge success,
    (merge_eq_ok_iff.mp success).2⟩

/-- What is expected of a file: no number for a setting is padded with separators, and reading a
document from it fails in no other way than that it is malformed or encodes no text. -/
structure Foreseen (files : Files) (read : DocumentReader) (path : String) : Prop where
  noNull : (Path.plain path).contains '\x00' = false
  readable : ∀ content kind reason, files.read (Path.plain path) = .ok content →
    read content ≠ .error (.failed kind reason)
  intact : ∀ document entries, files.Holds read path document → Gives document entries →
    ¬ entries.Separated

theorem fileOutcome (reads : read.ReadsText) (foreseen : Foreseen files read path) :
    FileOutcome files read path (ofFile files read path) := by
  cases found : files.read (Path.plain path) with
  | error fault =>
    rw [ofFile_of_unread foreseen.noNull found]
    exact .rejected (.unreadable found)
  | ok content =>
    cases outcome : read content with
    | error fault =>
      rw [ofFile_of_fault foreseen.noNull found outcome]
      cases fault with
      | malformed reason => exact .rejected (.malformed found outcome)
      | undecodable reason =>
        exact .undecodable found fun valid => reads content reason valid outcome
      | failed kind reason => exact absurd outcome (foreseen.readable content kind reason found)
    | ok document =>
      have holds : files.Holds read path document := ⟨foreseen.noNull, content, found, outcome⟩
      cases mapping : documentMapping (Path.plain path) document with
      | error error =>
        rw [ofFile_eq holds, mapping]
        obtain ⟨rfl, notVoid, other⟩ := documentMapping_eq_error_iff.mp mapping
        exact .rejected (.notMapping holds notVoid other)
      | ok entries =>
        have gives := documentMapping_eq_ok_iff.mp mapping
        rw [ofFile_of_gives holds gives]
        cases merged : ofMapping entries with
        | ok config => exact .accepted (accepted_of_merge holds gives merged)
        | error error =>
          rcases invalid_or_unusable valid_default merged with ⟨problems, rfl⟩ | ⟨fault, rfl⟩
          · obtain ⟨rfl, wrong⟩ := reported_of_merge valid_default merged
            exact .rejected (.invalid holds gives wrong)
          · refine .unwritable holds gives fun writable => ?_
            obtain ⟨_, same⟩ := exists_invalid valid_default writable
              (foreseen.intact document entries holds gives) merged
            cases same

/-- The file is a text, and every number in the values that it gives for settings is short enough to
be written. -/
structure Legible (files : Files) (read : DocumentReader) (path : String) : Prop where
  text : ∀ content, files.read (Path.plain path) = .ok content → content.IsValidUTF8
  writable : ∀ document entries, files.Holds read path document → Gives document entries →
    entries.Writable

/-- A legible file is rejected exactly by the error of what is wrong with it. -/
theorem ofFile_eq_error_iff (reads : read.ReadsText) (foreseen : Foreseen files read path)
    (legible : Legible files read path) :
    ofFile files read path = .error error ↔ Rejected files read path error := by
  constructor
  · intro failed
    have comes := fileOutcome reads foreseen
    rw [failed] at comes
    cases comes with
    | rejected rejected => exact rejected
    | undecodable found noText => exact absurd (legible.text _ found) noText
    | unwritable holds gives unwritable =>
      exact absurd (legible.writable _ _ holds gives) unwritable
  · intro rejected
    cases rejected with
    | unreadable failed => exact ofFile_of_unread foreseen.noNull failed
    | malformed found failed => exact ofFile_of_fault foreseen.noNull found failed
    | notMapping holds notVoid other =>
      rw [ofFile_eq holds, documentMapping_eq_error_iff.mpr ⟨rfl, notVoid, other⟩]
      rfl
    | invalid holds gives wrong =>
      obtain ⟨setting, wrong⟩ := wrong
      rw [ofFile_of_gives holds gives]
      exact merge_of_wrong valid_default (legible.writable _ _ holds gives)
        (foreseen.intact _ _ holds gives) wrong

/-- A file gives a configuration exactly if there is nothing wrong with it. -/
theorem ofFile_eq_ok_iff (reads : read.ReadsText) (foreseen : Foreseen files read path) :
    ofFile files read path = .ok config ↔ Accepted files read path config := by
  constructor
  · intro success
    have comes := fileOutcome reads foreseen
    rw [success] at comes
    cases comes with
    | accepted accepted => exact accepted
  · rintro ⟨valid, document, entries, holds, gives, _, settings⟩
    rw [ofFile_of_gives holds gives]
    exact merge_eq_ok_iff.mpr ⟨valid, settings⟩

/-- How the commands answer to a request with the file: they end alike, with exit code 31 exactly if
the file is there and something is wrong with it, and with exit code 1 only if looking it up fails
by a fault that does not tell that it is not there or the schedule has a numeral that is too
long. -/
structure Answered (files : Files) (read : DocumentReader) (path : String) (setup : Setup)
    (request : Request) : Prop where
  sameCode : (Command.compile setup request).exitCode = (Command.validate setup request).exitCode
  notFound : (Command.compile setup request).exitCode = 10 ↔
    Command.Missing setup request ∧ ¬ Command.Unclear setup request
  rejected : (Command.compile setup request).exitCode = 31 ↔
    Command.Found setup request ∧ ∃ error, Rejected files read path error
  unexpected : (Command.compile setup request).exitCode = 1 ↔
    Command.Unclear setup request ∨ (Command.Found setup request ∧
      ∃ config numeral, Accepted files read path config ∧
        compile config request.expression = .error (.overlong numeral))

theorem answered (reads : read.ReadsText) (foreseen : Foreseen files read path)
    (legible : Legible files read path) {request : Request}
    (named : request.configPath = some path) (terminal : Terminal) :
    Answered files read path ⟨files, read, [], terminal⟩ request := by
  let setup : Setup := ⟨files, read, [], terminal⟩
  have loads : Command.load setup request = ofFile files read path := by
    rw [Command.load, named]
    exact load_nil files read path
  have rejects (error : ConfigError) :
      Command.load setup request = .error error ↔ Rejected files read path error := by
    rw [loads]
    exact ofFile_eq_error_iff reads foreseen legible
  have told := Command.told_code (Command.rules_ruling setup request)
  have codes := Command.exitCode_compile setup request
  constructor
  · exact codes.trans (Command.exitCode_validate setup request).symm
  · rw [codes, told.notFound]
  · rw [codes, told.misconfigured]
    refine and_congr_right fun _ => exists_congr fun error => ?_
    rw [rejects]
    exact and_iff_left_of_imp Rejected.isExpected
  · rw [codes, told.unexpected]
    refine or_congr_right ?_
    constructor
    · rintro (⟨_, error, failed, other⟩ | ⟨config, numeral, ⟨there, loaded⟩, overlong⟩)
      · rw [((rejects error).mp failed).isExpected] at other
        contradiction
      · rw [loads, ofFile_eq_ok_iff reads foreseen] at loaded
        exact ⟨there, config, numeral, loaded, overlong⟩
    · rintro ⟨there, config, numeral, accepted, overlong⟩
      refine .inr ⟨config, numeral, ⟨there, loads.trans ?_⟩, overlong⟩
      exact (ofFile_eq_ok_iff reads foreseen).mpr accepted

/-- A file gives a configuration exactly if nothing is wrong with it, and is rejected exactly by the
error of what is wrong with it, which both commands tell, unless its bytes encode no text or a
number in it is too long to be written. -/
theorem load_file (reads : read.ReadsText) (foreseen : Foreseen files read path) :
    FileOutcome files read path (load files read (some path) []) ∧
    (∀ config, load files read (some path) [] = .ok config ↔ Accepted files read path config) ∧
    (Legible files read path →
      (∀ error, load files read (some path) [] = .error error ↔
        Rejected files read path error) ∧
      ∀ (request : Request) (terminal : Terminal), request.configPath = some path →
        Answered files read path ⟨files, read, [], terminal⟩ request) := by
  rw [load_nil]
  exact ⟨fileOutcome reads foreseen, fun _ => ofFile_eq_ok_iff reads foreseen, fun legible =>
    ⟨fun _ => ofFile_eq_error_iff reads foreseen legible,
      fun _ terminal named => answered reads foreseen legible named terminal⟩⟩

/-- A file with a depth that is no number is rejected, and the command ends with exit code 31. -/
theorem load_file_depth :
    let path := "schedlang.yaml"
    let bytes := "'max_depth': 'deep'".toUTF8
    let files := Entry.files (.directory [(path, .file bytes)])
    let entries : Mapping := [(.text "max_depth", .text "deep")]
    let problems : List Problem := [.notInteger .maxDepth (.text "deep")]
    let request : Request := { expression := "hour(1)", configPath := some path }
    Yaml.reader.ReadsText ∧ Foreseen files Yaml.reader path ∧
      files.Holds Yaml.reader path (.mapping entries) ∧ Legible files Yaml.reader path ∧
      Rejected files Yaml.reader path (.invalid problems) ∧
      load files Yaml.reader (some path) [] = .error (.invalid problems) ∧
      (Command.compile ⟨files, Yaml.reader, [], .colourless⟩ request).exitCode = 31 := by
  intro path bytes files entries problems request
  have named : Path.IsName path := by constructor <;> decide +kernel
  have fits : path.utf8ByteSize ≤ Path.longestName := by decide +kernel
  have finds : files.Finds (Path.plain path) := named.finds (by decide +kernel) fits rfl
  have found : files.read (Path.plain path) = .ok bytes := named.read_eq fits rfl
  have reads : Yaml.reader bytes = .ok (.mapping entries) := by
    have text : Yaml.Source.ofBytes bytes = ⟨"'max_depth': 'deep'".toList, none⟩ := by
      decide +kernel
    have lexemes : Yaml.lex ⟨"'max_depth': 'deep'".toList, none⟩ =
        ⟨[.blockMapping, .key, .quoted ("max_depth".toList.map Char.toNat), .value,
          .quoted ("deep".toList.map Char.toNat), .blockEnd], none⟩ := by
      decide +kernel
    rw [Yaml.reader_eq text lexemes]
    rfl
  have holds : files.Holds Yaml.reader path (.mapping entries) :=
    ⟨finds.1, bytes, found, reads⟩
  have gives : Gives (.mapping entries) entries := .top fun _ other => by cases other
  have only (document : Value) (given : Mapping) (holds' : files.Holds Yaml.reader path document)
      (gives' : Gives document given) : given = entries := by
    cases holds'.unique holds
    exact gives'.unique gives
  have same (content : ByteArray) (found' : files.read (Path.plain path) = .ok content) :
      content = bytes := Except.ok.inj (found'.symm.trans found)
  have foreseen : Foreseen files Yaml.reader path := by
    constructor
    · exact finds.1
    · intro content kind reason found' failed
      rw [same content found', reads] at failed
      cases failed
    · intro document given holds' gives'
      rw [only document given holds' gives']
      rintro ⟨setting, text, _, _, found', _, separator⟩
      rw [Value.text.inj (Mapping.eq_of_given?_singleton found')] at separator
      revert separator
      unfold HasSeparator
      decide +kernel
  have legible : Legible files Yaml.reader path := by
    constructor
    · intro content found'
      rw [same content found']
      exact String.isValidUTF8 _
    · intro document given' holds' gives' setting value found'
      rw [only document given' holds' gives'] at found'
      rw [Mapping.eq_of_given?_singleton found']
      rfl
  have there : Command.Found ⟨files, Yaml.reader, [], .colourless⟩ request :=
    Command.found_of_finds rfl finds
  obtain ⟨_, _, tells⟩ := load_file Yaml.reader_readsText foreseen
  obtain ⟨rejects, answers⟩ := tells legible
  have failed : load files Yaml.reader (some path) [] = .error (.invalid problems) := by
    rw [load_nil, ofFile_of_gives holds gives]
    rfl
  have rejected := (rejects _).mp failed
  exact ⟨Yaml.reader_readsText, foreseen, holds, legible, rejected, failed,
    (answers request .colourless rfl).rejected.mpr ⟨there, _, rejected⟩⟩

/-- A file of one byte that begins no character is not rejected: the command ends with exit
code 1. -/
theorem undecodable_not_rejected :
    let path := "schedlang.yaml"
    let files := Entry.files (.directory [(path, .file ⟨#[0xff]⟩)])
    let setup : Setup := { files, read := Yaml.reader }
    let request : Request := { expression := "hour(1)", configPath := some path }
    ∃ error, load files Yaml.reader (some path) [] = .error error ∧ error.isExpected = false ∧
      Command.Found setup request ∧ (Command.compile setup request).exitCode = 1 := by
  intro path files setup request
  have named : Path.IsName path := by constructor <;> decide +kernel
  have fits : path.utf8ByteSize ≤ Path.longestName := by decide +kernel
  have finds : files.Finds (Path.plain path) := named.finds (by decide +kernel) fits rfl
  have found : files.read (Path.plain path) = .ok ⟨#[0xff]⟩ := named.read_eq fits rfl
  have text : Yaml.Source.ofBytes ⟨#[0xff]⟩ =
      ⟨[], some (.undecodable ⟨0, [0xff], .invalidStart⟩)⟩ := by
    decide +kernel
  have lexemes : Yaml.lex ⟨[], some (.undecodable ⟨0, [0xff], .invalidStart⟩)⟩ =
      ⟨[], some (.undecodable ⟨0, [0xff], .invalidStart⟩)⟩ := by
    decide +kernel
  obtain ⟨reason, undecodable⟩ :
      ∃ reason, Yaml.reader ⟨#[0xff]⟩ = .error (.undecodable reason) :=
    ⟨_, Yaml.reader_eq text lexemes⟩
  have failed : load files Yaml.reader (some path) [] = .error (.undecodable reason) := by
    rw [load_nil, ofFile_of_fault finds.1 found undecodable]
    rfl
  have there : Command.Found setup request := Command.found_of_finds rfl finds
  have told := Command.told_code (Command.rules_ruling setup request)
  refine ⟨_, failed, rfl, there, ?_⟩
  rw [Command.exitCode_compile, told.unexpected]
  exact .inr (.inl ⟨there, _, failed, rfl⟩)

end Config

end Schedule
