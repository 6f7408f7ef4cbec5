import Schedule.Proofs.Outcome
import Schedule.Session

/-! # What a session remembers

A session keeps the tokens and the document of its last runs, and reading takes the kept tokens as
they are, even if the text was replaced since. Compiling does not: whatever was done before, its
outcome is that of the current text. What was done before shows only in what is kept when a stage
fails, which is the last document that could be read.
-/

namespace Schedule

namespace Session

/-- What can be done with a session. -/
inductive Step where
  | tokenize
  | readDocument
  | compile
  | setText (text : String)
  | clearTokens
  deriving DecidableEq, Repr

/-- The text that a step assigns. -/
def Step.text? : Step → Option String
  | .setText text => some text
  | _ => none

/-- The session after a step. -/
def perform (session : Session) : Step → Session
  | .tokenize => session.tokenize.session
  | .readDocument => session.readDocument.session
  | .compile => session.compile.session
  | .setText text => session.setText text
  | .clearTokens => session.clearTokens

/-- The session after some steps. -/
def run (session : Session) (steps : List Step) : Session :=
  steps.foldl perform session

/-- The document that a step reads, if it reads one and does not fail. -/
def reads? (session : Session) : Step → Option (List Expression)
  | .readDocument => session.readDocument.outcome.toOption
  | .compile => session.tokenize.session.readDocument.outcome.toOption
  | _ => none

/-- The documents that are read along some steps, in order. -/
def readings (session : Session) : List Step → List (List Expression)
  | [] => []
  | step :: steps => (session.reads? step).toList ++ (session.perform step).readings steps

variable {session : Session} {step : Step} {steps : List Step} {texts : List String}

/-! ### One step -/

/-- The tokens that are read: those that are kept or, if there are none, those of the text. -/
def ready (session : Session) : List Token :=
  if session.tokens.isEmpty then Schedule.tokenize session.text else session.tokens

theorem ready_tokenize (session : Session) :
    session.tokenize.session.ready = Schedule.tokenize session.text := by
  unfold ready
  split <;> rfl

theorem readDocument_outcome (session : Session) :
    session.readDocument.outcome = Reading.document session.config.maxDepth session.ready := by
  unfold readDocument ready tokenize
  -- the tokens are kept ones or cut anew, and they are read or not
  split <;> dsimp only <;> split <;> next read => exact read.symm

/-- Reading keeps the tokens that were read, and the document in place of the one before. -/
theorem readDocument_session (session : Session) :
    session.readDocument.session =
      { session with
        tokens := session.ready
        document := session.readDocument.outcome.toOption.getD session.document } := by
  unfold readDocument ready tokenize
  split <;> dsimp only <;> split <;> rfl

theorem compile_outcome (session : Session) :
    session.compile.outcome = Schedule.compile session.config session.text := by
  unfold compile
  dsimp only
  rw [readDocument_outcome, ready_tokenize]
  rfl

/-- Compiling keeps the tokens of the text, and its document if that can be read. -/
theorem compile_session (session : Session) :
    session.compile.session =
      { session with
        tokens := Schedule.tokenize session.text
        document := (session.reads? .compile).getD session.document } := by
  change session.tokenize.session.readDocument.session = _
  rw [readDocument_session, ready_tokenize]
  rfl

theorem reads?_compile (session : Session) : session.reads? .compile =
    (Reading.document session.config.maxDepth (Schedule.tokenize session.text)).toOption := by
  change session.tokenize.session.readDocument.outcome.toOption = _
  rw [readDocument_outcome, ready_tokenize]
  rfl

theorem perform_text (session : Session) (step : Step) :
    (session.perform step).text = step.text?.getD session.text := by
  cases step with
  | readDocument => rw [perform, readDocument_session]; rfl
  | compile => rw [perform, compile_session]; rfl
  | _ => rfl

theorem perform_source (session : Session) (step : Step) :
    (session.perform step).source = session.source := by
  cases step with
  | readDocument => rw [perform, readDocument_session]
  | compile => rw [perform, compile_session]
  | _ => rfl

theorem perform_config (session : Session) (step : Step) :
    (session.perform step).config = session.config := by
  cases step with
  | readDocument => rw [perform, readDocument_session]
  | compile => rw [perform, compile_session]
  | _ => rfl

/-- A step keeps the document that it reads, and else the one that was kept before. -/
theorem perform_document (session : Session) (step : Step) :
    (session.perform step).document = (session.reads? step).getD session.document := by
  cases step with
  | readDocument => rw [perform, readDocument_session]; rfl
  | compile => rw [perform, compile_session]
  | _ => rfl

/-! ### Many steps -/

theorem run_source (session : Session) (steps : List Step) :
    (session.run steps).source = session.source := by
  induction steps generalizing session with
  | nil => rfl
  | cons step steps ih => rw [run, List.foldl_cons, ← run, ih, perform_source]

theorem run_config (session : Session) (steps : List Step) :
    (session.run steps).config = session.config := by
  induction steps generalizing session with
  | nil => rfl
  | cons step steps ih => rw [run, List.foldl_cons, ← run, ih, perform_config]

/-- The text is the one that was assigned last. -/
theorem run_text (session : Session) (steps : List Step) :
    (session.run steps).text = (steps.filterMap Step.text?).getLastD session.text := by
  induction steps generalizing session with
  | nil => rfl
  | cons step steps ih =>
    rw [run, List.foldl_cons, ← run, ih, perform_text]
    cases assigned : step.text? with
    | none => rw [List.filterMap_cons_none assigned, Option.getD_none]
    | some text => rw [List.filterMap_cons_some assigned, List.getLastD_cons, Option.getD_some]

/-- The document kept is the one that was read last. -/
theorem run_document (session : Session) (steps : List Step) :
    (session.run steps).document = (session.readings steps).getLastD session.document := by
  induction steps generalizing session with
  | nil => rfl
  | cons step steps ih =>
    rw [run, List.foldl_cons, ← run, ih, perform_document, readings]
    cases session.reads? step with
    | none => rfl
    | some document => rw [Option.toList_some, List.singleton_append, List.getLastD_cons,
        Option.getD_some]

/-- Whatever a session keeps is nothing yet or was made of one of some texts. -/
structure Keeps (texts : List String) (session : Session) : Prop where
  text : session.text ∈ texts
  tokens : session.tokens = [] ∨ ∃ text ∈ texts, session.tokens = Schedule.tokenize text
  document : session.document = [] ∨ ∃ text ∈ texts,
    Reading.document session.config.maxDepth (Schedule.tokenize text) = .ok session.document

theorem Keeps.exists_ready (keeps : session.Keeps texts) :
    ∃ text ∈ texts, session.ready = Schedule.tokenize text := by
  unfold ready
  split
  · exact ⟨session.text, keeps.text, rfl⟩
  · next filled => exact keeps.tokens.resolve_left (by simpa using filled)

theorem Keeps.tokenize (keeps : session.Keeps texts) : session.tokenize.session.Keeps texts :=
  ⟨keeps.text, .inr ⟨session.text, keeps.text, rfl⟩, keeps.document⟩

theorem Keeps.readDocument (keeps : session.Keeps texts) :
    session.readDocument.session.Keeps texts := by
  rw [readDocument_session]
  refine ⟨keeps.text, .inr keeps.exists_ready, ?_⟩
  cases read : session.readDocument.outcome with
  | error failure => exact keeps.document
  | ok document =>
    obtain ⟨text, listed, same⟩ := keeps.exists_ready
    rw [readDocument_outcome, same] at read
    exact .inr ⟨text, listed, read⟩

theorem Keeps.perform (keeps : session.Keeps texts)
    (assigned : ∀ text, step.text? = some text → text ∈ texts) :
    (session.perform step).Keeps texts := by
  cases step with
  | tokenize => exact keeps.tokenize
  | readDocument => exact keeps.readDocument
  | compile => exact keeps.tokenize.readDocument
  | setText text => exact ⟨assigned text rfl, keeps.tokens, keeps.document⟩
  | clearTokens => exact ⟨keeps.text, .inl rfl, keeps.document⟩

theorem Keeps.run (keeps : session.Keeps texts)
    (assigned : ∀ step ∈ steps, ∀ text, step.text? = some text → text ∈ texts) :
    (session.run steps).Keeps texts := by
  induction steps generalizing session with
  | nil => exact keeps
  | cons step steps ih =>
    rw [List.forall_mem_cons] at assigned
    exact ih (keeps.perform assigned.1) assigned.2

theorem keeps_start {text : String} (listed : text ∈ texts) (config : Config) :
    (start text config).Keeps texts :=
  ⟨listed, .inl rfl, .inl rfl⟩

/-- How a session on `text` stands after some steps. Its text is the one assigned last; compiling
gives what that text gives, with mistakes shown in the first text, and leaves the tokens of the
text, and its document if it has one. A stage that fails leaves the document that was read last.
Unless a text was assigned, nothing is kept that is not made of the first. -/
structure Follows (text : String) (config : Config) (steps : List Step) (session : Session) :
    Prop where
  current : session.text = (steps.filterMap Step.text?).getLastD text
  outcome : session.compile.outcome = Schedule.compile config session.text
  report (m : Mistake) :
    session.report m = { m.report session.text config.window with source := text }
  tokens : session.compile.session.tokens = Schedule.tokenize session.text
  read {document : List Expression}
    (success : Reading.document config.maxDepth (Schedule.tokenize session.text) = .ok document) :
    session.compile.session.document = document
  unread {failure : Failure}
    (failed : Reading.document config.maxDepth (Schedule.tokenize session.text) = .error failure) :
    session.compile.session.document = session.document
  last : session.document = ((start text config).readings steps).getLastD []
  lastOfReading {failure : Failure} (failed : session.readDocument.outcome = .error failure) :
    session.readDocument.session.document = ((start text config).readings steps).getLastD []
  /-- Also if it fails, since a compilation can read the document and fail later. -/
  lastOfCompiling : session.compile.session.document =
    ((start text config).readings (steps ++ [.compile])).getLastD []
  ownTokens (unassigned : ∀ step ∈ steps, step.text? = none) :
    session.tokens = [] ∨ session.tokens = Schedule.tokenize text
  ownDocument (unassigned : ∀ step ∈ steps, step.text? = none) :
    session.document = [] ∨
      Reading.document config.maxDepth (Schedule.tokenize text) = .ok session.document

/-- A session to which no text is assigned keeps what is made of its own. -/
theorem keeps_of_unassigned (text : String) (config : Config)
    (unassigned : ∀ step ∈ steps, step.text? = none) :
    ((start text config).run steps).Keeps [text] := by
  refine (keeps_start (List.mem_singleton_self text) config).run fun step listed other assigned =>
    ?_
  rw [unassigned step listed] at assigned
  contradiction

theorem run_append (session : Session) (steps steps' : List Step) :
    session.run (steps ++ steps') = (session.run steps).run steps' :=
  List.foldl_append

/-- Whatever was done with a session, compiling gives what compiling its text gives. -/
theorem follows_run (text : String) (config : Config) (steps : List Step) :
    Follows text config steps ((start text config).run steps) := by
  have source : ((start text config).run steps).source = text := run_source ..
  have same : ((start text config).run steps).config = config := run_config ..
  have last := run_document (start text config) steps
  refine
    { current := run_text ..
      outcome := by rw [compile_outcome, same]
      report := fun m => by rw [report, source, same]; rfl
      tokens := by rw [compile_session]
      read := fun success => by rw [compile_session, reads?_compile, same, success]; rfl
      unread := fun failed => by rw [compile_session, reads?_compile, same, failed]; rfl
      last
      lastOfReading := fun failed => by rw [readDocument_session, failed]; exact last
      lastOfCompiling := ?_
      ownTokens := fun unassigned => ?_
      ownDocument := fun unassigned => ?_ }
  · have after := run_document (start text config) (steps ++ [.compile])
    rw [run_append] at after
    exact after
  · have keeps := keeps_of_unassigned text config unassigned
    simpa only [List.mem_singleton, exists_eq_left] using keeps.tokens
  · have keeps := keeps_of_unassigned text config unassigned
    simpa only [List.mem_singleton, exists_eq_left, same] using keeps.document

/-- A minute too late in a text that replaced an hour is the same mistake as ever, but shown in the
text of the hour. A text that cannot be read leaves the document of the hour. -/
theorem follows_run_replaced :
    let steps : List Step := [.readDocument, .setText "min(99)"]
    let late : Mistake := ⟨.aboveGreatest .minutes, ⟨4, "99"⟩⟩
    let session := (start "hour(9)" {}).run steps
    let steps' : List Step := [.readDocument, .setText "min(", .clearTokens]
    let session' := (start "hour(9)" {}).run steps'
    (session.compile.outcome = .error (.mistake late) ∧
      session.report late = ⟨late.fault.message, "hour(9)", some ⟨4, "99"⟩, {}⟩) ∧
    ((∃ failure, session'.readDocument.outcome = .error failure) ∧
      session'.readDocument.session.document =
        ((start "hour(9)" {}).readings steps').getLastD []) := by
  intro steps late session steps' session'
  have follows : Follows "hour(9)" {} steps session := follows_run ..
  have follows' : Follows "hour(9)" {} steps' session' := follows_run ..
  have failed : Schedule.compile {} "min(99)" = .error (.mistake late) := by decide +kernel
  have failed' : ∃ failure, session'.readDocument.outcome = .error failure := by
    have none : session'.readDocument.outcome.toOption.isNone = true := by decide +kernel
    cases outcome : session'.readDocument.outcome with
    | error failure => exact ⟨failure, rfl⟩
    | ok document => simp [outcome, Except.toOption] at none
  refine ⟨⟨follows.outcome.trans failed, follows.report late⟩, failed', ?_⟩
  exact failed'.elim fun _ failed => follows'.lastOfReading failed

end Session

end Schedule
