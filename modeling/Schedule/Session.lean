import Schedule.Compilation

/-! # Sessions

A session compiles one schedule stage by stage: it keeps the tokens and the document of its last
runs and logs what it does. Its diagnostics show the text the session was opened with, also after
the text was replaced.
-/

namespace Schedule

/-- A compilation in stages. `source` is the text the session was opened with. -/
structure Session where
  source : String
  text : String
  config : Config
  tokens : List Token
  document : List Expression
  deriving Repr

/-- What an operation of a session gives: its outcome, the session after it, and the records it
left in the log. -/
structure Stage (α : Type) where
  outcome : α
  session : Session
  records : List Record

namespace Session

/-- A session on a text, with nothing done yet. -/
def start (text : String) (config : Config) : Session :=
  ⟨text, text, config, [], []⟩

/-- Replaces the text. What was made of the old one is kept. -/
def setText (session : Session) (text : String) : Session :=
  { session with text }

/-- Forgets the tokens. -/
def clearTokens (session : Session) : Session :=
  { session with tokens := [] }

/-- A mistake as this session reports it. -/
def report (session : Session) (m : Mistake) : Report :=
  m.report session.source session.config.window

/-- A record of one of the stages. -/
def note (channel : Channel) (message : String) : Record :=
  ⟨.debug, channel, message⟩

/-- Cuts the text into tokens. -/
def tokenize (session : Session) : Stage (List Token) :=
  let tokens := Schedule.tokenize session.text
  ⟨tokens, { session with tokens },
    [note .session ("Tokenized " ++ Text.quote session.text ++ " into " ++
      toString tokens.length ++ " tokens")]⟩

/-- Reads the tokens as a document. If there are none, the text is cut into tokens first. A
document is kept only if it could be read. -/
def readDocument (session : Session) : Stage (Except Failure (List Expression)) :=
  let ready : Stage Unit :=
    if session.tokens.isEmpty then
      let cut := session.tokenize
      ⟨(), cut.session, cut.records⟩
    else ⟨(), session, []⟩
  match Reading.document session.config.maxDepth ready.session.tokens with
  | .ok document =>
    ⟨.ok document, { ready.session with document },
      ready.records ++ [note .reading ("Parsed " ++ toString document.length ++
        " top-level expressions")]⟩
  | .error failure => ⟨.error failure, ready.session, ready.records⟩

/-- The records that the outcome of a compilation leaves: how many groups there are, or what the
mistake is. -/
def outcomeRecords (session : Session) : Except Failure (List RuleGroup) → List Record
  | .ok groups =>
    [note .compiling ("Compiled " ++ toString groups.length ++ " rule groups")]
  | .error (.mistake m) =>
    [note .session ("Failed to compile " ++ Text.quote session.text ++ ": " ++ m.fault.message)]
  | .error (.overlong _) => []

/-- Runs all stages on the text, which is cut into tokens anew. -/
def compile (session : Session) : Stage (Except Failure (List RuleGroup)) :=
  let cut := session.tokenize
  let read := cut.session.readDocument
  let outcome := read.outcome.bind compileDocument
  ⟨outcome, read.session, cut.records ++ read.records ++ session.outcomeRecords outcome⟩

end Session

end Schedule
