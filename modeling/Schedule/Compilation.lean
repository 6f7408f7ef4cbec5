import Schedule.Config
import Schedule.Reading.Expression
import Schedule.RuleGroup.Compile

/-! # Compiling schedules

A schedule is compiled in three stages: its text is cut into tokens, the tokens are read as a
document, and the document is compiled to rule groups. What a compilation means depends on the
configuration only through the greatest depth of nesting; the rest of it governs how mistakes are
shown and what is logged.
-/

namespace Schedule

/-- The rule groups of a document, or the mistake in it. -/
def compileDocument (document : List Expression) : Except Failure (List RuleGroup) :=
  (compileNodes (document.map Expression.toNode)).mapError .mistake

/-- Compiles a text in one go. -/
def compile (config : Config) (text : String) : Except Failure (List RuleGroup) := do
  let document ← Reading.document config.maxDepth (tokenize text)
  compileDocument document

/-- A mistake as its reader gets it. -/
def Mistake.report (m : Mistake) (source : String) (window : Window) : Report :=
  ⟨m.fault.message, source, some m.token, window⟩

/-- The mistakes in a text as they are shown: none or one. A numeral that is too long to be read is
not a mistake but a failure of the check. -/
def complaints (config : Config) (text : String) : Except Numeral.Overlong (List String) :=
  match compile config text with
  | .ok _ => .ok []
  | .error (.mistake m) => .ok [(m.report text config.window).text]
  | .error (.overlong fault) => .error fault

/-- The text compiles. -/
def isValid (config : Config) (text : String) : Except Numeral.Overlong Bool :=
  match compile config text with
  | .ok _ => .ok true
  | .error (.mistake _) => .ok false
  | .error (.overlong fault) => .error fault

end Schedule
