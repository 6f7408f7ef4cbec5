import Schedule.Config
import Schedule.DocumentReader
import Schedule.Files

/-! # Loading a configuration

A configuration is resolved from three sources: the built-in settings, over them those of a file if
one is named, over them those of the environment. What the file gives has to make a valid
configuration by itself.
-/

namespace Schedule.Config

/-- The mapping that a file's document gives. A document that says nothing counts as an empty
mapping; in any other the settings stand under the key `schedlang`, if a mapping does, or else at
the top. -/
def documentMapping (path : String) (document : Value) : Except ConfigError Mapping :=
  if document.isVoid then .ok []
  else
    match document with
    | .mapping entries =>
      match Mapping.find? entries (.text "schedlang") with
      | some (.mapping nested) => .ok nested
      | _ => .ok entries
    | _ => .error (.notMapping path)

/-- What a fault of the content of the file at a path means for the configuration. -/
def ofFault (path : String) : DocumentFault → ConfigError
  | .malformed reason => .malformed path reason
  | .undecodable reason => .undecodable reason
  | .failed kind reason => .unread kind reason

/-- The configuration that a file gives. -/
def ofFile (files : Files) (read : DocumentReader) (path : String) :
    Except ConfigError Config := do
  let path := Path.plain path
  if path.contains '\x00' then .error .nullInPath
  else
    let content ← (files.read path).mapError fun fault => .unreadable path fault.message
    let document ← (read content).mapError (ofFault path)
    let entries ← documentMapping path document
    ofMapping entries

/-- Resolves the configuration from the built-in settings, a file, and the environment. -/
def load (files : Files) (read : DocumentReader) (path : Option String)
    (environment : List (String × String)) : Except ConfigError Config := do
  let config ← match path with
    | some path => ofFile files read path
    | none => .ok {}
  config.merge (environmentMapping environment)

end Schedule.Config
