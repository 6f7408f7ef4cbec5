import Schedule.Value

/-! # Reading documents

A configuration file holds one document, which has a value. How the content of a file is read as a
document is not said here: a reader is any function that gives the value or tells why there is
none.
-/

namespace Schedule

/-- Why the content of a file gives no document: it is malformed, its bytes encode no text, or
reading it fails in another way, which has a name. -/
inductive DocumentFault where
  | malformed (reason : String)
  | undecodable (reason : String)
  | failed (kind reason : String)
  deriving DecidableEq, Repr

/-- The value of the document that the content of a file gives, or why there is none. -/
abbrev DocumentReader := ByteArray → Except DocumentFault Value

/-- Bytes that encode a text are never reported to encode none. -/
def DocumentReader.ReadsText (read : DocumentReader) : Prop :=
  ∀ content reason, content.IsValidUTF8 → read content ≠ .error (.undecodable reason)

end Schedule
