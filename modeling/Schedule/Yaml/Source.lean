import Schedule.Text.Utf8
import Schedule.Value

/-! # The text of a configuration file

A file is read as UTF-8. It may hold printable characters, tabs and line ends only. Its text is
handed out in pieces, and a fault in a piece is met when that piece is needed; what comes before can
be malformed by itself, and then the fault is never met. The first two pieces are needed to begin.
-/

namespace Schedule.Yaml

/-- Why a file has no value: it is malformed, it is no text, or a value in it is none. -/
inductive Fault where
  | malformed
  | undecodable (fault : Text.EncodingFault)
  | value (fault : ValueFault)
  deriving DecidableEq, Repr

/-- A text as far as it can be read, and the fault that is met when reading on. -/
structure Source where
  text : List Char
  beyond : Option Fault := none
  deriving DecidableEq, Repr

/-- A character that a file may hold. -/
def isAllowed (c : Char) : Bool :=
  let n := c.toNat
  n == 0x09 || n == 0x0a || n == 0x0d || (0x20 ≤ n && n ≤ 0x7e) || n == 0x85 ||
    (0xa0 ≤ n && n ≤ 0xd7ff) || (0xe000 ≤ n && n ≤ 0xfffd) || 0x10000 ≤ n

namespace Source

/-- How many characters come in whole pieces before position `length`. Without the first two
pieces there are none. -/
def wholePieces (length : Nat) : Nat :=
  if length < 2 * Text.pieceSize then 0 else length / Text.pieceSize * Text.pieceSize

/-- The text up to the piece with the fault at position `length`. -/
def cut (text : List Char) (length : Nat) (fault : Fault) : Source :=
  ⟨text.take (wholePieces length), some fault⟩

/-- The text before a character that a file may not hold. -/
def checked (source : Source) : Source :=
  let allowed := source.text.takeWhile isAllowed
  if allowed.length = source.text.length then source
  else cut source.text allowed.length .malformed

/-- The text of a file. -/
def ofBytes (content : ByteArray) : Source :=
  match Text.decode content with
  | (text, none) => checked ⟨text, none⟩
  | (text, some fault) => checked (cut text text.length (.undecodable fault))

end Source

end Schedule.Yaml
