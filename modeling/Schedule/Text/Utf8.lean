/-! # Bytes as text

A file is bytes, and its text is what they encode. Bytes that encode no text are reported by where
they are and why they cannot go on: a byte that begins no character, a byte that does not continue
the character begun before it, or an end in the middle of a character.

Bytes are decoded in chunks, and positions count within a chunk. A character that is cut off by
the end of a chunk belongs to the next one, so one that is cut off by the end of the file is
looked at on its own. Of a chunk with a fault no character is seen. The characters are asked for in
pieces, and a chunk is read whenever a piece is not complete; how large it is depends on the bytes
that the characters of the last one took. Line ends, however written, become line feeds.
-/

namespace Schedule.Text

/-- Why some bytes encode no character. -/
inductive EncodingCause where
  | invalidStart | invalidContinuation | unexpectedEnd
  deriving DecidableEq, Repr

/-- The words for a cause. -/
def EncodingCause.text : EncodingCause → String
  | invalidStart => "invalid start byte"
  | invalidContinuation => "invalid continuation byte"
  | unexpectedEnd => "unexpected end of data"

/-- Bytes that encode no character: the position of the first, and all of them. -/
structure EncodingFault where
  position : Nat
  bytes : List UInt8
  cause : EncodingCause
  deriving DecidableEq, Repr

/-- A byte as two hexadecimal digits. -/
def byteText (byte : UInt8) : String :=
  String.ofList ['0', 'x', Nat.digitChar (byte.toNat / 16), Nat.digitChar (byte.toNat % 16)]

/-- The text shown for bytes that encode no character. -/
def EncodingFault.message (fault : EncodingFault) : String :=
  let place :=
    match fault.bytes with
    | [byte] => "byte " ++ byteText byte ++ " in position " ++ toString fault.position
    | bytes =>
      "bytes in position " ++ toString fault.position ++ "-" ++
        toString (fault.position + bytes.length - 1)
  "\x27utf-8\x27 codec can\x27t decode " ++ place ++ ": " ++ fault.cause.text

/-- A character of which some bytes have come: these bytes, what they contribute to its number, and
for each byte to come its least and its greatest value. Between characters all of it is empty. -/
structure PartialChar where
  bytes : List UInt8 := []
  number : Nat := 0
  missing : List (Nat × Nat) := []
  deriving DecidableEq, Repr

/-- The character that begins with a byte, unless none does. -/
def PartialChar.start? (byte : UInt8) : Option PartialChar :=
  let first := byte.toNat
  let any := (0x80, 0xbf)
  if first < 0x80 then some ⟨[byte], first, []⟩
  else if first < 0xc2 then none
  else if first < 0xe0 then some ⟨[byte], first - 0xc0, [any]⟩
  else if first = 0xe0 then some ⟨[byte], 0, [(0xa0, 0xbf), any]⟩
  else if first = 0xed then some ⟨[byte], 0xd, [(0x80, 0x9f), any]⟩
  else if first < 0xf0 then some ⟨[byte], first - 0xe0, [any, any]⟩
  else if first = 0xf0 then some ⟨[byte], 0, [(0x90, 0xbf), any, any]⟩
  else if first < 0xf4 then some ⟨[byte], first - 0xf0, [any, any, any]⟩
  else if first = 0xf4 then some ⟨[byte], 4, [(0x80, 0x8f), any, any]⟩
  else none

/-- The character after one more byte, or why there is none. -/
def PartialChar.add (char : PartialChar) (byte : UInt8) :
    Except (List UInt8 × EncodingCause) PartialChar :=
  match char.missing with
  | [] =>
    match start? byte with
    | some char => .ok char
    | none => .error ([byte], .invalidStart)
  | (least, greatest) :: missing =>
    if least ≤ byte.toNat ∧ byte.toNat ≤ greatest then
      .ok ⟨char.bytes ++ [byte], 64 * char.number + (byte.toNat - 0x80), missing⟩
    else .error (char.bytes, .invalidContinuation)

/-- Decodes the bytes of a chunk after a character that its predecessor cut off. `position` counts
the bytes so far, and `text` is what they encode, last character first. Gives the text and the
character that is cut off. -/
def decodeChunk (position : Nat) (char : PartialChar) (text : List Char) :
    List UInt8 → Except EncodingFault (List Char × PartialChar)
  | [] => .ok (text.reverse, char)
  | byte :: bytes =>
    match char.add byte with
    | .error (bytes, cause) => .error ⟨position - char.bytes.length, bytes, cause⟩
    | .ok char =>
      if char.missing.isEmpty then
        decodeChunk (position + 1) {} (Char.ofNat char.number :: text) bytes
      else decodeChunk (position + 1) char text bytes

/-- The characters with each of their line ends written as one line feed, where `before` are those
already seen, last one first. A carriage return at the end is held back, since a line feed may
follow it; whether there is one comes with the characters. -/
def lineFeeds (before : List Char) : List Char → List Char × Bool
  | '\r' :: '\n' :: rest => lineFeeds ('\n' :: before) rest
  | ['\r'] => (before.reverse, true)
  | '\r' :: rest => lineFeeds ('\n' :: before) rest
  | c :: rest => lineFeeds (c :: before) rest
  | [] => (before.reverse, false)

/-- How many characters are asked for at a time. -/
def pieceSize : Nat := 4096

/-- How many bytes a chunk has at least, unless the file ends. -/
def leastChunk : Nat := 8192

/-- How far the chunks of a file are decoded: the character that is cut off, whether a carriage
return is held back, how many characters there are, and how many bytes and characters the last
chunk had. -/
structure Decoding where
  char : PartialChar := {}
  held : Bool := false
  total : Nat := 0
  lastBytes : Nat := 0
  lastChars : Nat := 0

/-- How many bytes the next chunk has: those that the rest of a piece takes up if its characters
take as many bytes as those of the last chunk, but not less than a chunk has. -/
def Decoding.chunkSize (state : Decoding) : Nat :=
  if state.lastChars = 0 then leastChunk
  else
    let ratio := state.lastBytes.toFloat / state.lastChars.toFloat
    let ratio := if ratio < 1.0 then 1.0 else ratio
    let rest := pieceSize - state.total % pieceSize
    max leastChunk (ratio * rest.toFloat).floor.toUInt64.toNat

/-- Decodes chunk after chunk: the text up to the first chunk with a fault, and that fault. -/
def decodeChunks (fuel : Nat) (state : Decoding) (bytes : List UInt8) :
    List Char × Option EncodingFault :=
  match fuel with
  | 0 => ([], none)
  | fuel + 1 =>
    if bytes.isEmpty then
      if state.char.bytes.isEmpty then (if state.held then ['\n'] else [], none)
      else ([], some ⟨0, state.char.bytes, .unexpectedEnd⟩)
    else
      let size := state.chunkSize
      match decodeChunk state.char.bytes.length state.char [] (bytes.take size) with
      | .error fault => ([], some fault)
      | .ok (text, char) =>
        let (lines, held) := lineFeeds [] (if state.held then '\r' :: text else text)
        let next : Decoding :=
          ⟨char, held, state.total + lines.length, min size bytes.length, lines.length⟩
        let (more, fault?) := decodeChunks fuel next (bytes.drop size)
        (lines ++ more, fault?)

/-- The text that some bytes encode, as far as it goes, and the fault that it ends with. -/
def decode (content : ByteArray) : List Char × Option EncodingFault :=
  decodeChunks (content.size / leastChunk + 2) {} content.data.toList

end Schedule.Text
