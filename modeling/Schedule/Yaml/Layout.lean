import Schedule.Yaml.Source

/-! # Layout of a configuration file

Configuration files are written in the part of YAML that has block and flow collections, plain and
quoted scalars, comments and document markers. Structure is shown by indentation or by brackets;
here the indentation of a text is turned into brackets too, so that what comes out is a list of
lexemes with every collection opened and closed.

Whether a scalar is the key of an entry shows only at the colon after it. The places where such a
key may have begun are therefore kept, and when a colon comes the opening of the entry is inserted
there. A key has to stand on one line, within 1024 characters.

Where reading fails, the lexemes before are handed out with the fault, because they may not make up
a document, which is found out first.
-/

namespace Schedule.Yaml

/-- What a text consists of. A scalar stands with or without quotes; between quotes code points may
be written that are no characters. -/
inductive Lexeme where
  | documentStart | documentEnd
  | blockSequence | blockMapping | blockEnd
  | flowSequence | flowSequenceEnd | flowMapping | flowMappingEnd
  | item | key | value | comma
  | plain (text : List Char)
  | quoted (codes : List Nat)
  deriving DecidableEq, Repr

/-- Why reading stops: the text ends in the middle of something, or something in it is wrong. -/
inductive Stop where
  | ended
  | fault (fault : Fault)
  deriving DecidableEq, Repr

namespace Stop

/-- The text is malformed here. -/
def malformed : Stop := fault .malformed

/-- The fault for which reading stops, if `beyond` is met at the end of the text. -/
def toFault (beyond : Option Fault) : Stop → Fault
  | ended => beyond.getD .malformed
  | fault f => f

end Stop

/-- A place in a text: the characters from there on, and where that is. -/
structure Cursor where
  rest : List Char
  line : Nat := 0
  column : Nat := 0
  index : Nat := 0

/-- A character that ends a line. -/
def isBreak (c : Char) : Bool :=
  c == '\n' || c == '\r' || c == '\x85' || c == '\u2028' || c == '\u2029'

/-- What a line break counts as in a scalar. -/
def breakText (c : Char) : Char :=
  if c == '\u2028' || c == '\u2029' then c else '\n'

/-- The text ends here or goes on with a blank or a line break. -/
def atGap : List Char → Bool
  | [] => true
  | c :: _ => c == ' ' || c == '\t' || isBreak c

/-- A marker of three equal characters, which starts or ends a document, comes next. -/
def atMarker : List Char → Bool
  | '-' :: '-' :: '-' :: rest => atGap rest
  | '.' :: '.' :: '.' :: rest => atGap rest
  | _ => false

namespace Cursor

/-- The place one character on. -/
def next (here : Cursor) : Cursor :=
  match here.rest with
  | [] => here
  | c :: rest =>
    if isBreak c then ⟨rest, here.line + 1, 0, here.index + 1⟩
    else ⟨rest, here.line, if c = '\ufeff' then here.column else here.column + 1, here.index + 1⟩

/-- The place some characters on. -/
def skip (here : Cursor) : Nat → Cursor
  | 0 => here
  | n + 1 => here.next.skip n

end Cursor

/-- The first place from here on that is neither blank nor in a comment, and whether a line break
lies before it. -/
def skipBlank (fuel : Nat) (here : Cursor) (broke comment : Bool) : Cursor × Bool :=
  match fuel, here.rest with
  | fuel + 1, c :: _ =>
    if isBreak c then skipBlank fuel here.next true false
    else if comment || c == ' ' then skipBlank fuel here.next broke comment
    else if c == '#' then skipBlank fuel here.next broke true
    else (here, broke)
  | _, _ => (here, broke)

/-- The characters of a plain scalar up to a blank or to what ends it. -/
def plainChunk (flow : Bool) : List Char → List Char
  | [] => []
  | c :: rest =>
    if c == ' ' || c == '\t' || isBreak c then []
    else if c == ':' && (atGap rest || (flow && (rest.head?.any fun d => ",[]\x7b\x7d".contains d)))
    then []
    else if flow && ",?[]\x7b\x7d".contains c then []
    else c :: plainChunk flow rest

/-- What a run of line breaks in a scalar becomes: one break becomes a space, more become the
breaks after the first. -/
def foldBreaks (first : Char) (more : List Char) : List Char :=
  if breakText first != '\n' then breakText first :: more
  else if more.isEmpty then [' '] else more

/-- The blank lines that follow a line break inside a plain scalar. Nothing if a marker comes. -/
def plainBreaks (fuel : Nat) (here : Cursor) (breaks : List Char) : Option (List Char) × Cursor :=
  match fuel, here.rest with
  | fuel + 1, c :: _ =>
    if c == ' ' then plainBreaks fuel here.next breaks
    else if isBreak c then
      if atMarker here.next.rest then (none, here.next)
      else plainBreaks fuel here.next (breaks ++ [breakText c])
    else (some breaks, here)
  | _, _ => (some breaks, here)

/-- The text that blanks after a chunk of a plain scalar stand for, the place after them, and
whether the line ended. -/
def plainGap (here : Cursor) : List Char × Cursor × Bool :=
  let spaces := here.rest.takeWhile (· == ' ')
  let after := here.skip spaces.length
  match after.rest with
  | c :: _ =>
    if isBreak c then
      if atMarker after.next.rest then ([], after.next, true)
      else
        match plainBreaks after.rest.length after.next [] with
        | (none, after) => ([], after, true)
        | (some breaks, after) => (foldBreaks c breaks, after, true)
    else (spaces, after, false)
  | [] => (spaces, after, false)

/-- Reads a plain scalar that may go on in lines indented by at least `indent`. `text` is what it
has so far, the last character first, and `gap` what the blanks since then stand for. Gives the
text, the place after it, and whether a line ended since its last character. -/
def plainScalar (fuel : Nat) (flow : Bool) (indent : Int) (here : Cursor) (text gap : List Char)
    (broke : Bool) : List Char × Cursor × Bool :=
  match fuel with
  | 0 => (text.reverse, here, broke)
  | fuel + 1 =>
    if here.rest.head? == some '#' then (text.reverse, here, broke)
    else
      let chunk := plainChunk flow here.rest
      if chunk.isEmpty then (text.reverse, here, broke)
      else
        let (spaces, after, broke) := plainGap (here.skip chunk.length)
        let text := chunk.reverse ++ (gap.reverse ++ text)
        if spaces.isEmpty || after.rest.head? == some '#' || (!flow && after.column < indent) then
          (text.reverse, after, broke)
        else plainScalar fuel flow indent after text spaces broke

/-- The characters that single letters stand for after a backslash. -/
def escapes : List (Char × Char) :=
  [('0', '\x00'), ('a', '\x07'), ('b', '\x08'), ('t', '\t'), ('\t', '\t'), ('n', '\n'),
    ('v', '\x0b'), ('f', '\x0c'), ('r', '\r'), ('e', '\x1b'), (' ', ' '), ('\x22', '\x22'),
    ('\\', '\\'), ('/', '/'), ('N', '\x85'), ('_', '\xa0'), ('L', '\u2028'), ('P', '\u2029')]

/-- How many hexadecimal digits follow a letter after a backslash. -/
def hexLengths : List (Char × Nat) := [('x', 2), ('u', 4), ('U', 8)]

/-- The value of a hexadecimal digit. -/
def hexDigit? (c : Char) : Option Nat :=
  if '0' ≤ c && c ≤ '9' then some (c.toNat - '0'.toNat)
  else if 'a' ≤ c && c ≤ 'f' then some (c.toNat - 'a'.toNat + 10)
  else if 'A' ≤ c && c ≤ 'F' then some (c.toNat - 'A'.toNat + 10)
  else none

/-- The code point whose number the first `length` characters give as hexadecimal digits. The number
may be that of a surrogate half, but not greater than those of all characters. -/
def hexCode (length : Nat) (cs : List Char) : Except Stop Nat :=
  let digits := cs.take length
  match digits.mapM hexDigit? with
  | none => .error .malformed
  | some values =>
    if digits.length < length then .error .ended
    else
      let code := values.foldl (16 * · + ·) 0
      if code < 0x110000 then .ok code else .error (.fault (.value (.noCharacter code)))

/-- The line breaks inside a quoted scalar, blanks around them dropped. No marker may come. -/
def quotedBreaks (fuel : Nat) (here : Cursor) (fresh : Bool) (breaks : List Char) :
    Except Stop (List Char × Cursor) :=
  match fuel with
  | 0 => .error .malformed
  | fuel + 1 =>
    if fresh && atMarker here.rest then .error .malformed
    else
      match here.rest with
      | c :: _ =>
        if c == ' ' || c == '\t' then quotedBreaks fuel here.next false breaks
        else if isBreak c then quotedBreaks fuel here.next true (breaks ++ [breakText c])
        else .ok (breaks, here)
      | [] => .error .ended

/-- The code points of characters before some others, of which the last comes first. -/
def pushCodes (cs : List Char) (codes : List Nat) : List Nat :=
  (cs.map Char.toNat).reverse ++ codes

/-- Reads a quoted scalar from the place after its opening quote. `codes` are the code points so
far, the last one first. -/
def quotedScalar (fuel : Nat) (double : Bool) (here : Cursor) (codes : List Nat) :
    Except Stop (List Nat × Cursor) :=
  match fuel, here.rest with
  | _, [] => .error .ended
  | 0, _ => .error .malformed
  | fuel + 1, c :: rest =>
    if c == ' ' || c == '\t' || isBreak c then
      let spaces := here.rest.takeWhile fun c => c == ' ' || c == '\t'
      let after := here.skip spaces.length
      match after.rest with
      | [] => .error .ended
      | d :: _ =>
        if isBreak d then
          match quotedBreaks (fuel + 1) after.next true [] with
          | .error stop => .error stop
          | .ok (breaks, after) =>
            quotedScalar fuel double after (pushCodes (foldBreaks d breaks) codes)
        else quotedScalar fuel double after (pushCodes spaces codes)
    else if double then
      if c == '\x22' then .ok (codes.reverse, here.next)
      else if c == '\\' then
        match rest with
        | [] => .error .ended
        | d :: more =>
          match escapes.lookup d, hexLengths.lookup d with
          | some e, _ => quotedScalar fuel double (here.skip 2) (e.toNat :: codes)
          | none, some length =>
            match hexCode length more with
            | .error stop => .error stop
            | .ok code => quotedScalar fuel double (here.skip (2 + length)) (code :: codes)
          | none, none =>
            if isBreak d then
              match quotedBreaks (fuel + 1) (here.skip 2) true [] with
              | .error stop => .error stop
              | .ok (breaks, after) => quotedScalar fuel double after (pushCodes breaks codes)
            else .error .malformed
      else quotedScalar fuel double here.next (c.toNat :: codes)
    else if c == '\x27' then
      if rest.head? == some '\x27' then quotedScalar fuel double (here.skip 2) (c.toNat :: codes)
      else .ok (codes.reverse, here.next)
    else quotedScalar fuel double here.next (c.toNat :: codes)

/-- A place where a key may have begun: before which lexeme, and where in the text. A required one
is the only thing that its line can be. -/
structure KeyPlace where
  lexeme : Nat
  required : Bool
  line : Nat
  column : Nat
  index : Nat

/-- The place is too far back for its key to be completed at another place. -/
def KeyPlace.isStale (key : KeyPlace) (place : Cursor) : Bool :=
  key.line != place.line || key.index + 1024 < place.index

/-- The state of reading a text: where it is, what has been read, how many brackets are open, the
indentations of the open block collections, innermost first, whether a key may begin here, and the
place where one may have begun for each depth of brackets. -/
structure Layout where
  place : Cursor
  lexemes : List Lexeme := []
  flow : Nat := 0
  indents : List Int := []
  keyAllowed : Bool := true
  keys : List (Nat × KeyPlace) := []

namespace Layout

/-- The indentation of the innermost block collection. -/
def indent (s : Layout) : Int := s.indents.headD (-1)

/-- Adds a lexeme at the end. -/
def push (s : Layout) (lexeme : Lexeme) : Layout :=
  { s with lexemes := s.lexemes ++ [lexeme] }

/-- Goes some characters on. -/
def skip (s : Layout) (count : Nat) : Layout :=
  { s with place := s.place.skip count }

/-- Drops the places whose keys can no longer be completed. One that was required is an error. -/
def dropStale (s : Layout) : Except Stop Layout :=
  if s.keys.any fun entry => entry.2.isStale s.place && entry.2.required then .error .malformed
  else .ok { s with keys := s.keys.filter fun entry => !entry.2.isStale s.place }

/-- Forgets the place of a key at this depth of brackets. -/
def forgetKey (s : Layout) : Except Stop Layout :=
  match s.keys.lookup s.flow with
  | some key =>
    if key.required then .error .malformed
    else .ok { s with keys := s.keys.filter fun entry => entry.1 != s.flow }
  | none => .ok s

/-- Notes that a key may begin here. -/
def noteKey (s : Layout) : Except Stop Layout :=
  if s.keyAllowed then do
    let required := s.flow = 0 && s.indent = s.place.column
    let key : KeyPlace :=
      ⟨s.lexemes.length, required, s.place.line, s.place.column, s.place.index⟩
    let s ← s.forgetKey
    .ok { s with keys := (s.flow, key) :: s.keys }
  else .ok s

/-- Closes the block collections that are indented further than `column`. -/
def unwind (s : Layout) (column : Int) : Layout :=
  if s.flow = 0 then
    let closed := s.indents.takeWhile (column < ·)
    { s with
      indents := s.indents.drop closed.length
      lexemes := s.lexemes ++ closed.map fun _ => .blockEnd }
  else s

/-- Opens a block collection at a column that is indented further than all open ones. -/
def openBlock (s : Layout) (column : Nat) (position : Nat) (lexeme : Lexeme) : Layout :=
  if s.flow = 0 ∧ s.indent < column then
    { s with
      indents := column :: s.indents
      lexemes := s.lexemes.insertIdx position lexeme }
  else s

/-- A mark that starts or ends a document. -/
def marker (s : Layout) (lexeme : Lexeme) : Except Stop Layout := do
  let s ← (s.unwind (-1)).forgetKey
  .ok ({ s with keyAllowed := false }.push lexeme |>.skip 3)

/-- An opening bracket. -/
def openFlow (s : Layout) (lexeme : Lexeme) : Except Stop Layout := do
  let s ← s.noteKey
  .ok ({ s with flow := s.flow + 1, keyAllowed := true }.push lexeme |>.skip 1)

/-- A closing bracket. There must be an open one. -/
def closeFlow (s : Layout) (lexeme : Lexeme) : Except Stop Layout := do
  let s ← s.forgetKey
  if s.flow = 0 then .error .malformed
  else .ok ({ s with flow := s.flow - 1, keyAllowed := false }.push lexeme |>.skip 1)

/-- A comma between items in brackets. -/
def comma (s : Layout) : Except Stop Layout := do
  let s ← s.forgetKey
  .ok ({ s with keyAllowed := true }.push .comma |>.skip 1)

/-- A dash before an item, or a question mark before a key. In a block it may stand only where a
key may begin. -/
def indicator (s : Layout) (collection lexeme : Lexeme) (keyAfter : Bool) : Except Stop Layout :=
  if s.flow = 0 ∧ !s.keyAllowed then .error .malformed
  else do
    let s := s.openBlock s.place.column s.lexemes.length collection
    let s ← s.forgetKey
    .ok ({ s with keyAllowed := keyAfter }.push lexeme |>.skip 1)

/-- A colon before a value. What may have been its key becomes one; without such a place the key is
empty. -/
def colon (s : Layout) : Except Stop Layout :=
  match s.keys.lookup s.flow with
  | some key =>
    let s := { s with
      keys := s.keys.filter fun entry => entry.1 != s.flow
      lexemes := s.lexemes.insertIdx key.lexeme .key }
    let s := s.openBlock key.column key.lexeme .blockMapping
    .ok ({ s with keyAllowed := false }.push .value |>.skip 1)
  | none => s.indicator .blockMapping .value (s.flow = 0)

/-- A quoted scalar. -/
def quoted (s : Layout) (double : Bool) : Except Stop Layout := do
  let s ← s.noteKey
  let start := s.place.next
  let (codes, after) ← quotedScalar (start.rest.length + 1) double start []
  .ok ({ s with keyAllowed := false, place := after }.push (.quoted codes))

/-- A plain scalar. After it a key may begin only on a new line. -/
def plain (s : Layout) : Except Stop Layout := do
  let s ← s.noteKey
  let (text, after, broke) :=
    plainScalar (s.place.rest.length + 1) (s.flow != 0) (s.indent + 1) s.place [] [] false
  .ok ({ s with keyAllowed := broke, place := after }.push (.plain text))

/-- A plain scalar may begin with these characters. -/
def beginsPlain (flow : Bool) (c : Char) (rest : List Char) : Bool :=
  !" \t-?:,[]\x7b\x7d#&*!|>\x27\x22%@\x60".contains c && !isBreak c ||
    (!atGap rest && (c == '-' || (!flow && (c == '?' || c == ':'))))

/-- Reads the next lexeme. Nothing else than the part of YAML described above is read. -/
def step (s : Layout) : Except Stop Layout :=
  match s.place.rest with
  | [] => .ok s
  | c :: rest =>
    if s.place.column = 0 ∧ atMarker s.place.rest then
      s.marker (if c = '-' then .documentStart else .documentEnd)
    else
      match c with
      | '[' => s.openFlow .flowSequence
      | '\x7b' => s.openFlow .flowMapping
      | ']' => s.closeFlow .flowSequenceEnd
      | '\x7d' => s.closeFlow .flowMappingEnd
      | ',' => s.comma
      | '\x27' => s.quoted false
      | '\x22' => s.quoted true
      | c =>
        if c = '-' ∧ atGap rest then s.indicator .blockSequence .item true
        else if c = '?' ∧ (s.flow ≠ 0 ∨ atGap rest) then
          s.indicator .blockMapping .key (s.flow = 0)
        else if c = ':' ∧ (s.flow ≠ 0 ∨ atGap rest) then s.colon
        else if beginsPlain (s.flow != 0) c rest then s.plain
        else .error .malformed

/-- Goes to the next lexeme: past blanks, with the block collections closed that end before it. -/
def settle (s : Layout) (beyond : Option Fault) : Except Stop Layout := do
  let s ← s.dropStale
  let (place, broke) := skipBlank s.place.rest.length s.place false false
  if place.rest.isEmpty && beyond.isSome then .error .ended
  else
    let s := { s with place, keyAllowed := s.keyAllowed || (broke && s.flow = 0) }
    let s ← s.dropStale
    .ok (s.unwind s.place.column)

/-- Reads one lexeme, or gives all of them where the text ends. Where it is not known to end, a
lexeme may go on. -/
def advance (s : Layout) (beyond : Option Fault) : Except Stop (Layout ⊕ List Lexeme) := do
  let s ← s.settle beyond
  if s.place.rest.isEmpty then
    let s ← (s.unwind (-1)).forgetKey
    .ok (.inr s.lexemes)
  else
    let s ← s.step
    if s.place.rest.isEmpty && beyond.isSome then .error .ended else .ok (.inl s)

/-- The lexemes before which nothing will be inserted any more. -/
def settled (s : Layout) : List Lexeme :=
  let places := (s.keys.filter fun entry => !entry.2.isStale s.place).map (·.2.lexeme)
  s.lexemes.take (places.foldl min s.lexemes.length)

end Layout

/-- The lexemes of a text, up to a fault if there is one. -/
structure Lexed where
  lexemes : List Lexeme
  fault : Option Fault := none
  deriving DecidableEq, Repr

/-- Reads lexemes until the text ends. -/
def Layout.run (beyond : Option Fault) (fuel : Nat) (s : Layout) : Lexed :=
  match fuel with
  | 0 => ⟨s.settled, some .malformed⟩
  | fuel + 1 =>
    match s.advance beyond with
    | .error stop => ⟨s.settled, some (stop.toFault beyond)⟩
    | .ok (.inl next) => next.run beyond fuel
    | .ok (.inr lexemes) => ⟨lexemes, none⟩

/-- The lexemes of a text. A mark of byte order at the start is no part of the text. -/
def lex (source : Source) : Lexed :=
  let start : Cursor := { rest := source.text }
  let start := if source.text.head? == some '\ufeff' then start.next else start
  Layout.run source.beyond (source.text.length + 1) { place := start }

end Schedule.Yaml
