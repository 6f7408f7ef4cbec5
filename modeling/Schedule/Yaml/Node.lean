import Schedule.Yaml.Layout

/-! # Nodes of a configuration file

The lexemes of a text are read as one document, a tree of scalars, sequences and mappings. In a
block an entry may leave out its key or value, and the items of a sequence that is an entry's value
need not be indented; in brackets a pair `key: value` may stand among the items of a sequence.
What is left out is an empty plain scalar.

The number of lexemes bounds both the depth of the tree and the length of every list in it, so it
serves as the fuel of the recursion.
-/

namespace Schedule.Yaml

/-- A node of a document. -/
inductive Node where
  | plain (text : List Char)
  | quoted (codes : List Nat)
  | sequence (items : List Node)
  | mapping (entries : List (Node × Node))
  deriving Inhabited

namespace Node

/-- What stands for a node that is left out. -/
def empty : Node := plain []

/-- A collection is closed or goes on to its next part here, so that a node is left out. -/
def leftOut (ends : List Lexeme) : List Lexeme → Bool
  | [] => false
  | lexeme :: _ => ends.contains lexeme

/-- The lexemes before which an item without content ends in an unindented sequence. -/
def itemEnds : List Lexeme := [.item, .key, .value, .blockEnd]

/-- The lexemes before which a key or value without content ends in a block. -/
def entryEnds : List Lexeme := [.key, .value, .blockEnd]

/-- Why no node can be read from some lexemes: there are none, or the first one is out of place. -/
def stopBefore : List Lexeme → Stop
  | [] => .ended
  | _ => .malformed

/-- What comes after the comma that separates two items. Before the first item there is none. -/
def afterComma (isFirst : Bool) (ls : List Lexeme) : Except Stop (List Lexeme) :=
  if isFirst then .ok ls
  else
    match ls with
    | .comma :: rest => .ok rest
    | ls => .error (stopBefore ls)

mutual

/-- Reads a node: in a block if `block`, and perhaps a sequence that is not indented. -/
def read (fuel : Nat) (block unindented : Bool) (ls : List Lexeme) :
    Except Stop (Node × List Lexeme) :=
  match fuel with
  | 0 => .error .malformed
  | fuel + 1 =>
    match ls with
    | .plain text :: rest => .ok (.plain text, rest)
    | .quoted codes :: rest => .ok (.quoted codes, rest)
    | .flowSequence :: rest =>
      (flowItems fuel true rest).map fun (items, rest) => (.sequence items, rest)
    | .flowMapping :: rest =>
      (flowEntries fuel true rest).map fun (entries, rest) => (.mapping entries, rest)
    | .blockSequence :: rest =>
      if block then (blockItems fuel rest).map fun (items, rest) => (.sequence items, rest)
      else .error .malformed
    | .blockMapping :: rest =>
      if block then (blockEntries fuel rest).map fun (entries, rest) => (.mapping entries, rest)
      else .error .malformed
    | .item :: _ =>
      if unindented then
        (unindentedItems fuel ls).map fun (items, rest) => (.sequence items, rest)
      else .error .malformed
    | ls => .error (stopBefore ls)

/-- Reads a node, or nothing before one of `ends`. -/
def readOr (fuel : Nat) (block unindented : Bool) (ends ls : List Lexeme) :
    Except Stop (Node × List Lexeme) :=
  match fuel with
  | 0 => .error .malformed
  | fuel + 1 => if leftOut ends ls then .ok (empty, ls) else read fuel block unindented ls

/-- The items of a block sequence up to its end. -/
def blockItems (fuel : Nat) (ls : List Lexeme) : Except Stop (List Node × List Lexeme) :=
  match fuel with
  | 0 => .error .malformed
  | fuel + 1 =>
    match ls with
    | .blockEnd :: rest => .ok ([], rest)
    | .item :: rest => do
      let (item, rest) ← readOr fuel true false [.item, .blockEnd] rest
      let (items, rest) ← blockItems fuel rest
      .ok (item :: items, rest)
    | ls => .error (stopBefore ls)

/-- The items of a sequence that is not indented, as far as they go. -/
def unindentedItems (fuel : Nat) (ls : List Lexeme) : Except Stop (List Node × List Lexeme) :=
  match fuel with
  | 0 => .error .malformed
  | fuel + 1 =>
    match ls with
    | .item :: rest => do
      let (item, rest) ← readOr fuel true false itemEnds rest
      let (items, rest) ← unindentedItems fuel rest
      .ok (item :: items, rest)
    | _ => .ok ([], ls)

/-- The entries of a block mapping up to its end. -/
def blockEntries (fuel : Nat) (ls : List Lexeme) :
    Except Stop (List (Node × Node) × List Lexeme) :=
  match fuel with
  | 0 => .error .malformed
  | fuel + 1 =>
    match ls with
    | .blockEnd :: rest => .ok ([], rest)
    | .key :: rest => do
      let (key, rest) ← readOr fuel true true entryEnds rest
      let (value, rest) ← valueOr fuel true entryEnds rest
      let (entries, rest) ← blockEntries fuel rest
      .ok ((key, value) :: entries, rest)
    | ls => .error (stopBefore ls)

/-- The value of an entry, or nothing if no colon comes. -/
def valueOr (fuel : Nat) (block : Bool) (ends ls : List Lexeme) :
    Except Stop (Node × List Lexeme) :=
  match fuel with
  | 0 => .error .malformed
  | fuel + 1 =>
    match ls with
    | .value :: rest => readOr fuel block block ends rest
    | _ => .ok (empty, ls)

/-- The items between square brackets, after the first of which a comma comes before each. -/
def flowItems (fuel : Nat) (isFirst : Bool) (ls : List Lexeme) :
    Except Stop (List Node × List Lexeme) :=
  match fuel with
  | 0 => .error .malformed
  | fuel + 1 =>
    match ls with
    | .flowSequenceEnd :: rest => .ok ([], rest)
    | ls => do
      let ls ← afterComma isFirst ls
      match ls with
      | .flowSequenceEnd :: rest => .ok ([], rest)
      | .key :: rest =>
        let (key, rest) ← readOr fuel false false [.value, .comma, .flowSequenceEnd] rest
        let (value, rest) ← valueOr fuel false [.comma, .flowSequenceEnd] rest
        let (items, rest) ← flowItems fuel false rest
        .ok (.mapping [(key, value)] :: items, rest)
      | ls =>
        let (item, rest) ← read fuel false false ls
        let (items, rest) ← flowItems fuel false rest
        .ok (item :: items, rest)

/-- The entries between braces, after the first of which a comma comes before each. -/
def flowEntries (fuel : Nat) (isFirst : Bool) (ls : List Lexeme) :
    Except Stop (List (Node × Node) × List Lexeme) :=
  match fuel with
  | 0 => .error .malformed
  | fuel + 1 =>
    match ls with
    | .flowMappingEnd :: rest => .ok ([], rest)
    | ls => do
      let ls ← afterComma isFirst ls
      match ls with
      | .flowMappingEnd :: rest => .ok ([], rest)
      | .key :: rest =>
        let (key, rest) ← readOr fuel false false [.value, .comma, .flowMappingEnd] rest
        let (value, rest) ← valueOr fuel false [.comma, .flowMappingEnd] rest
        let (entries, rest) ← flowEntries fuel false rest
        .ok ((key, value) :: entries, rest)
      | ls =>
        let (key, rest) ← read fuel false false ls
        let (entries, rest) ← flowEntries fuel false rest
        .ok ((key, empty) :: entries, rest)

end

/-- The node that some lexemes begin with, after the mark of the document's start if there is one.
Without any lexemes it is empty. -/
def root (ls : List Lexeme) : Except Stop (Node × List Lexeme) :=
  let fuel := 3 * ls.length + 3
  match ls with
  | [] | [.documentStart] => .ok (empty, [])
  | .documentStart :: rest => readOr fuel true false [.documentStart, .documentEnd] rest
  | ls => read fuel true false ls

/-- The one document that some lexemes make up. Those before a fault are looked at first. -/
def document (source : Lexed) : Except Fault Node :=
  match root source.lexemes with
  | .error stop => .error (stop.toFault source.fault)
  | .ok (node, rest) =>
    if rest.all (· = .documentEnd) then
      match source.fault with
      | none => .ok node
      | some fault => .error fault
    else .error .malformed

end Node

end Schedule.Yaml
