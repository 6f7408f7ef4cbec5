import Schedule.DocumentReader
import Schedule.Yaml.Node
import Schedule.Yaml.Scalar

/-! # Reading configuration files

A configuration file is a text in the part of YAML described with its layout. It is read as one
value.

Scalars are valued level by level: first those that stand in the outermost collection, from left to
right, then those in the collections within it, and so on. What is met first in this order and has
no value decides why the file has none. A collection that stands as a key counts as such when it is
met; what it holds is not looked at.

In a mapping the key `<<` merges other mappings into it, whose entries come before its own, and the
key `=` is a text.
-/

namespace Schedule.Yaml

namespace Node

mutual

/-- How deep collections are nested in a node. -/
def depth : Node → Nat
  | plain _ | quoted _ => 0
  | sequence items => depthOf items + 1
  | mapping entries => depthOfEntries entries + 1

/-- How deep collections are nested in some nodes. -/
def depthOf : List Node → Nat
  | [] => 0
  | item :: items => max (depth item) (depthOf items)

/-- How deep collections are nested in some entries. -/
def depthOfEntries : List (Node × Node) → Nat
  | [] => 0
  | (key, content) :: entries => max (max (depth key) (depth content)) (depthOfEntries entries)

end

/-- The value of a scalar. A collection is valued by what it holds, so it is `none` here. -/
def scalar? : Node → Except Fault (Option Value)
  | plain text => (plainValue text).map some
  | quoted codes => .ok (some (.ofCodes codes))
  | sequence _ | mapping _ => .ok none

/-- The key under which mappings are merged. -/
def isMerge : Node → Bool
  | plain text => text == ['<', '<']
  | _ => false

/-- A key of a mapping, where the sign for a default value is a text. -/
def asKey : Node → Node
  | plain ['='] => quoted ['='.toNat]
  | key => key

/-- The entries of a mapping, with those merged into it before its own. Of several mappings merged
together the entries of the first come last, so that they win. -/
def merged (fuel : Nat) (entries : List (Node × Node)) : Except Fault (List (Node × Node)) :=
  match fuel with
  | 0 => .error .malformed
  | fuel + 1 => do
    let ofMapping : Node → Except Fault (List (Node × Node))
      | mapping entries => merged fuel entries
      | _ => .error .malformed
    let parts ← (entries.filter fun entry => isMerge entry.1).mapM fun entry =>
      match entry.2 with
      | sequence items => do .ok (← items.mapM ofMapping).reverse.flatten
      | content => ofMapping content
    let own := (entries.filter fun entry => !isMerge entry.1).map fun entry =>
      (asKey entry.1, entry.2)
    .ok (parts.flatten ++ own)

/-- The collections directly in a node that is met, of which it may be one itself. -/
def met (node : Node) : Except Fault (List Node) := do
  match ← node.scalar? with
  | some _ => .ok []
  | none => .ok [node]

/-- The collections directly in a node, whose scalars are valued in order. None may be a key. -/
def within (fuel : Nat) : Node → Except Fault (List Node)
  | plain _ | quoted _ => .ok []
  | sequence items => do .ok (← items.mapM met).flatten
  | mapping entries => do
    let parts ← (← merged fuel entries).mapM fun (key, content) => do
      match ← key.scalar? with
      | some _ => met content
      | none => .error .malformed
    .ok parts.flatten

/-- Values all scalars in some nodes, level by level. -/
def inspect (fuel : Nat) (nodes : List Node) : Except Fault Unit :=
  match fuel with
  | 0 => .ok ()
  | fuel + 1 => do inspect fuel (← nodes.mapM (within (fuel + 1))).flatten

/-- The value of a node. Of entries with the same key the last one counts. -/
def build (fuel : Nat) (node : Node) : Except Fault Value :=
  match fuel, node with
  | 0, _ => .error .malformed
  | _, plain text => plainValue text
  | _, quoted codes => .ok (.ofCodes codes)
  | fuel + 1, sequence items => (items.mapM (build fuel)).map .sequence
  | fuel + 1, mapping entries => do
    let entries ← merged (fuel + 1) entries
    let entries ← entries.mapM fun (key, content) => do
      .ok (← build fuel key, ← build fuel content)
    .ok (.mapping (entries.foldl (fun before entry => Mapping.put before entry.1 entry.2) []))

/-- The value of a document. -/
def value (node : Node) : Except Fault Value := do
  let fuel := node.depth + 1
  let nodes ← node.met
  inspect fuel nodes
  build fuel node

end Node

/-- Reads the content of a file as a value. -/
def read (content : ByteArray) : Except Fault Value := do
  let node ← Node.document (lex (.ofBytes content))
  node.value

/-- A fault as the user of any reader gets it. Of malformed files no particulars are told. -/
def Fault.toDocumentFault : Fault → DocumentFault
  | malformed => .malformed "malformed"
  | undecodable fault => .undecodable fault.message
  | value fault => .failed fault.kind fault.message

/-- The reader of configuration files. -/
def reader : DocumentReader := fun content =>
  (read content).mapError Fault.toDocumentFault

/-- What is read of a content from its lexemes. -/
theorem reader_eq {content : ByteArray} {source : Source} {lexed : Lexed}
    (text : .ofBytes content = source) (lexemes : lex source = lexed) :
    reader content =
      ((Node.document lexed).bind Node.value).mapError Fault.toDocumentFault := by
  subst text lexemes
  rfl

end Schedule.Yaml
