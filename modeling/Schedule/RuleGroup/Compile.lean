import Schedule.RuleGroup
import Schedule.RuleGroup.Normal

/-! # Compiling trees

Each top-level expression named `group` compiles to a rule group of its own; all other top-level
expressions together make one more group, which comes last. Inside a group every expression names
a field, and its arguments are added to that field one after another. Time fields finer than the
finest one that a group constrains are pinned to zero, so that nine o'clock means the first second
of that hour.
-/

namespace Schedule

/-- The outcome of a fault at a token. -/
def mistake {α : Type} (fault : Fault) (token : Token) : Except Mistake α :=
  .error ⟨fault, token⟩

namespace RuleGroup

/-- Adds the argument of an expression of the given field and name. -/
def addArgument (field : Field) (name : String) (group : RuleGroup) :
    Node → Except Mistake RuleGroup
  | .expression _ first _ => mistake (.nestedExpression name) first
  | .literal l =>
    match normalize field l with
    | .ok range => .ok (group.add field range l.exclude)
    | .error fault => mistake fault l.first

/-- Pins the given fields to zero up to the first that the group constrains. -/
def pin (group : RuleGroup) : List Field → RuleGroup
  | [] => group
  | field :: rest =>
    if group.has field then group
    else pin { group with includes := group.includes.set field (some [.single 0]) } rest

/-- A group that is being compiled: what it holds so far, and whether something has been set. -/
structure Draft where
  group : RuleGroup := empty
  somethingSet : Bool := false

namespace Draft

/-- Adds an argument to the group, so that something has been set. -/
def addArgument (field : Field) (name : String) (draft : Draft) (argument : Node) :
    Except Mistake Draft :=
  (draft.group.addArgument field name argument).map fun group => ⟨group, true⟩

/-- Adds what an expression says about its field. Without arguments it means every value, which for
dates needs no range and else is a wildcard. -/
def addExpression (draft : Draft) : Node → Except Mistake Draft
  | .literal l => mistake .expectedRule l.first
  | .expression name first arguments =>
    if isGroupName name then mistake .nestedGroup first
    else
      match Field.ofName? name with
      | none => mistake (.unknownExpression name) first
      | some field =>
        let group := { draft.group with hasDates := draft.group.hasDates || field == .dates }
        if arguments.isEmpty && field == .dates then .ok ⟨group, true⟩
        else
          let arguments :=
            if arguments.isEmpty then [.literal ⟨.wildcard, first, false, none⟩] else arguments
          arguments.foldlM (addArgument field name) { draft with group }

end Draft

/-- The group that some expressions make. `anchor` is blamed if nothing is set by them. -/
def compile (anchor : Token) (expressions : List Node) : Except Mistake RuleGroup := do
  let draft ← expressions.foldlM Draft.addExpression {}
  if draft.somethingSet then .ok (draft.group.pin Field.times) else mistake .noRules anchor

end RuleGroup

/-- What has been made of the top-level expressions so far: the groups of those named `group`, and
the others, which are yet to be compiled. -/
structure Gathered where
  groups : List RuleGroup := []
  implicit : List Node := []

/-- Compiles a top-level expression named `group`, and puts any other aside. -/
def Gathered.take (gathered : Gathered) : Node → Except Mistake Gathered
  | .literal l => mistake .looseArgument l.first
  | .expression name first arguments =>
    if isGroupName name then
      (RuleGroup.compile first arguments).map fun group =>
        { gathered with groups := gathered.groups ++ [group] }
    else
      .ok { gathered with implicit := gathered.implicit ++ [.expression name first arguments] }

/-- The groups that have been gathered, with that of the expressions put aside, if there are any. -/
def Gathered.finish (gathered : Gathered) : Except Mistake (List RuleGroup) :=
  match gathered.implicit with
  | [] => .ok gathered.groups
  | rule :: rules =>
    (RuleGroup.compile rule.first (rule :: rules)).map fun group => gathered.groups ++ [group]

/-- Compiles a document: the explicit groups in order, then the implicit one. -/
def compileNodes (nodes : List Node) : Except Mistake (List RuleGroup) := do
  let gathered ← nodes.foldlM Gathered.take {}
  let groups ← gathered.finish
  if groups.isEmpty then mistake .noRules ⟨0, ""⟩ else .ok groups

end Schedule
