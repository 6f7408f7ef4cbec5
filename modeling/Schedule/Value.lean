import Schedule.Decimal.Notation
import Schedule.Numeral
import Schedule.Text.Quoted
import Schedule.Timestamp

/-! # Values of settings

A configuration gives its settings as values of any kind: nothing, a truth value, a whole number,
a fraction, a text, a timestamp, a list, a mapping, whose entries keep their order, or an object of
a kind that is not looked into. Messages show a value as it would be written in an expression of the
configuration's own notation, unless it holds a number that is too long to be written.
-/

namespace Schedule

/-- A value that a configuration may hold. A broken text has code points that are no characters. Of
an object it is known how messages show it, if they can, and whether it says nothing. -/
inductive Value where
  | null
  | boolean (value : Bool)
  | integer (value : Int)
  | real (value : Float)
  | text (value : String)
  | brokenText (codes : List Nat)
  | timestamp (value : Timestamp)
  | sequence (items : List Value)
  | mapping (entries : List (Value × Value))
  | object (shown? : Option String) (void : Bool)
  deriving Inhabited

/-- Entries in the order in which their keys first came. -/
abbrev Mapping := List (Value × Value)

/-- Why something is no value, or a value that cannot be used or shown: a text that is no number
in its base, a numeral or a number that is too long, an escape for a character that there is not,
a number too large for a fraction, or a timestamp that no calendar and no clock has. -/
inductive ValueFault where
  | badNumeral (base : Nat) (text : String)
  | overlong (numeral : Numeral.Overlong)
  | unwritable
  | noCharacter (code : Nat)
  | tooLarge
  | badTimestamp (fault : TimestampFault)
  deriving DecidableEq, Repr

/-- The kind of a fault: a number that has no room for it, or a value that is none. -/
def ValueFault.kind : ValueFault → String
  | noCharacter code => if code < Nat.pow 2 31 then "value" else "overflow"
  | tooLarge => "overflow"
  | badNumeral _ _ | overlong _ | unwritable | badTimestamp _ => "value"

/-- The text shown for a fault. The text of a bad numeral is cut short if it is long. -/
def ValueFault.message : ValueFault → String
  | badNumeral base text =>
    "invalid literal for int() with base " ++ toString base ++ ": " ++
      String.ofList ((Text.quote text).toList.take 200)
  | overlong numeral => numeral.message
  | unwritable => Numeral.unwritableMessage
  | noCharacter code =>
    if code < Nat.pow 2 31 then "chr() arg not in range(0x110000)"
    else "Python int too large to convert to C int"
  | tooLarge => "int too large to convert to float"
  | badTimestamp fault => fault.message

namespace Value

/-- The text with the given code points. -/
def ofCodes (codes : List Nat) : Value :=
  match codes.mapM Text.char? with
  | some chars => text (String.ofList chars)
  | none => brokenText codes

mutual

/-- A value as messages show it. -/
def describe : Value → String
  | null => "None"
  | boolean true => "True"
  | boolean false => "False"
  | integer value => toString value
  | real value => Decimal.text value
  | text value => Text.quote value
  | brokenText codes => Text.quoteCodes codes
  | timestamp value => value.describe
  | sequence items => "[" ++ ", ".intercalate (describeItems items) ++ "]"
  | mapping entries => "\x7b" ++ ", ".intercalate (describeEntries entries) ++ "\x7d"
  | object shown? _ => shown?.getD ""

/-- The items of a list as messages show them. -/
def describeItems : List Value → List String
  | [] => []
  | item :: items => describe item :: describeItems items

/-- The entries of a mapping as messages show them. -/
def describeEntries : List (Value × Value) → List String
  | [] => []
  | (key, value) :: entries => (describe key ++ ": " ++ describe value) :: describeEntries entries

end

mutual

/-- Every number in a value is short enough to be written, and messages can show the objects. -/
def isWritable : Value → Bool
  | integer value => Numeral.isWritable value
  | object shown? _ => shown?.isSome
  | sequence items => areWritable items
  | mapping entries => areWritableEntries entries
  | _ => true

/-- Every number in some values is short enough to be written. -/
def areWritable : List Value → Bool
  | [] => true
  | item :: items => isWritable item && areWritable items

/-- Every number in some entries is short enough to be written. -/
def areWritableEntries : List (Value × Value) → Bool
  | [] => true
  | (key, value) :: entries => isWritable key && isWritable value && areWritableEntries entries

end

/-- A value where a text is wanted: a text as it is, a timestamp as it is written, any other value
as messages show it. -/
def asText : Value → String
  | text value => value
  | timestamp value => value.text
  | value => value.describe

/-- The value says nothing: it is absent, false, zero, or empty. -/
def isVoid : Value → Bool
  | null => true
  | boolean value => !value
  | integer value => value == 0
  | real value => value == 0.0
  | text value => value.isEmpty
  | brokenText codes => codes.isEmpty
  | timestamp _ => false
  | sequence items => items.isEmpty
  | mapping entries => entries.isEmpty
  | object _ void => void

/-- The whole number that a truth value or a number equals. -/
def whole? : Value → Option Int
  | boolean value => some (if value then 1 else 0)
  | integer value => some value
  | real value => Decimal.whole? value
  | _ => none

/-- Whether two values are the same key of a mapping. Numbers are compared by their value, the
truth values count as one and zero, and what is no number is one key. Objects are told apart by how
they are shown. -/
def sameKey : Value → Value → Bool
  | null, null => true
  | text a, text b => a == b
  | brokenText a, brokenText b => a == b
  | timestamp a, timestamp b => a.same b
  | real a, real b => a == b || (a.isNaN && b.isNaN)
  | object a _, object b _ => a == b
  | a, b =>
    match a.whole?, b.whole? with
    | some m, some n => m == n
    | _, _ => false

end Value

namespace Mapping

/-- The value of a key. -/
def find? (entries : Mapping) (key : Value) : Option Value :=
  (List.find? (fun entry => entry.1.sameKey key) entries).map (·.2)

/-- Gives a key its value. A key that is there already keeps its place and its spelling. -/
def put (entries : Mapping) (key value : Value) : Mapping :=
  match entries with
  | [] => [(key, value)]
  | entry :: rest =>
    if entry.1.sameKey key then (entry.1, value) :: rest else entry :: put rest key value

end Mapping

end Schedule
