import Schedule.Yaml.Source

/-! # Values of plain scalars

A scalar without quotes is nothing, a truth value, a whole number, a fraction or a timestamp if it
has the form of one, and a text otherwise. Whole numbers may be written in base two, eight, ten and
sixteen and, with colons, in base sixty; fractions always have a point. Underscores between digits
are ignored.
-/

namespace Schedule.Yaml

/-- A digit or an underscore. -/
def isDigitOrBar (c : Char) : Bool := isDigit c || c == '_'

/-- A hexadecimal digit or an underscore. -/
def isHexOrBar (c : Char) : Bool :=
  isDigitOrBar c || ('a' ≤ c && c ≤ 'f') || ('A' ≤ c && c ≤ 'F')

/-- An octal digit or an underscore. -/
def isOctalOrBar (c : Char) : Bool := ('0' ≤ c && c ≤ '7') || c == '_'

/-- A binary digit or an underscore. -/
def isBinaryOrBar (c : Char) : Bool := c == '0' || c == '1' || c == '_'

/-- The characters without underscores. -/
def unbarred (cs : List Char) : List Char := cs.filter (· != '_')

/-- The value of one digit, of up to sixteen. -/
def digitValue (c : Char) : Nat :=
  if isDigit c then c.toNat - '0'.toNat
  else if 'a' ≤ c then c.toNat - 'a'.toNat + 10
  else c.toNat - 'A'.toNat + 10

/-- The number that digits denote in a base other than ten. There must be a digit. -/
def inBase (base : Nat) (digits : List Char) : Except ValueFault Nat :=
  if digits.isEmpty then .error (.badNumeral base "")
  else .ok (digits.foldl (fun n c => base * n + digitValue c) 0)

/-- The number that decimal digits denote. -/
def inTen (digits : List Char) : Except ValueFault Nat :=
  (Numeral.read digits).mapError .overlong

/-- Splits at every colon. -/
def colonParts (cs : List Char) : List (List Char) :=
  cs.splitOn ':'

/-- One or two digits, of which the first of two is at most five. -/
def isSixtieth (part : List Char) : Bool :=
  match part with
  | [c] => isDigit c
  | [c, d] => '0' ≤ c && c ≤ '5' && isDigit d
  | _ => false

/-- The whole number that unsigned characters denote, if they have the form of one. -/
def magnitude? (cs : List Char) : Option (Except ValueFault Nat) :=
  match cs with
  | '0' :: 'b' :: more =>
    if !more.isEmpty && more.all isBinaryOrBar then some (inBase 2 (unbarred more)) else none
  | '0' :: 'x' :: more =>
    if !more.isEmpty && more.all isHexOrBar then some (inBase 16 (unbarred more)) else none
  | '0' :: more =>
    if more.all isOctalOrBar then some (inBase 8 ('0' :: unbarred more)) else none
  | c :: more =>
    if '1' ≤ c && c ≤ '9' then
      match colonParts (c :: more) with
      | [digits] => if digits.all isDigitOrBar then some (inTen (unbarred digits)) else none
      | first :: parts =>
        if first.all isDigitOrBar && parts.all isSixtieth then
          some (parts.foldl (fun n part => n.map (60 * · + Numeral.value part))
            (inTen (unbarred first)))
        else none
      | [] => none
    else none
  | [] => none

/-- Takes the sign off a number. -/
def unsigned (cs : List Char) : Bool × List Char :=
  match cs with
  | '-' :: cs => (true, cs)
  | '+' :: cs => (false, cs)
  | cs => (false, cs)

/-- The exponent at the end of a fraction: nothing, or `e`, a sign and digits. -/
def exponent? (cs : List Char) : Option Int :=
  match cs with
  | [] => some 0
  | e :: sign :: digits =>
    if (e == 'e' || e == 'E') && (sign == '+' || sign == '-') && !digits.isEmpty &&
        digits.all isDigit then
      let size : Int := Numeral.value digits
      some (if sign == '-' then -size else size)
    else none
  | _ => none

/-- The fraction with the given digits before and after its point. -/
def fraction (negative : Bool) (before after : List Char) (exponent : Int) : Float :=
  Decimal.ofScientific negative (Numeral.value (before ++ after)) (exponent - after.length)

/-- The fraction that unsigned characters with a point among their digits denote, if they have the
form of one. -/
def pointed? (negative hasSign : Bool) (cs : List Char) : Option Float :=
  let before := cs.takeWhile isDigitOrBar
  match cs.drop before.length with
  | '.' :: more =>
    let after := more.takeWhile isDigitOrBar
    let wellFormed := match before with
      | [] => !hasSign && (after.head?.any isDigit)
      | c :: _ => isDigit c
    if wellFormed then
      (exponent? (more.drop after.length)).map
        (fraction negative (unbarred before) (unbarred after))
    else none
  | _ => none

/-- The sum of some places of a number in base sixty, the lowest first, each times its power of
sixty. Every power up to the highest has to be in the range of fractions. -/
def sumOfPlaces (power : Nat) (sum : Float) : List Float → Except ValueFault Float
  | [] => .ok sum
  | place :: places =>
    let scale := Decimal.ofScientific false (Nat.pow 60 power) 0
    if scale.isInf then .error .tooLarge
    else sumOfPlaces (power + 1) (sum + place * scale) places

/-- The places of a fraction in base sixty, the lowest first, if unsigned characters have the form
of one. Only the lowest one has a point. -/
def places? (cs : List Char) : Option (List Float) :=
  match (colonParts cs).reverse with
  | last :: middle =>
    let whole := last.takeWhile isDigit
    match last.drop whole.length, middle.reverse with
    | '.' :: after, first :: between =>
      if first.head?.any isDigit && first.all isDigitOrBar && between.all isSixtieth &&
          isSixtieth whole && after.all isDigitOrBar then
        some (fraction false whole (unbarred after) 0 ::
          (unbarred first :: between).reverse.map fun place => fraction false place [] 0)
      else none
    | _, _ => none
  | [] => none

/-- The fraction that characters denote, if they have the form of one. -/
def real? (cs : List Char) : Option (Except ValueFault Float) :=
  let (negative, rest) := unsigned cs
  let hasSign := rest.length != cs.length
  let word := String.ofList rest
  if [".inf", ".Inf", ".INF"].contains word then
    some (.ok (if negative then -(1.0 / 0.0) else 1.0 / 0.0))
  else if !hasSign && [".nan", ".NaN", ".NAN"].contains word then some (.ok (0.0 / 0.0))
  else
    match pointed? negative hasSign rest with
    | some value => some (.ok value)
    | none =>
      (places? rest).map fun places =>
        (sumOfPlaces 0 0.0 places).map fun sum => if negative then -sum else sum

/-- The words for truth. -/
def trueWords : List String := ["yes", "Yes", "YES", "true", "True", "TRUE", "on", "On", "ON"]

/-- The words for falsehood. -/
def falseWords : List String := ["no", "No", "NO", "false", "False", "FALSE", "off", "Off", "OFF"]

/-- The words for nothing. -/
def nullWords : List String := ["", "~", "null", "Null", "NULL"]

/-- The value of a number with or without a fraction, if characters have the form of one. -/
def number? (cs : List Char) : Option (Except ValueFault Value) :=
  match real? cs with
  | some read => some (read.map .real)
  | none =>
    let (negative, rest) := unsigned cs
    (magnitude? rest).map fun read =>
      read.map fun size => .integer (if negative then -(size : Int) else size)

/-- The value of a plain scalar. The signs for merging and for a default value have none. -/
def plainValue (cs : List Char) : Except Fault Value :=
  let word := String.ofList cs
  if trueWords.contains word then .ok (.boolean true)
  else if falseWords.contains word then .ok (.boolean false)
  else if nullWords.contains word then .ok .null
  else if word = "=" ∨ word = "<<" then .error .malformed
  else
    match number? cs, Timestamp.read? cs with
    | some read, _ => read.mapError .value
    | none, some read => (read.map .timestamp).mapError fun fault => .value (.badTimestamp fault)
    | none, none => .ok (.text word)

end Schedule.Yaml
