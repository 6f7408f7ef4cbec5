import Schedule.Decimal.Shortest

/-! # Writing and reading fractions

How a 64-bit binary fraction is written in decimal and how one is read. Written numbers always
show that they are fractions: by a point, an exponent, or the words for infinity and for what is
no number.
-/

namespace Schedule.Decimal

/-- How numbers are laid out: positionally while the point falls at most `pointsBefore` places
before the first digit or `pointsAfter` places after it, else with an exponent. -/
structure Layout where
  pointsBefore : Int
  pointsAfter : Int
  exponentDigits : Nat
  infinity : String
  notANumber : String

/-- Numbers from 0.0001 up to below 10^16 are written positionally; an exponent has a sign and at
least two digits. -/
def layout : Layout := ⟨3, 16, 2, "inf", "nan"⟩

/-- Zeros. -/
def zeros (count : Int) : List Char := List.replicate count.toNat '0'

/-- The digits with the point after the first `point` of them. -/
def positional (digits : List Char) (point : Int) : List Char :=
  if point ≤ 0 then ['0', '.'] ++ zeros (-point) ++ digits
  else if digits.length ≤ point then digits ++ zeros (point - digits.length) ++ ['.', '0']
  else digits.take point.toNat ++ ['.'] ++ digits.drop point.toNat

/-- The digits with the point after the first one and an exponent. -/
def exponential (layout : Layout) (digits : List Char) (exponent : Int) : List Char :=
  let mantissa := match digits with
    | first :: second :: rest => first :: '.' :: second :: rest
    | _ => digits
  let places := Nat.toDigits 10 exponent.natAbs
  mantissa ++ ['e', if exponent < 0 then '-' else '+'] ++
    List.replicate (layout.exponentDigits - places.length) '0' ++ places

/-- Digits without the zeros at their end. -/
def trimZeros (digits : List Char) : List Char :=
  (digits.reverse.dropWhile (· == '0')).reverse

/-- A positive decimal, written out. -/
def Scientific.text (layout : Layout) (number : Scientific) : List Char :=
  let all := Nat.toDigits 10 number.digits
  let point := all.length + number.exponent
  let digits := trimZeros all
  if -layout.pointsBefore ≤ point ∧ point ≤ layout.pointsAfter then positional digits point
  else exponential layout digits (point - 1)

/-- What the 64 bits of a fraction stand for. -/
inductive Decoded where
  | finite (negative : Bool) (mantissa : Nat) (exponent : Int)
  | infinite (negative : Bool)
  | notANumber
  deriving DecidableEq, Repr

/-- Decodes a fraction: a finite one is its mantissa times two to its exponent. -/
def decode (x : Float) : Decoded :=
  let bits : Nat := x.toBits.toNat
  let negative := bits / Nat.pow 2 63 = 1
  let exponent : Nat := bits / Nat.pow 2 52 % Nat.pow 2 11
  let fraction : Nat := bits % Nat.pow 2 52
  if exponent = 2047 then if fraction = 0 then .infinite negative else .notANumber
  else if exponent = 0 then .finite negative fraction (-1074)
  else .finite negative (Nat.pow 2 52 + fraction) ((exponent : Int) - 1075)

/-- The minus sign of a negative number. -/
def sign (negative : Bool) : List Char := if negative then ['-'] else []

/-- A 64-bit fraction, written with the fewest digits that read back. -/
def text (x : Float) : String :=
  match decode x with
  | .notANumber => layout.notANumber
  | .infinite negative => String.ofList (sign negative ++ layout.infinity.toList)
  | .finite negative 0 _ => String.ofList (sign negative ++ positional ['0'] 1)
  | .finite negative mantissa exponent =>
    String.ofList (sign negative ++ (shortest mantissa exponent).text layout)

/-- The whole number that a fraction equals, if it equals one. -/
def whole? (x : Float) : Option Int :=
  match decode x with
  | .finite negative mantissa exponent =>
    let up := mantissa * Nat.pow 2 exponent.toNat
    let down := Nat.pow 2 (-exponent).toNat
    if up % down = 0 then
      some (if negative then -((up / down : Nat) : Int) else ((up / down : Nat) : Int))
    else none
  | _ => none

/-- The 64-bit fraction nearest to `digits · 10 ^ exponent`, with the given sign. Numbers too
large are infinite and numbers too small are zero, however long their exponent is. -/
def ofScientific (negative : Bool) (digits : Nat) (exponent : Int) : Float :=
  let size := exponent + ((Nat.toDigits 10 digits).length : Int)
  let x := if digits = 0 ∨ size < -400 then 0.0
    else if 400 < size then 1.0 / 0.0
    else Float.ofScientific digits (exponent < 0) exponent.natAbs
  if negative then -x else x

end Schedule.Decimal
