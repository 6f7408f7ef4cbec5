/-! # Numerals

Whole numbers are written with the digits `0` to `9`. How long a numeral may get is limited: one
of more than 4300 digits is not read, whatever its value, and a number that would need more digits
is not written.
-/

namespace Schedule.Numeral

/-- The most digits a numeral may have to be read or written at all. -/
def longest : Nat := 4300

/-- A numeral with more digits than are ever read. -/
structure Overlong where
  digits : Nat
  deriving DecidableEq, Repr

/-- The text shown for a numeral that is not read. -/
def Overlong.message (fault : Overlong) : String :=
  "Exceeds the limit (" ++ toString longest ++
    " digits) for integer string conversion: value has " ++ toString fault.digits ++
    " digits; use sys.set_int_max_str_digits() to increase the limit"

/-- Whether a number has few enough digits to be written. -/
def isWritable (n : Int) : Bool :=
  n.natAbs < Nat.pow 10 longest

/-- The text shown for a number that is not written. -/
def unwritableMessage : String :=
  "Exceeds the limit (" ++ toString longest ++
    " digits) for integer string conversion; use sys.set_int_max_str_digits() to increase the limit"

/-- The number that some decimal digits denote. -/
def value (digits : List Char) : Nat :=
  Nat.ofDigitChars 10 digits 0

/-- Reads a numeral, unless it is too long. -/
def read (digits : List Char) : Except Overlong Nat :=
  if longest < digits.length then .error ⟨digits.length⟩ else .ok (value digits)

end Schedule.Numeral
