/-! # The fewest digits that read back

A binary fraction `mantissa · 2 ^ exponent` is shown with the fewest decimal digits that are read
back as the same number. The numbers that read back form an interval around it, whose ends belong
to it when the mantissa is even. For one digit, two digits and so on the two neighbours on that
decimal grid are tried in exact arithmetic, and the nearer one that lies in the interval is taken;
seventeen digits always suffice.
-/

namespace Schedule.Decimal

/-- A positive decimal number `digits · 10 ^ exponent`. -/
structure Scientific where
  digits : Nat
  exponent : Int
  deriving DecidableEq, Repr

/-- A positive number as the quotient `middle / scale`, with the interval of quotients that round
to it. The ends belong to the interval if `closed`. -/
structure Interval where
  low : Nat
  middle : Nat
  high : Nat
  scale : Nat
  closed : Bool

namespace Interval

/-- The interval around `mantissa · 2 ^ exponent` with 53 bits of mantissa. Below a power of two
the numbers lie twice as dense. -/
def around (mantissa : Nat) (exponent : Int) : Interval :=
  let up := Nat.pow 2 (exponent - 2).toNat
  let below := if mantissa = Nat.pow 2 52 ∧ -1074 < exponent then 1 else 2
  ⟨(4 * mantissa - below) * up, 4 * mantissa * up, (4 * mantissa + 2) * up,
    Nat.pow 2 (2 - exponent).toNat, mantissa % 2 = 0⟩

/-- The interval in units of `10 ^ power`. -/
def inUnits (i : Interval) (power : Int) : Interval :=
  let up := Nat.pow 10 (-power).toNat
  ⟨i.low * up, i.middle * up, i.high * up, i.scale * Nat.pow 10 power.toNat, i.closed⟩

/-- The whole number `n` lies in the interval. -/
def holds (i : Interval) (n : Nat) : Bool :=
  if i.closed then i.low ≤ n * i.scale && n * i.scale ≤ i.high
  else i.low < n * i.scale && n * i.scale < i.high

/-- The whole number in the interval that is nearest to its middle, of the two around it; of two
at the same distance the even one. -/
def nearest? (i : Interval) : Option Nat :=
  let below := i.middle / i.scale
  let rest := i.middle % i.scale
  match i.holds below, i.holds (below + 1) with
  | true, true =>
    if 2 * rest < i.scale ∨ (2 * rest = i.scale ∧ below % 2 = 0) then some below
    else some (below + 1)
  | true, false => some below
  | false, true => some (below + 1)
  | false, false => none

/-- The power of ten of the first digit of the middle. -/
def magnitude (i : Interval) : Int :=
  if i.scale ≤ i.middle then ((Nat.toDigits 10 (i.middle / i.scale)).length : Int) - 1
  else -((Nat.toDigits 10 ((i.scale - 1) / i.middle)).length : Int)

/-- The shortest decimal with at least `17 - more` digits. -/
def shortestFrom (i : Interval) : (more : Nat) → Scientific
  | 0 => ⟨(i.inUnits (i.magnitude - 16)).middle / (i.inUnits (i.magnitude - 16)).scale,
      i.magnitude - 16⟩
  | more + 1 =>
    let power := i.magnitude - (16 - more : Int)
    match (i.inUnits power).nearest? with
    | some digits => ⟨digits, power⟩
    | none => shortestFrom i more

end Interval

/-- The shortest decimal that reads back as `mantissa · 2 ^ exponent`. -/
def shortest (mantissa : Nat) (exponent : Int) : Scientific :=
  (Interval.around mantissa exponent).shortestFrom 17

end Schedule.Decimal
