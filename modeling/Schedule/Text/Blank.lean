/-! # Blank space around values

A setting that is written as text may be padded with blank space of any script: the 25 characters
with the white-space property and the four separators `0x1c` to `0x1f`.
-/

namespace Schedule.Text

/-- A character that counts as padding around a value. -/
def isSpace (c : Char) : Bool :=
  let n := c.toNat
  (0x09 ≤ n && n ≤ 0x0d) || (0x1c ≤ n && n ≤ 0x20) || n == 0x85 || n == 0xa0 || n == 0x1680 ||
    (0x2000 ≤ n && n ≤ 0x200a) || n == 0x2028 || n == 0x2029 || n == 0x202f || n == 0x205f ||
    n == 0x3000

/-- One of the four information separators, which pad a text but may not pad a number. -/
def isSeparator (c : Char) : Bool :=
  0x1c ≤ c.toNat && c.toNat ≤ 0x1f

/-- The characters between the padding at both ends. -/
def strip (cs : List Char) : List Char :=
  ((cs.dropWhile isSpace).reverse.dropWhile isSpace).reverse

end Schedule.Text
