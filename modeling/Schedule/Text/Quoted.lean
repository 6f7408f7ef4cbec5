import Schedule.Text.Printable

/-! # Quoted text

Messages quote what they were given. A text stands in single quotes, or in double quotes if it
holds a single quote and no double one; the quote in use and the backslash are escaped, line
breaks and tabs have letters of their own, and any other character that is not printable is
written as a number of two, four or eight hexadecimal digits.

A text may also be given by code points of which some are no characters, namely one half of a
surrogate pair each. A half is always written as a number.
-/

namespace Schedule.Text

/-- The last `width` hexadecimal digits of `n`, in lower case. -/
def hexDigits (width n : Nat) : List Char :=
  match width with
  | 0 => []
  | width + 1 => hexDigits width (n / 16) ++ [Nat.digitChar (n % 16)]

/-- A code point that is not printable, as a number in the shortest of the three forms. -/
def numericEscape (code : Nat) : List Char :=
  if code < 0x100 then '\\' :: 'x' :: hexDigits 2 code
  else if code < 0x10000 then '\\' :: 'u' :: hexDigits 4 code
  else '\\' :: 'U' :: hexDigits 8 code

/-- One character of a text that stands between quotes of the kind `mark`. -/
def quoteChar (mark c : Char) : List Char :=
  if c = mark ∨ c = '\\' then ['\\', c]
  else if c = '\n' then ['\\', 'n']
  else if c = '\r' then ['\\', 'r']
  else if c = '\t' then ['\\', 't']
  else if isPrintable c then [c]
  else numericEscape c.toNat

/-- The kind of quote that encloses a text. -/
def quoteMark (cs : List Char) : Char :=
  if cs.contains '\x27' && !cs.contains '\x22' then '\x22' else '\x27'

/-- A text between quotes, as messages show it. -/
def quote (text : String) : String :=
  let mark := quoteMark text.toList
  String.ofList (mark :: text.toList.flatMap (quoteChar mark) ++ [mark])

/-- The character that a code point is, unless it is half of a surrogate pair. -/
def char? (code : Nat) : Option Char :=
  if code.isValidChar then some (Char.ofNat code) else none

/-- One code point of a text that stands between quotes of the kind `mark`. -/
def quoteCode (mark : Char) (code : Nat) : List Char :=
  match char? code with
  | some c => quoteChar mark c
  | none => numericEscape code

/-- A text of code points between quotes, as messages show it. -/
def quoteCodes (codes : List Nat) : String :=
  let mark := quoteMark (codes.filterMap char?)
  String.ofList (mark :: codes.flatMap (quoteCode mark) ++ [mark])

end Schedule.Text
