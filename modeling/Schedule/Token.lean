import Schedule.Weekday

/-! # Tokens

A schedule is read as a list of tokens: the seven marks `( ) - , ! / %`, each a token by itself,
and the words between marks and blanks. `tokenize` cuts a text into them and records where each
one began, counted in characters from the start of the text.
-/

namespace Schedule

/-- A word or mark and the offset of its first character. -/
structure Token where
  index : Int
  value : String
  deriving DecidableEq, Repr, Inhabited

/-- The characters that separate words and belong to none. -/
def isBlank (c : Char) : Bool :=
  c == ' ' || c == '\t' || c == '\n' || c == '\r'

/-- The characters that are tokens by themselves. -/
def isMark (c : Char) : Bool :=
  c == '(' || c == ')' || c == '-' || c == ',' || c == '!' || c == '/' || c == '%'

/-- A decimal digit `0` to `9`. -/
def isDigit (c : Char) : Bool :=
  '0' ≤ c && c ≤ '9'

/-- An ASCII letter of either case. -/
def isLetter (c : Char) : Bool :=
  ('a' ≤ c && c ≤ 'z') || ('A' ≤ c && c ≤ 'Z')

/-- A character that may follow the first one of an identifier. -/
def isNameChar (c : Char) : Bool :=
  isLetter c || isDigit c || c == '_'

namespace Token

/-- The token is a single mark. -/
def isMark (t : Token) : Bool :=
  match t.value.toList with
  | [c] => Schedule.isMark c
  | _ => false

/-- The token is a run of one or more digits. -/
def isNumber (t : Token) : Bool :=
  !t.value.toList.isEmpty && t.value.toList.all isDigit

/-- The token is a letter followed by letters, digits and underscores. -/
def isIdentifier (t : Token) : Bool :=
  match t.value.toList with
  | [] => false
  | c :: cs => isLetter c && cs.all isNameChar

/-- The weekday that the token spells. -/
def weekday? (t : Token) : Option Weekday :=
  Weekday.ofWord? t.value

/-- The token spells a weekday. -/
def isWeekday (t : Token) : Bool :=
  t.weekday?.isSome

/-- The token can name an expression: it is an identifier and spells no weekday. -/
def isName (t : Token) : Bool :=
  t.isIdentifier && !t.isWeekday

end Token

/-- Puts the word that ends before `offset` in front of `rest`. The characters of `word` come
newest first; an empty word is no token. -/
def closeWord (offset : Nat) (word : List Char) (rest : List Token) : List Token :=
  match word with
  | [] => rest
  | _ => ⟨(offset - word.length : Nat), String.ofList word.reverse⟩ :: rest

/-- The tokens of the characters from `offset` on, after the unfinished `word`, whose characters
come newest first. -/
def scan (offset : Nat) (word : List Char) : List Char → List Token
  | [] => closeWord offset word []
  | c :: cs =>
    if isBlank c then closeWord offset word (scan (offset + 1) [] cs)
    else if isMark c then
      closeWord offset word (⟨offset, String.singleton c⟩ :: scan (offset + 1) [] cs)
    else scan (offset + 1) (c :: word) cs

/-- Cuts a text into its tokens. -/
def tokenize (text : String) : List Token :=
  scan 0 [] text.toList

end Schedule
